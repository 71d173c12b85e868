import Filing.Command.Arguments
import Filing.Instant.Text

/-!
# Commands

What the program can be asked for on its command line.

* `Command` with `Command.ofArguments?` — the command that arguments spell.
-/

set_option autoImplicit false

namespace Filing

/-- What the program can be asked for. -/
inductive Command where
  | version
  /-- The fee of a form type at an instant, from a catalog that files may hold. -/
  | fee (formType : String) (asOf : Option Instant) (formsPath paymentsPath : Option String)
  /-- A walk through the lifecycle of a submission.  One of its files may be infected, or the
  registration system may reject it. -/
  | demo (start : Option Instant) (infected rejected : Bool)

namespace Command

/-- The path that a text names. -/
def path? (s : String) : Option String :=
  if s.isEmpty then none else some s

/-- The question for a fee. -/
def feeOfArguments (args : List String) : Except UsageError Command := do
  let a ← Arguments.read
    [⟨"as-of", true⟩, ⟨"forms-csv", true⟩, ⟨"payments-csv", true⟩] 1 args
  match a.operands with
  | [] => throw (.missingOperand "form type")
  | formType :: _ =>
    return .fee formType (← a.parsed? "as-of" Instant.ofText?) (← a.parsed? "forms-csv" path?)
      (← a.parsed? "payments-csv" path?)

/-- The walk through the lifecycle. -/
def demoOfArguments (args : List String) : Except UsageError Command := do
  let a ← Arguments.read [⟨"start", true⟩, ⟨"infected", false⟩, ⟨"fes-reject", false⟩] 0 args
  return .demo (← a.parsed? "start" Instant.ofText?) (a.has "infected") (a.has "fes-reject")

/-- The command that arguments spell.  The first of them names it. -/
def ofArguments : List String → Except UsageError Command
  | [] => .error (.missingOperand "command")
  | name :: args =>
    if name = "--version" then .ok .version
    else if name = "fee" then feeOfArguments args
    else if name = "demo" then demoOfArguments args
    else .error (.unknownCommand name)

end Command

end Filing
