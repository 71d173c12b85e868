import Filing.Command.Arguments
import Filing.Office.Operation
import Filing.ServiceError

/-!
# Transcripts

What a command prints, and how it ends.

* `Ending` with `Ending.exitStatus` and `Ending.complaint?`;
* `Transcript` with `Transcript.output`;
* `Walk` — work with an office that prints lines as it goes.  What was printed before an early end
  stays printed.
-/

set_option autoImplicit false

namespace Filing

/-- How a command ends. -/
inductive Ending where
  | done
  | failed (error : ServiceError)
  | misused (error : UsageError)
  /-- The command asked for a day after the last one that is kept. -/
  | outOfCalendar

namespace Ending

/-- The number that the program ends with. -/
def exitStatus : Ending → Nat
  | done => 0
  | failed _ => 1
  | misused _ => 2
  | outOfCalendar => 101

/-- What is told about a failure. -/
def complaint? : Ending → Option String
  | failed e => some ("application error: " ++ e.message ++ "\n")
  | done | misused _ | outOfCalendar => none

end Ending

/-- What a command prints, and how it ends. -/
structure Transcript where
  lines : List String
  ending : Ending

/-- The text that a command prints. -/
def Transcript.output (t : Transcript) : String :=
  String.join (t.lines.map (· ++ "\n"))

/-! ## Work that prints -/

/-- An office and what was printed about it. -/
structure Scene where
  office : Office
  lines : List String

/-- Work with an office that prints lines as it goes. -/
abbrev Walk (α : Type) := ExceptT Ending (StateM Scene) α

namespace Walk

variable {α : Type}

/-- A line is printed. -/
def say (line : String) : Walk Unit :=
  modify fun scene => { scene with lines := scene.lines ++ [line] }

/-- Work of the office, which may be refused. -/
def attempt (work : Act Refusal α) : Walk (Except Refusal α) :=
  modifyGet fun scene => ((work scene.office).1, { scene with office := (work scene.office).2 })

/-- Work of the office; a refusal ends the command. -/
def ask (work : Act Refusal α) : Walk α := do
  match ← attempt work with
  | .ok a => return a
  | .error e => throw (.failed (.refusal e))

/-- The clock of the office moves by a number of minutes. -/
def wait (minutes : Int) : Walk Unit :=
  modify fun scene =>
    { scene with
      office := { scene.office with clock := scene.office.clock.plus (Instant.minutes minutes) } }

/-- The transcript of a walk through an office. -/
def transcript (walk : Walk Unit) (office : Office) : Transcript :=
  let (result, scene) := walk.run ⟨office, []⟩
  ⟨scene.lines, match result with
    | .ok () => .done
    | .error ending => ending⟩

end Walk

end Filing
