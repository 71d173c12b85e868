import Filing.Index

/-!
# Arguments of a command

A command takes operands and options.  An option is written `--name`; its value, if it takes one, is
the next argument or stands behind an equals sign in the same one.  Options and operands may stand
in any order; behind a lone `--` there are only operands.

* `OptionRule` — an option that a command knows;
* `UsageError` — why arguments do not do;
* `Arguments.read` — the operands and options among arguments.
-/

set_option autoImplicit false

namespace Filing

/-- An option that a command knows. -/
structure OptionRule where
  name : String
  /-- The option has a value. -/
  takesValue : Bool

/-- Why arguments do not do. -/
inductive UsageError where
  | unknownCommand (arg : String)
  | unknownOption (arg : String)
  | repeatedOption (name : String)
  | missingValue (name : String)
  | unexpectedValue (name : String)
  | unreadableValue (name value : String)
  | unexpectedOperand (arg : String)
  | missingOperand (name : String)
deriving DecidableEq

/-- The wording of an error. -/
def UsageError.message : UsageError → String
  | unknownCommand arg => s!"unknown command '{arg}'"
  | unknownOption arg => s!"unknown option '{arg}'"
  | repeatedOption name => s!"option '--{name}' is given twice"
  | missingValue name => s!"option '--{name}' needs a value"
  | unexpectedValue name => s!"option '--{name}' takes no value"
  | unreadableValue name value => s!"option '--{name}' cannot be '{value}'"
  | unexpectedOperand arg => s!"unexpected argument '{arg}'"
  | missingOperand name => s!"argument '{name}' is missing"

/-- What arguments hold. -/
structure Arguments where
  operands : List String
  /-- The options by name; one that takes no value has the empty text. -/
  options : List (String × String)

namespace Arguments

/-- What a single argument looks like. -/
inductive Shape where
  | operand
  | option (name : String) (value : Option String)
  /-- The end of the options. -/
  | stop

/-- The name of an option and the value that stands with it. -/
def splitValue (cs : List Char) : String × Option String :=
  let name := cs.takeWhile (· != '=')
  (String.ofList name,
    if name.length = cs.length then none else some (String.ofList (cs.drop (name.length + 1))))

/-- What an argument looks like.  No option has a short name, so that a single hyphen opens an
option that nobody knows; alone it is an operand. -/
def shape (arg : String) : Shape :=
  match arg.toList with
  | ['-', '-'] => .stop
  | '-' :: '-' :: cs => .option (splitValue cs).1 (splitValue cs).2
  | '-' :: c :: cs => .option (String.ofList ('-' :: c :: cs)) none
  | _ => .operand

/-- The arguments with one more operand, of at most `limit`. -/
def addOperand (limit : Nat) (arg : String) (a : Arguments) : Except UsageError Arguments :=
  if a.operands.length < limit then .ok { a with operands := a.operands ++ [arg] }
  else .error (.unexpectedOperand arg)

/-- The arguments with one more option. -/
def addOption (name value : String) (a : Arguments) : Except UsageError Arguments :=
  if a.options.any (·.1 == name) then .error (.repeatedOption name)
  else .ok { a with options := a.options ++ [(name, value)] }

/-- The arguments with many more operands. -/
def addOperands (limit : Nat) : List String → Arguments → Except UsageError Arguments
  | [], a => .ok a
  | arg :: rest, a => do addOperands limit rest (← a.addOperand limit arg)

/-- The argument may be the value of the option before it. -/
def isValue (arg : String) : Bool :=
  match shape arg with
  | .operand => true
  | .option .. | .stop => false

/-- The arguments with whatever else stands in a list. -/
def gather (rules : List OptionRule) (limit : Nat) :
    List String → Arguments → Except UsageError Arguments
  | [], a => .ok a
  | arg :: rest, a =>
    match shape arg with
    | .operand => do gather rules limit rest (← a.addOperand limit arg)
    | .stop => addOperands limit rest a
    | .option name value =>
      match rules.find? (·.name == name) with
      | none => .error (.unknownOption arg)
      | some rule =>
        match rule.takesValue, value, rest with
        | true, some value, rest => do gather rules limit rest (← a.addOption name value)
        | true, none, value :: rest =>
          if isValue value then do gather rules limit rest (← a.addOption name value)
          else .error (.missingValue name)
        | true, none, [] => .error (.missingValue name)
        | false, none, rest => do gather rules limit rest (← a.addOption name "")
        | false, some _, _ => .error (.unexpectedValue name)
termination_by args => args.length

/-- What arguments hold, for a command with the given options and at most `limit` operands. -/
def read (rules : List OptionRule) (limit : Nat) (args : List String) :
    Except UsageError Arguments :=
  gather rules limit args ⟨[], []⟩

/-- The value of an option. -/
def value? (a : Arguments) (name : String) : Option String :=
  Index.seek name a.options

/-- The option is given. -/
def has (a : Arguments) (name : String) : Bool :=
  (a.value? name).isSome

/-- The value of an option that spells something else. -/
def parsed? {α : Type} (a : Arguments) (name : String) (f : String → Option α) :
    Except UsageError (Option α) :=
  match a.value? name with
  | none => .ok none
  | some value =>
    match f value with
    | some x => .ok (some x)
    | none => .error (.unreadableValue name value)

end Arguments

end Filing
