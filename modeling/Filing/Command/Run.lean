import Filing.Command.Basic
import Filing.Command.Demo

/-!
# Running a command

* `Command.run` — the transcript of a command;
* `Command.runArguments` — the transcript of the command that arguments spell;
* `Command.paths` — the files that a command reads.
-/

set_option autoImplicit false

namespace Filing.Command

/-- The files that a command reads. -/
def paths : Command → List String
  | fee _ _ formsPath paymentsPath => formsPath.toList ++ paymentsPath.toList
  | version | demo .. => []

/-- The transcript of a command. -/
def run (s : Surroundings) : Command → Transcript
  | version => ⟨["EFS Submission Orchestrator 0.1.0"], .done⟩
  | fee formType asOf formsPath paymentsPath =>
    feeTranscript s formType asOf formsPath paymentsPath
  | demo start infected rejected =>
    (Demo.mk (start.getD s.now) infected rejected).transcript s.ids

/-- The transcript of the command that arguments spell. -/
def runArguments (s : Surroundings) (args : List String) : Transcript :=
  match ofArguments args with
  | .ok command => command.run s
  | .error e => ⟨[], .misused e⟩

end Filing.Command
