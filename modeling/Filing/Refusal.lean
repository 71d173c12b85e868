import Filing.Decision
import Filing.Fes
import Filing.Repository
import Filing.Validation

/-!
# Refusals

Why an operation on submissions is refused.

* `Refusal` with `Refusal.message`;
* `Refusal.ofWrite` — the refusal of a write to a submission that the store did not take.
-/

set_option autoImplicit false

namespace Filing

/-- Why an operation on submissions is refused. -/
inductive Refusal where
  | notFound (id : String)
  | state (violation : StateViolation)
  | incomplete (fault : Incompleteness)
  | conflict (id : String)
  | decision (error : DecisionError)
  | unknownSession (id sessionId : String)
  | fes (error : FesError)
  | repository (error : RepositoryError)
  /-- The span of so many minutes starts before the first instant that is kept. -/
  | delayOutOfRange (minutes : Int)
deriving DecidableEq

namespace Refusal

/-- The wording of a refusal. -/
def message : Refusal → String
  | notFound id => s!"submission [{id}] not found"
  | state violation => violation.message
  | incomplete fault => "validation failed: " ++ fault.message
  | conflict id => s!"submission [{id}] was modified concurrently"
  | decision error => error.message
  | unknownSession id sessionId =>
    s!"payment session [{sessionId}] is not attached to submission [{id}]"
  | fes error => error.message
  | repository error => error.message
  | delayOutOfRange minutes =>
    s!"delay window of {minutes} minutes reaches before the earliest representable time"

/-- The refusal of a write to the submission under an identifier. -/
def ofWrite (id : String) : RepositoryError → Refusal
  | .conflict _ => conflict id
  | .notFound => notFound id
  | e => repository e

end Refusal

end Filing
