/-!
# Repository errors

What can go wrong between the library and the place where records and templates are kept.
-/

set_option autoImplicit false

namespace Filing

/-- Why a repository did not do what it was asked. -/
inductive RepositoryError where
  | duplicate
  /-- Somebody else has written the record in the meantime. -/
  | conflict (id : String)
  | notFound
  | unavailable (reason : String)
deriving DecidableEq, Repr

/-- The wording of an error. -/
def RepositoryError.message : RepositoryError → String
  | duplicate => "record already exists"
  | conflict id => s!"submission [{id}] was modified concurrently"
  | notFound => "record not found"
  | unavailable reason => s!"repository unavailable: {reason}"

end Filing
