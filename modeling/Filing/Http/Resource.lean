import Filing.Http.Message

/-!
# Resources

The paths of the service.

* `Resource` with `Resource.ofParts?` — the resource of a path;
* `Resource.method` — the method that a resource is for;
* `Resource.named?` — the resource with the names in its path unescaped.
-/

set_option autoImplicit false

namespace Filing

/-- What a request can be about. -/
inductive Resource where
  | submissions
  | submission (id : String)
  | company (id : String)
  | form (id : String)
  | files (id : String)
  | sessions (id : String)
  | authorisation (id : String)
  | completion (id : String)
  | payment (id : String)
  | queue (id : String)
  | fileOutcome (id fileId : String)
  | handOver (id : String)
  | fesOutcome (id : String)
  | fee (formType : String)
  | delayedReport
  | paidReport
deriving DecidableEq

namespace Resource

/-- The resource under one submission. -/
def ofSubmission? (id : String) : List String → Option Resource
  | ["company"] => some (company id)
  | ["form"] => some (form id)
  | ["files"] => some (files id)
  | ["payment-sessions"] => some (sessions id)
  | ["confirm-authorised"] => some (authorisation id)
  | ["complete"] => some (completion id)
  | ["payment"] => some (payment id)
  | ["queue"] => some (queue id)
  | ["files", fileId, "outcome"] => some (fileOutcome id fileId)
  | ["fes"] => some (handOver id)
  | ["fes", "outcome"] => some (fesOutcome id)
  | _ => none

/-- The resource of a path.  A name is never empty where the path ends with it. -/
def ofParts? : List String → Option Resource
  | "" :: "efs-submission-api" :: rest =>
    match rest with
    | ["submissions"] => some submissions
    | ["submissions", id] => if id = "" then none else some (submission id)
    | "submissions" :: id :: rest => ofSubmission? id rest
    | ["fees", formType] => if formType = "" then none else some (fee formType)
    | ["reports", "delayed"] => some delayedReport
    | ["reports", "paid"] => some paidReport
    | _ => none
  | _ => none

/-- The method that a resource is for. -/
def method : Resource → Method
  | submission _ | fee _ | delayedReport | paidReport => .get
  | company _ | form _ | files _ | sessions _ | authorisation _ | completion _ => .put
  | submissions | payment _ | queue _ | fileOutcome .. | handOver _ | fesOutcome _ => .post

/-- The resource takes a method.  What can be got can also be asked for without its content. -/
def takes (r : Resource) (m : Method) : Bool :=
  m == r.method || (m == .head && r.method == .get)

/-- The resource with the names in its path unescaped, unless one of them is no text. -/
def named? : Resource → Option Resource
  | submissions => some submissions
  | submission id => submission <$> Target.part? id
  | company id => company <$> Target.part? id
  | form id => form <$> Target.part? id
  | files id => files <$> Target.part? id
  | sessions id => sessions <$> Target.part? id
  | authorisation id => authorisation <$> Target.part? id
  | completion id => completion <$> Target.part? id
  | payment id => payment <$> Target.part? id
  | queue id => queue <$> Target.part? id
  | fileOutcome id fileId => fileOutcome <$> Target.part? id <*> Target.part? fileId
  | handOver id => handOver <$> Target.part? id
  | fesOutcome id => fesOutcome <$> Target.part? id
  | fee formType => fee <$> Target.part? formType
  | delayedReport => some delayedReport
  | paidReport => some paidReport

end Resource

end Filing
