import Filing.Catalog.Import
import Filing.Config.Basic
import Filing.Http.Message
import Filing.LogFilter

/-!
# What can go wrong in a service

Everything that can keep a service from starting or from answering.

* `ServiceError` with its wording `ServiceError.message`;
* `ServiceError.causes` — what went wrong beneath, from the error itself down to its first cause;
* `ServiceError.response` — what a client is told;
* `checkLogFilter` — a log filter has to be well-formed.
-/

set_option autoImplicit false

namespace Filing

/-- What can go wrong in a service. -/
inductive ServiceError where
  | config (error : ConfigError)
  | logFilter (filter : String)
  | logging (reason : String)
  | io (reason : String)
  | server (reason : String)
  | catalog (error : CatalogError)
  | refusal (error : Refusal)
deriving DecidableEq

namespace ServiceError

/-- The wording of what went wrong, without the part of the service that it happened in. -/
def detail : ServiceError → String
  | config e => e.message
  | logFilter filter => s!"invalid log filter '{filter}' for submission tracing"
  | logging reason => s!"tracing subscriber error: {reason}"
  | io reason => reason
  | server reason => reason
  | catalog e => e.message
  | refusal e => e.message

/-- The part of the service that an error happened in. -/
def part : ServiceError → String
  | config _ => "configuration"
  | logFilter _ => "telemetry"
  | logging _ => "telemetry"
  | io _ => "io"
  | server _ => "server"
  | catalog _ => "catalog"
  | refusal _ => "submission"

/-- The wording of an error. -/
def message (e : ServiceError) : String := e.part ++ " error: " ++ e.detail

/-- The wording of what lies beneath an error, where something else does. -/
def cause? : ServiceError → Option String
  | config .invalidHost => some "invalid IP address syntax"
  | config .invalidPort | config (.invalidNumber ..) | config (.invalidReferencePattern _) => none
  | logFilter _ => none
  | logging reason => some reason
  | io _ => none
  | server reason => some reason
  | catalog (.io reason) => some reason
  | catalog (.csv e) => some e.message
  | catalog (.invalidRow ..) => none
  | refusal (.incomplete fault) => some fault.message
  | refusal _ => none

/-- What went wrong, from the error down to its first cause.  A log filter has no cause but
itself. -/
def causes (e : ServiceError) : List String :=
  match e with
  | logFilter _ => []
  | e => e.detail :: e.cause?.toList

/-- What a client is told.  All but refusals are the service's own affair. -/
def response : ServiceError → Response
  | refusal e => .refused e
  | e => ⟨500, .json (.obj [("error", .str e.message)])⟩

end ServiceError

/-- A log filter has to be well-formed. -/
def checkLogFilter (filter : String) : Except ServiceError Unit :=
  if LogFilter.accepts filter then .ok () else .error (.logFilter filter)

end Filing
