import Filing.Http.MediaType
import Filing.Http.Target
import Filing.Json.Schema
import Filing.Refusal

/-!
# Requests and responses

* `Method.ofName?` — the method with a name;
* `Request` with `Request.json` — the data in the body of a request;
* `Response` with `Response.refused` — the response to a refusal.
-/

set_option autoImplicit false

namespace Filing

/-- The methods of requests.  The resources of the service know four of them. -/
inductive Method where
  | get
  | head
  | post
  | put
  /-- A method that no resource knows. -/
  | other
deriving DecidableEq

/-- The method with a name, which has the form of a name in a media type. -/
def Method.ofName? (s : String) : Option Method :=
  if s.isEmpty || !s.toList.all MediaType.isToken then none
  else if s = "GET" then some get
  else if s = "HEAD" then some head
  else if s = "POST" then some post
  else if s = "PUT" then some put
  else some other

/-- A request. -/
structure Request where
  method : Method
  target : Target
  /-- What the body is declared to be. -/
  contentType : Option String
  body : Reading

/-- What a response holds. -/
inductive Content where
  | nothing
  | json (value : Json)
  | csv (text : String)

/-- A response. -/
structure Response where
  status : Nat
  content : Content

namespace Response

/-- A response that says no more than its status. -/
def bare (status : Nat) : Response := ⟨status, .nothing⟩

/-- The status of a refusal. -/
def statusOf : Refusal → Nat
  | .notFound _ => 404
  | .repository .notFound => 404
  | .state _ => 409
  | .conflict _ => 409
  | .repository .duplicate => 409
  | .repository (.conflict _) => 409
  | .incomplete _ => 422
  | .decision _ => 422
  | .unknownSession .. => 422
  | .fes _ => 502
  | .repository (.unavailable _) => 500
  | .delayOutOfRange _ => 500

/-- The field that a refusal points at. -/
def fieldOf : Refusal → Option String
  | .incomplete fault => some fault.field
  | _ => none

/-- The response to a refusal. -/
def refused (e : Refusal) : Response :=
  ⟨statusOf e,
    .json (.obj (("error", .str e.message) :: Json.memberIf "field" .str (fieldOf e)))⟩

/-- The response to a request that asks for something that makes no sense. -/
def badRequest (message : String) : Response :=
  ⟨400, .json (.obj [("error", .str message)])⟩

/-- The response to a body that cannot be read. -/
def unreadable : Fault → Response
  | .malformed => bare 400
  | .mismatched => bare 422

end Response

/-- The data in the body of a request, which has to be declared to be JSON. -/
def Request.json {α : Type} (r : Request) (f : Reading → Except Fault α) : Except Response α :=
  if (r.contentType.bind MediaType.ofText?).any (·.isJson) then
    (f r.body).mapError Response.unreadable
  else .error (.bare 415)

end Filing
