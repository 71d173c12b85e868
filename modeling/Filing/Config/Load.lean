import Filing.Config.Basic
import Filing.Config.Dotenv

/-!
# Reading the configuration

The configuration is read from variables.  They are looked at in a fixed order, and the first one
that does not do decides the error.

* `Config.ofVariables` — the configuration of a set of variables;
* `Config.load` — the same, with a file that sets further variables.
-/

set_option autoImplicit false

namespace Filing

open Text

/-- The value of a variable, which has to do. -/
def numberVariable {α : Type} (vs : Variables) (name : String) (parse : List Char → Option α)
    (default : α) : Except ConfigError α :=
  match vs.find? name with
  | none => .ok default
  | some raw =>
    match parse (trimChars raw.toList) with
    | some a => .ok a
    | none => .error (.invalidNumber name raw)

/-- The number of minutes after which a submission is delayed.  A number that is no span of time is
named as the number that it is. -/
def delayVariable (vs : Variables) (default : Int) : Except ConfigError Int := do
  let name := "EFS_DELAYED_AFTER_MINUTES"
  let minutes ← numberVariable vs name (integer? minSigned maxSigned) default
  if 0 ≤ minutes ∧ minutes ≤ OfficeConfig.longestMinutes then return minutes
  else throw (.invalidNumber name (String.ofList (Json.intChars minutes)))

/-- What variables say about an office. -/
def OfficeConfig.ofVariables (vs : Variables) : Except ConfigError OfficeConfig := do
  let d := OfficeConfig.default
  let pattern := (vs.find? "EFS_REFERENCE_PATTERN").getD d.referencePattern
  if !pattern.toList.contains Reference.placeholder then
    throw (.invalidReferencePattern pattern)
  let batchSize ← numberVariable vs "EFS_QUEUE_BATCH_SIZE" (natural? maxLong) d.batchSize
  let minutes ← delayVariable vs d.delayedAfterMinutes
  let retries ← numberVariable vs "EFS_CONFLICT_RETRIES" (natural? maxByte) d.retries
  return {
    referencePattern := pattern
    batchSize := batchSize
    delayedAfterMinutes := minutes
    retries := retries
    formsPath := vs.find? "EFS_FORM_TEMPLATES_CSV"
    paymentsPath := vs.find? "EFS_PAYMENT_TEMPLATES_CSV"
    mail :=
      ⟨(vs.find? "EFS_INTERNAL_MAILBOX").getD d.mail.internalMailbox,
        (vs.find? "EFS_SUPPORT_MAILBOX").getD d.mail.supportMailbox⟩ }

namespace Config

/-- The port that a service listens on, if nothing else is said. -/
def defaultPort : Nat := 3000

/-- The port that variables name. -/
def portVariable (vs : Variables) : Except ConfigError UInt16 :=
  match vs.find? "APP_PORT" with
  | none => .ok (UInt16.ofNat defaultPort)
  | some raw =>
    match natural? maxShort raw.toList with
    | some n => .ok (UInt16.ofNat n)
    | none => .error .invalidPort

/-- What variables say about a service. -/
def ofVariables (vs : Variables) : Except ConfigError Config := do
  let port ← portVariable vs
  return {
    stage := .ofText ((vs.find? "APP_ENV").getD "development")
    host := (vs.find? "APP_HOST").getD "127.0.0.1"
    port := port
    logLevel := (vs.find? "APP_LOG_LEVEL").getD "info"
    office := ← OfficeConfig.ofVariables vs }

/-- What variables say about a service, together with a file if there is one. -/
def load (vs : Variables) (file : Option String) : Except ConfigError Config :=
  ofVariables ((file.map (Dotenv.load vs)).getD vs)

/-- The variables that a service looks at. -/
def variableNames : List String :=
  ["APP_ENV", "APP_HOST", "APP_PORT", "APP_LOG_LEVEL", "EFS_REFERENCE_PATTERN",
    "EFS_QUEUE_BATCH_SIZE", "EFS_DELAYED_AFTER_MINUTES", "EFS_CONFLICT_RETRIES",
    "EFS_FORM_TEMPLATES_CSV", "EFS_PAYMENT_TEMPLATES_CSV", "EFS_INTERNAL_MAILBOX",
    "EFS_SUPPORT_MAILBOX"]

end Config

end Filing
