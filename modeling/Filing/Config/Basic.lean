import Filing.Network.Address
import Filing.Office.Basic
import Filing.Reference

/-!
# Configuration

What a service is told about itself when it starts.

* `Config` and `OfficeConfig`, with the defaults of the latter;
* `ConfigError` with its wording;
* `Config.address` — where the service listens;
* `OfficeConfig.settings` — how the office works.
-/

set_option autoImplicit false

namespace Filing

/-- The stage that a service runs at. -/
inductive Stage where
  | development
  | test
  | production
deriving DecidableEq

namespace Stage

/-- The name of a stage. -/
def label : Stage → String
  | development => "Development"
  | test => "Test"
  | production => "Production"

/-- The stage that a text names; a text that names none is development. -/
def ofText (s : String) : Stage :=
  let name := Text.lowerLatin (Text.trim s)
  if name ∈ ["prod", "production"] then production
  else if name ∈ ["test", "ci"] then test
  else development

end Stage

/-- What an office is told about itself. -/
structure OfficeConfig where
  referencePattern : String
  batchSize : Nat
  delayedAfterMinutes : Int
  retries : Nat
  /-- The files with exports of the catalog. -/
  formsPath : Option String
  paymentsPath : Option String
  mail : MailSettings

namespace OfficeConfig

/-- What holds where nothing else is said. -/
def default : OfficeConfig where
  referencePattern := "####-####"
  batchSize := 50
  delayedAfterMinutes := 60
  retries := 5
  formsPath := none
  paymentsPath := none
  mail := ⟨"internal-filings@efs.local", "efs-support@efs.local"⟩

/-- The whole minutes of the longest span of time. -/
def longestMinutes : Int := Instant.longestSpan / Instant.minutes 1

/-- A span of minutes.  A negative one is none, and one that is too long is the longest. -/
def spanOfMinutes (minutes : Int) : Int :=
  let minutes := max 0 minutes
  if minutes ≤ longestMinutes then Instant.minutes minutes else Instant.longestSpan

/-- How the office works. -/
def settings (c : OfficeConfig) : Settings where
  referencePattern := c.referencePattern
  batchSize := c.batchSize
  delayedAfter := spanOfMinutes c.delayedAfterMinutes
  retries := c.retries
  mail := c.mail

end OfficeConfig

/-- What a service is told about itself. -/
structure Config where
  stage : Stage
  host : String
  port : UInt16
  logLevel : String
  office : OfficeConfig

/-- Why a service cannot be configured. -/
inductive ConfigError where
  | invalidPort
  | invalidHost
  | invalidNumber (name value : String)
  | invalidReferencePattern (value : String)
deriving DecidableEq

/-- The wording of an error. -/
def ConfigError.message : ConfigError → String
  | invalidPort => "APP_PORT must be a valid u16"
  | invalidHost => "APP_HOST must parse to an IPv4 or IPv6 address"
  | invalidNumber name value => s!"{name} must be a non-negative number (found '{value}')"
  | invalidReferencePattern value =>
    s!"EFS_REFERENCE_PATTERN must contain at least one '#' (found '{value}')"

/-- The address that a host stands for. -/
def addressOf (host : String) : Except ConfigError IpAddress :=
  if Text.sameIgnoringCase host "localhost" then .ok .localhost
  else match IpAddress.ofText? host with
    | some address => .ok address
    | none => .error .invalidHost

/-- Where the service listens, as text. -/
def Config.address (c : Config) : Except ConfigError String :=
  (addressOf c.host).map (·.socketText c.port)

end Filing
