import Filing.Submission.Json

/-!
# Notifications

Mails about submissions.  Each kind of mail has a template and a recipient, which is the presenter
of the submission or a mailbox of the service.

* `NotificationKind`, `Recipient`, `MailSettings`;
* `MailSettings.forSubmission`, `MailSettings.forMailbox` — the mail of a kind.
-/

set_option autoImplicit false

namespace Filing

/-- What a mail is about. -/
inductive NotificationKind where
  | confirmation
  | paymentFailed
  | accepted
  | rejected
  | avFailed
  | internalDelivery
  | delayedSubmissions
deriving DecidableEq

namespace NotificationKind

/-- Every kind. -/
def all : List NotificationKind :=
  [.confirmation, .paymentFailed, .accepted, .rejected, .avFailed, .internalDelivery,
    .delayedSubmissions]

/-- The name of a kind in data. -/
def label : NotificationKind → String
  | confirmation => "confirmation"
  | paymentFailed => "payment_failed"
  | accepted => "accepted"
  | rejected => "rejected"
  | avFailed => "av_failed"
  | internalDelivery => "internal_delivery"
  | delayedSubmissions => "delayed_submissions"

/-- The name of a kind in messages. -/
def title : NotificationKind → String
  | confirmation => "Confirmation"
  | paymentFailed => "PaymentFailed"
  | accepted => "Accepted"
  | rejected => "Rejected"
  | avFailed => "AvFailed"
  | internalDelivery => "InternalDelivery"
  | delayedSubmissions => "DelayedSubmissions"

/-- The kind with the given name in data. -/
def ofLabel? (s : String) : Option NotificationKind :=
  all.find? (·.label == s)

def ofReading : Reading → Except Fault NotificationKind :=
  Reading.choice ofLabel?

end NotificationKind

/-- Whom a mail is sent to. -/
inductive Recipient where
  | presenter
  | mailbox (address : String)
deriving DecidableEq

/-- The template and the recipient of a kind of mail. -/
structure MailRule where
  template : String
  recipient : Recipient
deriving DecidableEq

/-- A mail. -/
structure Notification where
  kind : NotificationKind
  template : String
  recipient : String
  submissionId : Option String
  confirmationReference : Option String
  details : Index String
deriving DecidableEq

/-- Why there is no mail. -/
inductive NotificationError where
  | unconfigured (kind : NotificationKind)
  | noRecipient (id : String)
deriving DecidableEq

/-- The wording of an error. -/
def NotificationError.message : NotificationError → String
  | unconfigured kind => s!"no notification configured for {kind.title}"
  | noRecipient id => s!"submission [{id}] has no presenter email to notify"

/-- The mailboxes of a service. -/
structure MailSettings where
  internalMailbox : String
  supportMailbox : String
deriving DecidableEq

namespace MailSettings

/-- The template and the recipient of each kind of mail. -/
def rule (m : MailSettings) : NotificationKind → MailRule
  | .confirmation => ⟨"submission_confirmation", .presenter⟩
  | .paymentFailed => ⟨"payment_failed", .presenter⟩
  | .accepted => ⟨"submission_accepted", .presenter⟩
  | .rejected => ⟨"submission_rejected", .presenter⟩
  | .avFailed => ⟨"virus_scan_failed", .mailbox m.internalMailbox⟩
  | .internalDelivery => ⟨"internal_delivery", .mailbox m.internalMailbox⟩
  | .delayedSubmissions => ⟨"delayed_submissions", .mailbox m.supportMailbox⟩

/-- A mail about a submission. -/
def forSubmission (m : MailSettings) (kind : NotificationKind) (s : Submission)
    (details : Index String) : Except NotificationError Notification :=
  let mail (recipient : String) : Notification :=
    ⟨kind, (m.rule kind).template, recipient, some s.id, some s.confirmationReference, details⟩
  match (m.rule kind).recipient with
  | .mailbox address => .ok (mail address)
  | .presenter =>
    match s.presenterEmail? with
    | some email => .ok (mail email)
    | none => .error (.noRecipient s.id)

/-- A mail about no submission in particular.  It can only go to a mailbox. -/
def forMailbox (m : MailSettings) (kind : NotificationKind) (details : Index String) :
    Except NotificationError Notification :=
  match (m.rule kind).recipient with
  | .mailbox address => .ok ⟨kind, (m.rule kind).template, address, none, none, details⟩
  | .presenter => .error (.unconfigured kind)

end MailSettings

def Notification.toJson (n : Notification) : Json :=
  .obj
    [("kind", .str n.kind.label), ("template", .str n.template), ("recipient", .str n.recipient),
      ("submission_id", .option .str n.submissionId),
      ("confirmation_reference", .option .str n.confirmationReference),
      ("details", .obj (n.details.entries.map fun e => (e.1, .str e.2)))]

end Filing
