import Filing.Catalog.Form
import Filing.Catalog.Payment
import Filing.Decision
import Filing.Proofs.Instant
import Filing.Proofs.Json.Record
import Filing.Proofs.Json.Text

/-!
# The data model is exchanged without loss

Submissions, outcomes of files, form templates and payment templates are read back from their texts
as they were.  The writer may leave a member out only where the reader takes it for absent, and each
name that is written stands for one value.

* `Company.recovers`, `File.recovers`, …, `Submission.recovers` — member by member, in the order in
  which a record is written;
* `Submission.fits`, … — numbers are no longer than the reader keeps them;
* `Submission.instants` — the instants in a submission, which have to be such as can be read;
* `exchanged` — **every value of the data model is read back from its text**.
-/

set_option autoImplicit false

namespace Filing

open Schema (Shows shown)
open Reading

theorem Company.recovers (c : Company) : Recovers Company.schema.read Company.toJson c :=
  (((Shows.required "company_number" (recovers_text c.number)).map Company.mk).seq
    (.required "company_name" (recovers_text c.name))).read (by decide) rfl

theorem Presenter.recovers (p : Presenter) : Recovers Presenter.schema.read Presenter.toJson p :=
  ((Shows.required "email" (recovers_text p.email)).map Presenter.mk).read (by decide) rfl

theorem Status.recovers (s : Status) : Recovers Status.ofReading Status.toJson s :=
  recovers_choice (Status.ofLabel?_label s)

theorem FileStatus.recovers (s : FileStatus) : Recovers FileStatus.ofReading FileStatus.toJson s :=
  recovers_choice (FileStatus.ofLabel?_label s)

theorem PaymentState.recovers (s : PaymentState) :
    Recovers PaymentState.ofReading PaymentState.toJson s :=
  recovers_choice (PaymentState.ofLabel?_label s)

theorem Instant.recovers {t : Instant} (h : t.Legible) : Recovers instant Instant.toJson t :=
  recovers_parsed (Instant.ofField?_toText h)

theorem recovers_long (n : UInt64) : Recovers long (fun n => .nat n.toNat) n := by
  have hread : natural Text.maxLong (ofJson (.nat n.toNat)) = .ok n.toNat :=
    recovers_natural (Nat.le_sub_one_of_lt n.toNat_lt_size)
  rw [Recovers, long, hread]
  exact congrArg Except.ok (UInt64.ofNat_toNat)

theorem recovers_word (n : UInt32) : Recovers word (fun n => .nat n.toNat) n := by
  have hread : natural Text.maxWord (ofJson (.nat n.toNat)) = .ok n.toNat :=
    recovers_natural (Nat.le_sub_one_of_lt n.toNat_lt_size)
  rw [Recovers, word, hread]
  exact congrArg Except.ok (UInt32.ofNat_toNat)

theorem File.recovers {f : File} (h : ∀ t ∈ f.modifiedAt, t.Legible) :
    Recovers File.schema.read File.toJson f := by
  have hshows : Shows File.schema _ f :=
    (((((((Shows.required "file_id" (recovers_text f.id)).map File.mk).seq
      (.required "file_name" (recovers_text f.name))).seq
      (.required "file_size" (recovers_long f.size))).seq
      (.required "conversion_status" f.status.recovers)).seq
      (.spared "converted_file_id" rfl fun s (_ : s ∈ f.convertedId) => recovers_text s)).seq
      (.spared "number_of_pages" rfl fun n (_ : n ∈ f.pages) => recovers_word n)).seq
      (.spared "last_modified_at" rfl fun t ht => Instant.recovers (h t ht))
  refine hshows.read (by decide) ?_
  obtain ⟨id, name, size, status, convertedId, pages, modifiedAt⟩ := f
  cases convertedId <;> cases pages <;> cases modifiedAt <;> rfl

theorem FormDetails.recovers {f : FormDetails}
    (h : ∀ file ∈ f.files, ∀ t ∈ file.modifiedAt, t.Legible) :
    Recovers FormDetails.schema.read FormDetails.toJson f := by
  have hshows : Shows FormDetails.schema _ f :=
    (((Shows.spared "barcode" rfl fun s (_ : s ∈ f.barcode) => recovers_text s).map
      FormDetails.mk).seq
      (.given "form_type" none
        (recovers_optional rfl fun s (_ : s ∈ f.formType) => recovers_text s))).seq
      (.given "file_details" [] (recovers_many fun file hfile => File.recovers (h file hfile)))
  refine hshows.read (by decide) ?_
  obtain ⟨barcode, formType, files⟩ := f
  cases barcode <;> rfl

theorem PaymentSession.recovers (s : PaymentSession) :
    Recovers PaymentSession.schema.read PaymentSession.toJson s := by
  have hshows : Shows PaymentSession.schema _ s :=
    (((Shows.required "session_id" (recovers_text s.id)).map PaymentSession.mk).seq
      (.required "session_state" s.state.recovers)).seq
      (.spared "payment_reference" rfl fun r (_ : r ∈ s.reference) => recovers_text r)
  refine hshows.read (by decide) ?_
  obtain ⟨id, state, reference⟩ := s
  cases reference <;> rfl

/-- Every instant in a submission. -/
def Submission.instants (s : Submission) : List Instant :=
  s.createdAt :: s.modifiedAt ::
    (s.submittedAt.toList ++ s.paidAt.toList ++ s.files.filterMap (·.modifiedAt))

theorem Submission.recovers {s : Submission} (h : ∀ t ∈ s.instants, t.Legible) :
    Recovers Submission.schema.read Submission.toJson s := by
  simp only [instants, List.forall_mem_cons, List.forall_mem_append, Option.mem_toList,
    List.mem_filterMap, files] at h
  obtain ⟨hcreated, hmodified, ⟨hsubmitted, hpaid⟩, hfiles⟩ := h
  have hform : ∀ form ∈ s.form, ∀ file ∈ form.files, ∀ t ∈ file.modifiedAt, t.Legible := by
    intro form hform file hfile t ht
    have hsome : s.form = some form := hform
    exact hfiles t ⟨file, by rw [hsome]; exact hfile, ht⟩
  have hshows : Shows Submission.schema _ s :=
    (((((((((((((((Shows.required "id" (recovers_text s.id)).map Submission.mk).seq
      (.required "confirmation_reference" (recovers_text s.confirmationReference))).seq
      (.required "created_at" (Instant.recovers hcreated))).seq
      (.possible "submitted_at"
        (recovers_optional rfl fun t ht => Instant.recovers (hsubmitted t ht)))).seq
      (.required "last_modified_at" (Instant.recovers hmodified))).seq
      (.possible "company" (recovers_optional rfl fun c (_ : c ∈ s.company) => c.recovers))).seq
      (.possible "presenter"
        (recovers_optional rfl fun p (_ : p ∈ s.presenter) => p.recovers))).seq
      (.required "status" s.status.recovers)).seq
      (.possible "form_details"
        (recovers_optional rfl fun f hf => FormDetails.recovers (hform f hf)))).seq
      (.given "payment_sessions" [] (recovers_many fun p (_ : p ∈ s.sessions) => p.recovers))).seq
      (.possible "fee_on_submission"
        (recovers_optional rfl fun t (_ : t ∈ s.fee) => recovers_text t))).seq
      (.possible "confirm_authorised"
        (recovers_optional rfl fun b (_ : b ∈ s.authorised) => recovers_boolean b))).seq
      (.given "reject_reasons" []
        (recovers_many fun t (_ : t ∈ s.rejectReasons) => recovers_text t))).seq
      (.possible "paid_at" (recovers_optional rfl fun t ht => Instant.recovers (hpaid t ht)))).seq
      (.given "version" 0 (recovers_long s.version))
  exact hshows.read (by decide) (by simp [shown])

theorem FormTemplate.recovers (f : FormTemplate) :
    Recovers FormTemplate.schema.read FormTemplate.toJson f := by
  have hshows : Shows FormTemplate.schema _ f :=
    (((((((Shows.required "form_type" (recovers_text f.formType)).map FormTemplate.mk).seq
      (.required "description" (recovers_text f.description))).seq
      (.possible "fee_code"
        (recovers_optional rfl fun t (_ : t ∈ f.feeCode) => recovers_text t))).seq
      (.required "fully_electronic" (recovers_boolean f.fullyElectronic))).seq
      (.required "fes_delivery" (recovers_boolean f.fesDelivery))).seq
      (.required "same_day" (recovers_boolean f.sameDay))).seq
      (.required "category" (recovers_text f.category))
  exact hshows.read (by decide) (by simp [shown])

theorem PaymentItem.recovers (i : PaymentItem) :
    Recovers PaymentItem.schema.read PaymentItem.toJson i := by
  have hshows : Shows PaymentItem.schema _ i :=
    (((Shows.required "amount" (recovers_text i.amount)).map PaymentItem.mk).seq
      (.required "description" (recovers_text i.description))).seq
      (.given "available_payment_methods" []
        (recovers_many fun t (_ : t ∈ i.methods) => recovers_text t))
  exact hshows.read (by decide) (by simp [shown])

theorem PaymentTemplate.recovers {t : PaymentTemplate} (h : t.activeFrom.Legible) :
    Recovers PaymentTemplate.schema.read PaymentTemplate.toJson t := by
  have hshows : Shows PaymentTemplate.schema _ t :=
    (((((Shows.required "fee_code" (recovers_text t.feeCode)).map PaymentTemplate.mk).seq
      (.required "active_from" (Instant.recovers h))).seq
      (.required "items" (recovers_many fun i (_ : i ∈ t.items) => i.recovers))).seq
      (.required "status" (recovers_text t.status))).seq
      (.given "links" .empty (recovers_textIndex t.links))
  exact hshows.read (by decide) (by simp [shown])

/-- The details of a conversion, after the kind of the outcome. -/
theorem FileOutcome.convertedSchema_read (convertedId : Option String) (pages : Option UInt32) :
    convertedSchema.read (ofJson (.obj [("converted_file_id", .option .str convertedId),
      ("number_of_pages", .option (fun n => .nat n.toNat) pages)])) =
        .ok (.converted convertedId pages) := by
  have hshows : Shows convertedSchema _ (.converted convertedId pages) :=
    ((Shows.given "converted_file_id" none
      (recovers_optional rfl fun t (_ : t ∈ convertedId) => recovers_text t)).map
      FileOutcome.converted).seq
      (.given "number_of_pages" none
        (recovers_optional rfl fun n (_ : n ∈ pages) => recovers_word n))
  exact hshows.read (by decide) (by simp [shown])

theorem FileOutcome.recovers (o : FileOutcome) :
    Recovers FileOutcome.ofReading FileOutcome.toJson o := by
  cases o with
  | infected => rfl
  | conversionFailed => rfl
  | converted convertedId pages =>
    refine Eq.trans ?_ (convertedSchema_read convertedId pages)
    cases convertedId <;> cases pages <;> rfl

/-! ## Texts -/

section
open Json

theorem fits_long (n : UInt64) : (nat n.toNat).Fits :=
  fits_nat (Nat.le_sub_one_of_lt n.toNat_lt_size)

theorem fits_word (n : UInt32) : (nat n.toNat).Fits :=
  fits_nat (Nat.le_trans (Nat.le_of_lt n.toNat_lt_size) (by decide))

theorem Instant.fits (t : Instant) : t.toJson.Fits := fits_str _

theorem Company.fits (c : Company) : c.toJson.Fits := by
  simp [toJson]

theorem Presenter.fits (p : Presenter) : p.toJson.Fits := by
  simp [toJson]

theorem File.fits (f : File) : f.toJson.Fits := by
  simp [toJson, FileStatus.toJson, fits_long, membersFit_memberIf, fits_word, Instant.fits]

theorem FormDetails.fits (f : FormDetails) : f.toJson.Fits := by
  simp [toJson, membersFit_memberIf, fits_option, fits_list, File.fits]

theorem PaymentSession.fits (s : PaymentSession) : s.toJson.Fits := by
  simp [toJson, PaymentState.toJson, membersFit_memberIf]

theorem Submission.fits (s : Submission) : s.toJson.Fits := by
  simp [toJson, Status.toJson, Company.fits, Presenter.fits, Instant.fits, fits_option, fits_list,
    FormDetails.fits, PaymentSession.fits, fits_long]

theorem FileOutcome.fits (o : FileOutcome) : o.toJson.Fits := by
  cases o <;> simp [toJson, fits_option, fits_word]

theorem FormTemplate.fits (f : FormTemplate) : f.toJson.Fits := by
  simp [toJson, fits_option]

theorem PaymentItem.fits (i : PaymentItem) : i.toJson.Fits := by
  simp [toJson, fits_list]

theorem PaymentTemplate.fits (t : PaymentTemplate) : t.toJson.Fits := by
  simp [toJson, Instant.fits, fits_list, PaymentItem.fits, membersFit_texts]

/-- The text that is written for the value holds nothing else, and is read as the value. -/
def Json.Lossless {α : Type} (read : Reading → Except Fault α) (write : α → Json) (a : α) : Prop :=
  ∃ r, Reading.ofText? (write a).toText = some r ∧ read r = .ok a

theorem Json.Lossless.of_recovers {α : Type} {read : Reading → Except Fault α} {write : α → Json}
    {a : α} (hfits : (write a).Fits) (h : Recovers read write a) : Lossless read write a :=
  ⟨_, ofText?_toText hfits, h⟩

/-- **The data model is exchanged without loss**: submissions and payment templates with whatever
instants can be read, and the outcomes of files and form templates as they are. -/
theorem exchanged :
    (∀ s : Submission, (∀ t ∈ s.instants, ∃ text, Instant.ofField? text = some t) →
      Lossless Submission.schema.read Submission.toJson s) ∧
    (∀ o : FileOutcome, Lossless FileOutcome.ofReading FileOutcome.toJson o) ∧
    (∀ f : FormTemplate, Lossless FormTemplate.schema.read FormTemplate.toJson f) ∧
    (∀ p : PaymentTemplate, (∃ text, Instant.ofField? text = some p.activeFrom) →
      Lossless PaymentTemplate.schema.read PaymentTemplate.toJson p) := by
  refine ⟨fun s h => ?_, fun o => .of_recovers o.fits o.recovers,
    fun f => .of_recovers f.fits f.recovers, fun p h => ?_⟩
  · have hlegible : ∀ t ∈ s.instants, t.Legible := fun t ht =>
      Instant.exists_ofField?_iff.1 (h t ht)
    exact .of_recovers s.fits (Submission.recovers hlegible)
  · exact .of_recovers p.fits (PaymentTemplate.recovers (Instant.exists_ofField?_iff.1 h))

/-- A submission with a leap second, a year before the first, a year of five digits, and a fraction
of a second in each number of digits. -/
def Submission.acrossTheAges : Submission where
  id := "sub-1"
  confirmationReference := "AB-\"12\"\n\x07"
  createdAt := ⟨-63549316800, 1⟩
  submittedAt := some ⟨1483228799, 1500000000⟩
  modifiedAt := ⟨317278708200, 250001000⟩
  company := some ⟨"01234567", "Größe \\ Ltd"⟩
  presenter := some ⟨"agent@example.com"⟩
  status := .processing
  form := some ⟨none, some "SH01", [⟨"f-1", "allotment.pdf", 18446744073709551615, .converted,
    some "c-1", some 3, some ⟨1714521600, 0⟩⟩, .uploaded "f-2" "copy.pdf" 0]⟩
  sessions := [⟨"sess-1", .paid, some "PAY-1"⟩, .waiting "sess-2"]
  fee := some "33"
  authorised := some false
  rejectReasons := ["", "unreadable"]
  paidAt := none
  version := 18446744073709551615

theorem exchanged_acrossTheAges :
    Lossless Submission.schema.read Submission.toJson .acrossTheAges ∧
    Lossless FileOutcome.ofReading FileOutcome.toJson (.converted none (some 3)) ∧
    Lossless FormTemplate.schema.read FormTemplate.toJson (.paper "SH01" "Allotment" none) ∧
    Lossless PaymentTemplate.schema.read PaymentTemplate.toJson
      ⟨"DS01", ⟨1714521600, 0⟩, [⟨"33", "Application", []⟩], "active", .empty⟩ := by
  have hmay : ∃ text, Instant.ofField? text = some ⟨1714521600, 0⟩ :=
    ⟨"2024-05-01T00:00:00Z", by decide +kernel⟩
  have hinstants : ∀ t ∈ Submission.acrossTheAges.instants,
      ∃ text, Instant.ofField? text = some t :=
    List.forall_mem_cons.2 ⟨⟨"-0044-03-15T12:00:00.000000001Z", by decide +kernel⟩,
      List.forall_mem_cons.2 ⟨⟨"+12024-02-29T06:30:00.250001Z", by decide +kernel⟩,
        List.forall_mem_cons.2 ⟨⟨"2016-12-31T18:59:60.5-05:00", by decide +kernel⟩,
          List.forall_mem_singleton.2 hmay⟩⟩⟩
  exact ⟨exchanged.1 _ hinstants, exchanged.2.1 _, exchanged.2.2.1 _, exchanged.2.2.2 _ hmay⟩

end

end Filing
