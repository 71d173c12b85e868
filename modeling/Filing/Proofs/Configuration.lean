import Filing.Config.Load
import Filing.Proofs.Elapsed
import Filing.Proofs.Numeral
import Filing.Proofs.Reference
import Filing.Proofs.Revision

/-!
# Configurations that can be read

Five settings decide whether a configuration can be read.  What each of them asks of its variable is
said here for itself, and so is how the variable can fail it.  Reading the variables finds the first
failure, in the order of the settings, and a configuration where there is none.

The delay is looked at twice, by two rules: reading refuses what is no span of time, and making the
settings of an office turns whatever it is given into a span.  They agree on what has been read.

* `Setting` with `Setting.before`, the settings that are looked at earlier;
* `Setting.Does` — what a setting asks of the value of its variable; `Setting.Met` — the variable
  does, or is not set;
* `Setting.Fails` — the variable does not do, and the error that stands for it;
* `Config.ofVariables_eq_error_iff` — **reading fails with the error of the first setting that
  fails**;
* `Config.Usable` — a configuration holds what the variables say, and the office takes it over
  unchanged;
* `Config.usable` — **a configuration that is read is usable**, and a delay that is no span of time
  is named.
-/

set_option autoImplicit false

namespace Filing

open Instant (minutes longestSpan)
open Text (IsNatural IsInteger trimChars minSigned maxSigned maxByte maxShort maxLong)

variable {vs : Variables} {raw : String} {e : ConfigError}

/-! ## Numbers -/

section Number

variable {α : Type} {name : String} {parse : List Char → Option α} {default a : α}

/-- What a variable says in its own writing; where it is not set, the default is said. -/
def Variables.Says (vs : Variables) (name : String) (writes : List Char → α → Prop)
    (default a : α) : Prop :=
  match vs.find? name with
  | none => a = default
  | some raw => writes raw.toList a

theorem Variables.Says.imp {writes writes' : List Char → α → Prop}
    (h : vs.Says name writes default a) (himp : ∀ cs, writes cs a → writes' cs a) :
    vs.Says name writes' default a := by
  rw [Says] at *
  split at h
  · exact h
  · exact himp _ h

theorem numberVariable_eq_ok_iff :
    numberVariable vs name parse default = .ok a ↔
      vs.Says name (fun cs a => parse (trimChars cs) = some a) default a := by
  rw [numberVariable, Variables.Says]
  cases vs.find? name with
  | none => simp [eq_comm]
  | some raw => cases hparse : parse (trimChars raw.toList) <;> simp [hparse]

theorem numberVariable_eq_error_iff :
    numberVariable vs name parse default = .error e ↔
      ∃ raw, vs.find? name = some raw ∧ parse (trimChars raw.toList) = none ∧
        e = .invalidNumber name raw := by
  rw [numberVariable]
  cases vs.find? name with
  | none => simp
  | some raw => cases hparse : parse (trimChars raw.toList) <;> simp [hparse, eq_comm]

end Number

/-! ## The delay -/

/-- So many minutes are a span of time. -/
def IsDelay (n : Int) : Prop := 0 ≤ n ∧ minutes n ≤ longestSpan

/-- Reading looks at the number of minutes alone. -/
theorem isDelay_iff {n : Int} : IsDelay n ↔ 0 ≤ n ∧ n ≤ OfficeConfig.longestMinutes := by
  rw [IsDelay, OfficeConfig.longestMinutes, Int.le_ediv_iff_mul_le (by decide),
    ← Instant.minutes_eq]

instance (n : Int) : Decidable (IsDelay n) :=
  inferInstanceAs (Decidable (0 ≤ n ∧ minutes n ≤ longestSpan))

theorem delayVariable_eq {default : Int} :
    delayVariable vs default =
      numberVariable vs "EFS_DELAYED_AFTER_MINUTES" (Text.integer? minSigned maxSigned) default >>=
        fun n => if IsDelay n then .ok n
          else .error (.invalidNumber "EFS_DELAYED_AFTER_MINUTES" (toString n)) := by
  rw [delayVariable]
  simp only [Json.ofList_intChars, isDelay_iff]
  rfl

/-! ## Settings -/

/-- The settings that decide whether a configuration can be read. -/
inductive Setting where
  | port
  | referencePattern
  | batchSize
  | delay
  | retries
deriving DecidableEq, Repr

namespace Setting

/-- The settings that are looked at earlier. -/
def before : Setting → List Setting
  | port => []
  | referencePattern => [port]
  | batchSize => [port, referencePattern]
  | delay => [port, referencePattern, batchSize]
  | retries => [port, referencePattern, batchSize, delay]

/-- The name of the variable. -/
def name : Setting → String
  | port => "APP_PORT"
  | referencePattern => "EFS_REFERENCE_PATTERN"
  | batchSize => "EFS_QUEUE_BATCH_SIZE"
  | delay => "EFS_DELAYED_AFTER_MINUTES"
  | retries => "EFS_CONFLICT_RETRIES"

/-- The value can be read.  White space around a number does no harm, except around a port. -/
def Reads : Setting → List Char → Prop
  | port, cs => ∃ n, IsNatural cs n ∧ n ≤ maxShort
  | referencePattern, cs => Reference.placeholder ∈ cs
  | batchSize, cs => ∃ n, IsNatural (trimChars cs) n ∧ n ≤ maxLong
  | delay, cs => ∃ n, IsInteger (trimChars cs) n ∧ minSigned ≤ n ∧ n ≤ maxSigned
  | retries, cs => ∃ n, IsNatural (trimChars cs) n ∧ n ≤ maxByte

/-- The value can be read, and if it is to be a delay, it is one. -/
def Does (s : Setting) (cs : List Char) : Prop :=
  s.Reads cs ∧ (s = delay → ∀ n, IsInteger (trimChars cs) n → IsDelay n)

/-- The variable does, or it is not set. -/
def Met (vs : Variables) (s : Setting) : Prop :=
  ∀ raw, vs.find? s.name = some raw → s.Does raw.toList

/-- The error for a value that cannot be read. -/
def refusal : Setting → String → ConfigError
  | port, _ => .invalidPort
  | referencePattern, raw => .invalidReferencePattern raw
  | s, raw => .invalidNumber s.name raw

/-- The value does not do for the setting, and this is the error that stands for it. -/
inductive Fault : Setting → String → ConfigError → Prop where
  | unread {s : Setting} {raw : String} (h : ¬s.Reads raw.toList) : Fault s raw (s.refusal raw)
  /-- A number that is no span of time is named in its usual writing. -/
  | noDelay {raw : String} {n : Int} (hnumber : IsInteger (trimChars raw.toList) n)
    (hfits : minSigned ≤ n ∧ n ≤ maxSigned) (h : ¬IsDelay n) :
    Fault delay raw (.invalidNumber delay.name (toString n))

/-- The variable is set to a value that does not do, and this is the error that stands for it. -/
def Fails (vs : Variables) (s : Setting) (e : ConfigError) : Prop :=
  ∃ raw, vs.find? s.name = some raw ∧ s.Fault raw e

/-- **Where a value does not do, there is an error that stands for it.** -/
theorem exists_fault_iff {s : Setting} : (∃ e, s.Fault raw e) ↔ ¬s.Does raw.toList := by
  constructor
  · rintro ⟨e, h⟩ ⟨hreads, hdelay⟩
    cases h with
    | unread h => exact h hreads
    | noDelay hnumber _ h => exact h (hdelay rfl _ hnumber)
  · intro h
    by_cases hreads : s.Reads raw.toList
    · obtain ⟨rfl, n, hnumber, hdelay⟩ : s = delay ∧ ∃ n, IsInteger (trimChars raw.toList) n ∧
          ¬IsDelay n := by simpa [Does, hreads] using h
      obtain ⟨m, hm, hfits⟩ := hreads
      exact ⟨_, .noDelay hnumber (hm.unique hnumber ▸ hfits) hdelay⟩
    · exact ⟨_, .unread hreads⟩

theorem met_iff {s : Setting} : s.Met vs ↔ ∀ e, ¬s.Fails vs e := by
  constructor
  · rintro h e ⟨raw, hfind, hfault⟩
    exact exists_fault_iff.1 ⟨e, hfault⟩ (h raw hfind)
  · intro h raw hfind
    refine by_contra fun hdoes => ?_
    obtain ⟨e, hfault⟩ := exists_fault_iff.2 hdoes
    exact h e ⟨raw, hfind, hfault⟩

theorem fault_iff {s : Setting} (hs : s ≠ delay) :
    s.Fault raw e ↔ ¬s.Reads raw.toList ∧ e = s.refusal raw := by
  constructor
  · intro h
    cases h with
    | unread h => exact ⟨h, rfl⟩
    | noDelay => exact absurd rfl hs
  · rintro ⟨h, rfl⟩
    exact .unread h

theorem fault_delay_iff :
    Fault delay raw e ↔
      (¬delay.Reads raw.toList ∧ e = delay.refusal raw) ∨
        ∃ n, (IsInteger (trimChars raw.toList) n ∧ minSigned ≤ n ∧ n ≤ maxSigned) ∧ ¬IsDelay n ∧
          e = .invalidNumber delay.name (toString n) := by
  constructor
  · intro h
    cases h with
    | unread h => exact .inl ⟨h, rfl⟩
    | noDelay hnumber hfits h => exact .inr ⟨_, ⟨hnumber, hfits⟩, h, rfl⟩
  · rintro (⟨h, rfl⟩ | ⟨n, ⟨hnumber, hfits⟩, h, rfl⟩)
    · exact .unread h
    · exact .noDelay hnumber hfits h

end Setting

open Setting (Met Fails)

/-! ## One setting -/

theorem Config.portVariable_eq_error_iff :
    portVariable vs = .error e ↔ Fails vs .port e := by
  simp only [Fails, Setting.fault_iff (s := .port) (by decide), Setting.Reads,
    ← Text.natural?_eq_none_iff]
  rw [portVariable, show Setting.port.name = "APP_PORT" from rfl]
  cases vs.find? "APP_PORT" with
  | none => simp
  | some raw =>
    cases hread : Text.natural? maxShort raw.toList <;> simp [hread, eq_comm, Setting.refusal]

/-- Both settings that are natural numbers fail in the same way. -/
theorem naturalVariable_eq_error_iff {s : Setting} {bound default : Nat} (hs : s ≠ .delay)
    (hreads : ∀ cs, s.Reads cs ↔ ∃ n, IsNatural (trimChars cs) n ∧ n ≤ bound)
    (hrefusal : ∀ raw, s.refusal raw = .invalidNumber s.name raw) :
    numberVariable vs s.name (Text.natural? bound) default = .error e ↔ Fails vs s e := by
  simp only [numberVariable_eq_error_iff, Fails, Setting.fault_iff hs, hreads, hrefusal,
    Text.natural?_eq_none_iff]

theorem batchSize_eq_error_iff {default : Nat} :
    numberVariable vs "EFS_QUEUE_BATCH_SIZE" (Text.natural? maxLong) default = .error e ↔
      Fails vs .batchSize e :=
  naturalVariable_eq_error_iff (s := .batchSize) (by decide) (fun _ => Iff.rfl) fun _ => rfl

theorem retries_eq_error_iff {default : Nat} :
    numberVariable vs "EFS_CONFLICT_RETRIES" (Text.natural? maxByte) default = .error e ↔
      Fails vs .retries e :=
  naturalVariable_eq_error_iff (s := .retries) (by decide) (fun _ => Iff.rfl) fun _ => rfl

theorem delayVariable_eq_error_iff {default : Int} (hdefault : IsDelay default) :
    delayVariable vs default = .error e ↔ Fails vs .delay e := by
  simp only [Fails, Setting.fault_delay_iff, Setting.Reads, ← Text.integer?_eq_some_iff]
  rw [delayVariable_eq, numberVariable,
    show Setting.delay.name = "EFS_DELAYED_AFTER_MINUTES" from rfl]
  cases vs.find? "EFS_DELAYED_AFTER_MINUTES" with
  | none => simp [bind, Except.bind, hdefault]
  | some raw =>
    cases hread : Text.integer? minSigned maxSigned (trimChars raw.toList) with
    | none => simp [hread, bind, Except.bind, eq_comm, Setting.refusal, Setting.name]
    | some n => by_cases h : IsDelay n <;> simp [hread, bind, Except.bind, eq_comm, h]

/-! ## All settings -/

/-- What has no error is read. -/
theorem exists_ok_iff {ε α : Type} {x : Except ε α} : (∃ a, x = .ok a) ↔ ∀ e, x ≠ .error e := by
  cases x <;> simp

/-- The template that is read, which is the standard one where the variable is not set. -/
def OfficeConfig.patternOf (vs : Variables) : String :=
  (vs.find? "EFS_REFERENCE_PATTERN").getD default.referencePattern

theorem fails_referencePattern_iff :
    Fails vs .referencePattern e ↔
      Reference.placeholder ∉ (OfficeConfig.patternOf vs).toList ∧
        e = .invalidReferencePattern (OfficeConfig.patternOf vs) := by
  have hstandard : Reference.placeholder ∈ OfficeConfig.default.referencePattern.toList := by decide
  rw [Fails, OfficeConfig.patternOf,
    show Setting.referencePattern.name = "EFS_REFERENCE_PATTERN" from rfl]
  cases vs.find? "EFS_REFERENCE_PATTERN" with
  | none => simp [hstandard]
  | some raw => simp [Setting.fault_iff, Setting.Reads, Setting.refusal]

theorem met_referencePattern_iff :
    Met vs .referencePattern ↔ Reference.placeholder ∈ (OfficeConfig.patternOf vs).toList := by
  simp [Setting.met_iff, fails_referencePattern_iff]

theorem OfficeConfig.ofVariables_eq_error_iff :
    ofVariables vs = .error e ↔ Fails vs .referencePattern e ∨ Met vs .referencePattern ∧
      (Fails vs .batchSize e ∨ Met vs .batchSize ∧
        (Fails vs .delay e ∨ Met vs .delay ∧ Fails vs .retries e)) := by
  have hdelay (e : ConfigError) :
      delayVariable vs default.delayedAfterMinutes = .error e ↔ Fails vs .delay e :=
    delayVariable_eq_error_iff (by decide)
  rw [fails_referencePattern_iff, met_referencePattern_iff, ofVariables, ← patternOf]
  split
  · next hpattern =>
    have hnone : Reference.placeholder ∉ (patternOf vs).toList := by simpa using hpattern
    simp [hnone, bind, Except.bind, throw, throwThe, MonadExceptOf.throw, eq_comm]
  · next hpattern =>
    have hsome : Reference.placeholder ∈ (patternOf vs).toList := by simpa using hpattern
    simp only [bind_eq_error, pure, Except.pure, reduceCtorEq, and_false, exists_false, or_false,
      exists_and_right, exists_ok_iff, ne_eq, batchSize_eq_error_iff, hdelay, retries_eq_error_iff,
      ← Setting.met_iff, hsome, not_true_eq_false, false_and, false_or, true_and]

/-- **Reading fails with the first setting that fails**, whatever there is behind it. -/
theorem Config.ofVariables_eq_error_iff :
    ofVariables vs = .error e ↔
      ∃ s : Setting, (∀ earlier ∈ s.before, Met vs earlier) ∧ Fails vs s e := by
  have hchain : ofVariables vs = .error e ↔ Fails vs .port e ∨ Met vs .port ∧
      OfficeConfig.ofVariables vs = .error e := by
    rw [ofVariables]
    simp only [bind_eq_error, pure, Except.pure, reduceCtorEq, and_false, exists_false, or_false,
      exists_and_right, exists_ok_iff, ne_eq, portVariable_eq_error_iff, ← Setting.met_iff]
  rw [hchain, OfficeConfig.ofVariables_eq_error_iff]
  constructor
  · rintro (h | ⟨hport, h | ⟨hpattern, h | ⟨hbatch, h | ⟨hdelay, h⟩⟩⟩⟩)
    · exact ⟨.port, List.forall_mem_nil _, h⟩
    · exact ⟨.referencePattern, by simp [Setting.before, hport], h⟩
    · exact ⟨.batchSize, by simp [Setting.before, hport, hpattern], h⟩
    · exact ⟨.delay, by simp [Setting.before, hport, hpattern, hbatch], h⟩
    · exact ⟨.retries, by simp [Setting.before, hport, hpattern, hbatch, hdelay], h⟩
  · rintro ⟨s, hearlier, h⟩
    have hmet {t : Setting} (ht : t ∈ s.before) : Met vs t := hearlier t ht
    cases s with
    | port => exact .inl h
    | referencePattern => exact .inr ⟨hmet (by decide), .inl h⟩
    | batchSize => exact .inr ⟨hmet (by decide), .inr ⟨hmet (by decide), .inl h⟩⟩
    | delay =>
      exact .inr ⟨hmet (by decide), .inr ⟨hmet (by decide), .inr ⟨hmet (by decide), .inl h⟩⟩⟩
    | retries =>
      exact .inr ⟨hmet (by decide), .inr ⟨hmet (by decide), .inr ⟨hmet (by decide),
        .inr ⟨hmet (by decide), h⟩⟩⟩⟩

/-- **A configuration is read exactly if no setting fails.** -/
theorem Config.exists_ofVariables_iff :
    (∃ c, ofVariables vs = .ok c) ↔ ∀ s : Setting, Met vs s := by
  rw [exists_ok_iff]
  constructor
  · intro hok
    have hnext (s : Setting) (hearlier : ∀ earlier ∈ s.before, Met vs earlier) : Met vs s :=
      Setting.met_iff.2 fun e hfails => hok e (ofVariables_eq_error_iff.2 ⟨s, hearlier, hfails⟩)
    have hport := hnext .port (List.forall_mem_nil _)
    have hpattern := hnext .referencePattern (by simp [Setting.before, hport])
    have hbatch := hnext .batchSize (by simp [Setting.before, hport, hpattern])
    have hdelay := hnext .delay (by simp [Setting.before, hport, hpattern, hbatch])
    have hretries := hnext .retries (by simp [Setting.before, hport, hpattern, hbatch, hdelay])
    intro s
    cases s <;> assumption
  · intro hmet e he
    obtain ⟨s, -, hfails⟩ := ofVariables_eq_error_iff.1 he
    exact Setting.met_iff.1 (hmet s) e hfails

/-! ## What is read -/

/-- What a configuration says about an office is what the variables say. -/
structure OfficeConfig.Written (vs : Variables) (c : OfficeConfig) : Prop where
  referencePattern : vs.Says "EFS_REFERENCE_PATTERN" (fun cs s => s.toList = cs)
    default.referencePattern c.referencePattern
  batchSize : vs.Says "EFS_QUEUE_BATCH_SIZE" (fun cs n => IsNatural (trimChars cs) n)
    default.batchSize c.batchSize
  delay : vs.Says "EFS_DELAYED_AFTER_MINUTES" (fun cs n => IsInteger (trimChars cs) n)
    default.delayedAfterMinutes c.delayedAfterMinutes
  retries : vs.Says "EFS_CONFLICT_RETRIES" (fun cs n => IsNatural (trimChars cs) n)
    default.retries c.retries

theorem delayVariable_eq_ok_iff {default n : Int} :
    delayVariable vs default = .ok n ↔
      vs.Says "EFS_DELAYED_AFTER_MINUTES"
        (fun cs n => Text.integer? minSigned maxSigned (trimChars cs) = some n) default n ∧
      IsDelay n := by
  rw [delayVariable_eq, bind_eq_ok]
  simp only [numberVariable_eq_ok_iff]
  constructor
  · rintro ⟨m, hm, h⟩
    split at h
    · next hdelay => exact Except.ok.inj h ▸ ⟨hm, hdelay⟩
    · cases h
  · rintro ⟨hn, hdelay⟩
    exact ⟨n, hn, if_pos hdelay⟩

theorem OfficeConfig.ofVariables_eq_ok {c : OfficeConfig} (h : ofVariables vs = .ok c) :
    c.Written vs ∧ Reference.placeholder ∈ c.referencePattern.toList ∧
      IsDelay c.delayedAfterMinutes := by
  rw [ofVariables, ← patternOf] at h
  split at h
  · cases h
  · next hpattern =>
    simp only [bind_eq_ok] at h
    obtain ⟨batchSize, hbatch, n, hn, retries, hretries, h⟩ := h
    obtain rfl := Except.ok.inj h
    obtain ⟨hwritten, hdelay⟩ := delayVariable_eq_ok_iff.1 hn
    refine ⟨⟨?_, ?_, ?_, ?_⟩, by simpa using hpattern, hdelay⟩
    · rw [Variables.Says, patternOf]
      cases vs.find? "EFS_REFERENCE_PATTERN" <;> rfl
    · exact (numberVariable_eq_ok_iff.1 hbatch).imp fun _ h => (Text.natural?_eq_some_iff.1 h).1
    · exact hwritten.imp fun _ h => (Text.integer?_eq_some_iff.1 h).1
    · exact (numberVariable_eq_ok_iff.1 hretries).imp fun _ h => (Text.natural?_eq_some_iff.1 h).1

/-- A configured delay is kept as it is, unless it is longer than any span. -/
theorem OfficeConfig.settings_delayedAfter {c : OfficeConfig} (h : 0 ≤ c.delayedAfterMinutes)
    (hfits : c.delayedAfterMinutes ≤ longestMinutes) :
    c.settings.delayedAfter = minutes c.delayedAfterMinutes := by
  rw [settings, spanOfMinutes, max_eq_right h, if_pos hfits]

/-- The longest span is no whole number of minutes. -/
theorem IsDelay.lt_longestSpan {n : Int} (h : IsDelay n) : minutes n < longestSpan := by
  have hle := h.2
  have hminute : minutes 1 = 60000000000 := by decide
  have hlongest : longestSpan = 9223372036854775807000000 := by decide
  rw [Instant.minutes_eq, hminute, hlongest] at hle ⊢
  omega

/-- At a placeholder of the template the reference has the symbol that one of the words draws. -/
def Reference.HasDrawn (template reference : String) (used : List UInt64) : Prop :=
  ∃ (word : UInt64) (place : Nat), word ∈ used ∧ isAccepted word = true ∧
    template.toList[place]? = some placeholder ∧ reference.toList[place]? = some (symbolOf word)

theorem Reference.exists_hasDrawn {template reference : String} {words rest : List UInt64}
    (hplaceholder : placeholder ∈ template.toList)
    (h : generate? template words = some (reference, rest)) :
    ∃ used, words = used ++ rest ∧ HasDrawn template reference used := by
  obtain ⟨used, hwords, hdraws⟩ := generate?_eq_some_iff.1 h
  obtain ⟨place, hplace⟩ := List.mem_iff_getElem?.1 hplaceholder
  obtain ⟨word, hword, haccepted, hsymbol⟩ := hdraws.symbolAt hplace
  exact ⟨used, hwords, word, place, hword, haccepted, hplace, hsymbol⟩

namespace Config

/-- The variables after a file, if there is one. -/
def environment (vs : Variables) (file : Option String) : Variables :=
  (file.map (Dotenv.load vs)).getD vs

theorem load_eq (vs : Variables) (file : Option String) :
    load vs file = ofVariables (environment vs file) := rfl

/-- The office works as the variables say. -/
structure Usable (vs : Variables) (c : Config) : Prop where
  written : c.office.Written vs
  /-- There is something to be drawn in every reference. -/
  hasPlaceholder : 0 < Reference.placeholders c.office.settings.referencePattern
  drawn : ∀ words reference rest,
    Reference.generate? c.office.settings.referencePattern words = some (reference, rest) →
      ∃ used, words = used ++ rest ∧
        Reference.HasDrawn c.office.settings.referencePattern reference used
  /-- The delay is the one that was read, neither made longer nor shorter. -/
  delay : c.office.settings.delayedAfter = minutes c.office.delayedAfterMinutes
  notNegative : 0 ≤ c.office.delayedAfterMinutes
  notLongest : c.office.settings.delayedAfter < longestSpan
  referencePattern : c.office.settings.referencePattern = c.office.referencePattern
  batchSize : c.office.settings.batchSize = c.office.batchSize
  retries : c.office.settings.retries = c.office.retries

theorem usable_of_ofVariables {c : Config} (h : ofVariables vs = .ok c) : c.Usable vs := by
  have hoffice : OfficeConfig.ofVariables vs = .ok c.office := by
    rw [ofVariables] at h
    simp only [bind_eq_ok] at h
    obtain ⟨port, -, office, hoffice, h⟩ := h
    obtain rfl := Except.ok.inj h
    exact hoffice
  obtain ⟨hwritten, hplaceholder, hdelay⟩ := OfficeConfig.ofVariables_eq_ok hoffice
  have hkept : c.office.settings.delayedAfter = minutes c.office.delayedAfterMinutes :=
    OfficeConfig.settings_delayedAfter hdelay.1 (isDelay_iff.1 hdelay).2
  exact
    { written := hwritten
      hasPlaceholder := List.count_pos_iff.2 hplaceholder
      drawn := fun _ _ _ => Reference.exists_hasDrawn hplaceholder
      delay := hkept
      notNegative := hdelay.1
      notLongest := hkept ▸ hdelay.lt_longestSpan
      referencePattern := rfl
      batchSize := rfl
      retries := rfl }

/-- **A configuration that is read is usable.**

* It is read exactly if the five settings do, in the variables with those of the file.
* The office works as it is written there.
* A number of minutes that is no span of time is named, unless a setting that is looked at earlier
  does not do. -/
theorem usable (vs : Variables) (file : Option String) :
    ((∃ c, load vs file = .ok c) ↔ ∀ s : Setting, Met (environment vs file) s) ∧
    (∀ c, load vs file = .ok c → c.Usable (environment vs file)) ∧
    ∀ raw n, (environment vs file).find? "EFS_DELAYED_AFTER_MINUTES" = some raw →
      IsInteger (trimChars raw.toList) n → minSigned ≤ n → n ≤ maxSigned →
      (n < 0 ∨ longestSpan < minutes n) →
      (∀ s ∈ [Setting.port, .referencePattern, .batchSize], Met (environment vs file) s) →
      load vs file = .error (.invalidNumber "EFS_DELAYED_AFTER_MINUTES" (toString n)) := by
  simp only [load_eq]
  refine ⟨exists_ofVariables_iff, fun c h => usable_of_ofVariables h, ?_⟩
  intro raw n hfind hnumber hlow hhigh hrange hearlier
  have hdelay : ¬IsDelay n := by
    rintro ⟨hzero, hlongest⟩
    omega
  exact ofVariables_eq_error_iff.2
    ⟨.delay, hearlier, raw, hfind, .noDelay hnumber ⟨hlow, hhigh⟩ hdelay⟩

/-- The longest delay that can be read, and one minute more.  What is set already counts, and not
the file. -/
theorem usable_aroundLongestDelay :
    let longest := [("EFS_REFERENCE_PATTERN", "EFS-##"),
      ("EFS_DELAYED_AFTER_MINUTES", " +153722867280912")]
    let longer := [("EFS_DELAYED_AFTER_MINUTES", "0153722867280913")]
    let file := some "EFS_DELAYED_AFTER_MINUTES=60"
    (∃ c, load longest none = .ok c ∧ c.Usable longest) ∧
    (environment longer file).find? "EFS_DELAYED_AFTER_MINUTES" = some "0153722867280913" ∧
      IsInteger (trimChars "0153722867280913".toList) 153722867280913 ∧
      longestSpan < minutes 153722867280913 ∧
      load longer file =
        .error (.invalidNumber "EFS_DELAYED_AFTER_MINUTES" "153722867280913") := by
  intro longest longer file
  have hread : (load longest none).toOption.isSome = true := by decide +kernel
  have hok : ∃ c, load longest none = .ok c := by
    cases hload : load longest none with
    | error e => rw [hload] at hread; cases hread
    | ok c => exact ⟨c, rfl⟩
  obtain ⟨c, hc⟩ := hok
  have hfind : (environment longer file).find? "EFS_DELAYED_AFTER_MINUTES" =
      some "0153722867280913" := by decide +kernel
  have hnumber : IsInteger (trimChars "0153722867280913".toList) 153722867280913 := by
    have hread : Text.integer? minSigned maxSigned (trimChars "0153722867280913".toList) =
        some 153722867280913 := by decide +kernel
    exact (Text.integer?_eq_some_iff.1 hread).1
  have hlonger : longestSpan < minutes 153722867280913 := by decide
  have hearlier : ∀ s ∈ [Setting.port, .referencePattern, .batchSize],
      Met (environment longer file) s := by
    have hunset : ∀ s ∈ [Setting.port, .referencePattern, .batchSize],
        (environment longer file).find? s.name = none := by decide +kernel
    intro s hs raw hraw
    rw [hunset s hs] at hraw
    cases hraw
  exact ⟨⟨c, hc, (usable longest none).2.1 c hc⟩, hfind, hnumber, hlonger,
    (usable longer file).2.2 _ _ hfind hnumber (by decide) (by decide) (.inr hlonger) hearlier⟩

end Config

end Filing
