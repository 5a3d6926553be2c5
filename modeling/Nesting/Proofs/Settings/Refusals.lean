import Nesting.Command.Run
import Nesting.Host.World
import Nesting.Proofs.Settings.Layers

/-!
# Settings that are refused

Whoever asks for settings expects them to be refused with a fault of the configuration. Some errors
are of another kind, and the caller does not handle them. They come from three places: a file that
can not be looked for, a value that is refused and can not be written, so that the refusal can not
be told, and a comment pattern that repeats too often, whose fault is none of a pattern and none of
a value.

`Escapes` says that a computation ends in such an error. It is followed through the stages of
loading (`SettingsFile.escapes_entriesIfAny`, `not_escapes_environmentEntries`,
`escapes_ofEntries`), and `SettingsSources.LetsOut` puts together when it happens.
`SettingsSources.load_escapes_iff` is the result: loading lets out these errors and no others, and a
run ends with the code for faults of the settings just when none is let out.
-/

namespace Nesting

variable {α β : Type} {e : Error}

/-! ## Errors that escape -/

/-- Whether an error is a fault of the configuration, which is what callers of settings handle. -/
def Error.IsConfiguration : Error → Prop
  | .fault f => FaultKind.configuration ∈ f.kind.ancestors
  | _ => False

def Error.isFault : Error → Bool
  | .fault _ => true
  | _ => false

theorem Error.IsConfiguration.isFault (h : e.IsConfiguration) : e.isFault = true := by
  cases e with
  | fault => rfl
  | _ => exact h.elim

/-- Whether a computation ends in an error that is no fault of the configuration. -/
def Escapes (x : Outcome α) (e : Error) : Prop :=
  x = .error e ∧ ¬e.IsConfiguration

theorem not_escapes_ok (a : α) : ¬Escapes (.ok a) e := fun h => nomatch h.1

theorem not_escapes_of_isConfiguration {e' : Error} (h : e'.IsConfiguration) :
    ¬Escapes (.error e' : Outcome α) e := by
  rintro ⟨heq, hnot⟩
  obtain rfl := Except.error.inj heq
  exact hnot h

theorem escapes_bind {x : Outcome α} {f : α → Outcome β} :
    Escapes (x >>= f) e ↔ Escapes x e ∨ ∃ a, x = .ok a ∧ Escapes (f a) e := by
  simp only [Escapes, bind_eq_error_iff]
  constructor
  · rintro ⟨h | ⟨a, ha, h⟩, hnot⟩
    · exact Or.inl ⟨h, hnot⟩
    · exact Or.inr ⟨a, ha, h, hnot⟩
  · rintro (⟨h, hnot⟩ | ⟨a, ha, h, hnot⟩)
    · exact ⟨Or.inl h, hnot⟩
    · exact ⟨Or.inr ⟨a, ha, h⟩, hnot⟩

/-- What keeps a value from being written is told as an error, which is no fault. -/
def TellsFault (fault? : Option Value.WritingFault) (e : Error) : Prop :=
  ∃ w, fault? = some w ∧ e = .ofWritingFault w

/-- A setting is refused as it should be, unless its value can not be written. -/
theorem escapes_invalidSetting {key reason : String} {v : Value} {room : Nat} :
    Escapes (.error (.invalidSetting key v reason room) : Outcome α) e ↔
      TellsFault (v.writingFault? room) e := by
  rw [Error.invalidSetting, TellsFault]
  cases v.writingFault? room with
  | none =>
      refine iff_of_false (not_escapes_of_isConfiguration ?_) fun ⟨_, h, _⟩ => (nomatch h)
      simp [Error.IsConfiguration, Error.telling, Fault.invalidSetting, Fault.invalid,
        FaultKind.ancestors]
  | some w =>
      constructor
      · exact fun h => ⟨w, rfl, (Except.error.inj h.1).symm⟩
      · rintro ⟨_, hw, rfl⟩
        cases hw
        exact ⟨rfl, by cases w <;> exact id⟩

theorem isConfiguration_configuration (message : String) :
    (Error.fault (.configuration message)).IsConfiguration := by
  simp [Error.IsConfiguration, Fault.configuration, FaultKind.ancestors]

/-! ## Thresholds of a file -/

instance (n : String) : Decidable (IsThresholdName n) :=
  inferInstanceAs (Decidable (_ ∨ _))

/-- The value that is refused as the thresholds of a file, or the first that is refused of them. -/
def Entries.refusedThreshold? (es : Entries) : Option Value :=
  match es.get? thresholdsName with
  | none => none
  | some (.table ts) => (ts.find? fun e => ¬IsThresholdName e.1).map (·.2)
  | some v => some v

variable {room : Nat}

theorem escapes_putThresholds {ts es : Entries} :
    Escapes (putThresholds room ts es) e ↔
      ∃ v, (ts.find? fun e => ¬IsThresholdName e.1).map (·.2) = some v
        ∧ TellsFault (v.writingFault? room) e := by
  induction ts generalizing es with
  | nil => exact iff_of_false (not_escapes_ok es) (by simp)
  | cons e' ts ih =>
      by_cases he : IsThresholdName e'.1
      · rw [putThresholds_cons he, ih, List.find?_cons_of_neg (by simpa using he)]
      · rw [putThresholds_cons_of_not he, escapes_invalidSetting,
          List.find?_cons_of_pos (by simpa using he)]
        simp

theorem escapes_flattenThresholds {path : Path} {es : Entries} :
    Escapes (flattenThresholds room path es) e ↔
      ∃ v, es.refusedThreshold? = some v ∧ TellsFault (v.writingFault? room) e := by
  rw [flattenThresholds, Entries.refusedThreshold?]
  cases es.get? thresholdsName with
  | none => exact iff_of_false (not_escapes_ok es) (by simp)
  | some v =>
      cases v with
      | table ts => exact escapes_putThresholds
      | _ => exact escapes_invalidSetting.trans (by simp)

/-! ## Files -/

namespace SettingsFile

variable {f : SettingsFile}

/-- The errors that escape from reading a file: it can not be looked for, or a value among its
thresholds is refused and can not be written. -/
def LetsOut (f : SettingsFile) (room : Nat) (e : Error) : Prop :=
  (∃ fault, f.status = .error fault ∧ fault.isAbsence = false ∧ e = .unopened fault f.path)
    ∨ ∃ v, f.given.refusedThreshold? = some v ∧ TellsFault (v.writingFault? room) e

theorem escapes_lookUp :
    Escapes f.lookUp e ↔
      ∃ fault, f.status = .error fault ∧ fault.isAbsence = false
        ∧ e = .unopened fault f.path := by
  rw [lookUp]
  cases f.status with
  | ok => exact iff_of_false (not_escapes_ok true) (by simp)
  | error fault =>
      dsimp only
      by_cases hfault : fault.isAbsence = true
      · rw [if_pos hfault]
        exact iff_of_false (not_escapes_ok false) (by simp [hfault])
      · rw [if_neg hfault]
        constructor
        · exact fun h => ⟨fault, rfl, Bool.eq_false_iff.mpr hfault, (Except.error.inj h.1).symm⟩
        · rintro ⟨_, hstatus, -, rfl⟩
          cases hstatus
          exact ⟨rfl, id⟩

theorem escapes_entries (hthere : f.IsThere) :
    Escapes (f.entries room) e ↔
      ∃ v, f.given.refusedThreshold? = some v ∧ TellsFault (v.writingFault? room) e := by
  rw [entries, given_of_isThere hthere]
  cases hdocument : f.document with
  | ok es =>
      rw [document_eq_ok_iff.mp hdocument]
      exact escapes_flattenThresholds
  | error message =>
      have hnone : f.held? = none := by
        rw [← Option.not_isSome_iff_eq_none, Option.isSome_iff_exists]
        rintro ⟨es, hes⟩
        cases hdocument.symm.trans (document_eq_ok_iff.mpr hes)
      rw [hnone]
      refine iff_of_false (not_escapes_of_isConfiguration (isConfiguration_configuration _)) ?_
      rintro ⟨_, h, -⟩
      cases h

/-- What is done with a file that is looked for: `absent` if it is not there, else its entries. -/
theorem escapes_lookUp_bind {absent : Outcome Entries} (habsent : ¬Escapes absent e) :
    Escapes (f.lookUp >>= fun isThere => if isThere then f.entries room else absent) e ↔
      f.LetsOut room e := by
  rw [escapes_bind, escapes_lookUp, LetsOut]
  refine or_congr_right ?_
  constructor
  · rintro ⟨isThere, hlook, h⟩
    rcases lookUp_eq_ok_iff.mp hlook with ⟨rfl, hthere⟩ | ⟨rfl, -⟩
    · exact (escapes_entries hthere).mp h
    · exact absurd h habsent
  · rintro ⟨v, hv, htold⟩
    have hthere : f.IsThere := by
      -- without a file there would be nothing to refuse
      rw [IsThere]
      cases hstatus : f.status with
      | ok => rfl
      | error fault =>
          rw [given, hstatus] at hv
          cases hv
    exact ⟨true, lookUp_eq_ok_iff.mpr (Or.inl ⟨rfl, hthere⟩),
      (escapes_entries hthere).mpr ⟨v, hv, htold⟩⟩

theorem escapes_entriesIfAny : Escapes (f.entriesIfAny room) e ↔ f.LetsOut room e :=
  escapes_lookUp_bind (not_escapes_ok [])

theorem escapes_entriesOfNamed : Escapes (f.entriesOfNamed room) e ↔ f.LetsOut room e :=
  escapes_lookUp_bind (not_escapes_of_isConfiguration (isConfiguration_configuration _))

end SettingsFile

/-! ## The environment -/

theorem not_escapes_environmentEntries {environment : String → Option String} :
    ¬Escapes (environmentEntries environment) e := by
  rw [environmentEntries, escapes_bind]
  rintro (⟨h, hnot⟩ | ⟨_, _, h⟩)
  · obtain ⟨st, -, h⟩ := exists_of_mapM_eq_error h
    rw [Setting.ofEnvironment] at h
    split at h
    · cases h
    · split at h
      · cases h
      · obtain ⟨w, hw, -⟩ := escapes_invalidSetting.mp ⟨h, hnot⟩
        cases hw
  · exact not_escapes_ok _ h

/-! ## The checks -/

section Checks

variable {es : Entries} {platform : Platform}

/-- An error of checking settings, as it is told of the table that they are in. -/
def Told (platform : Platform) (es : Entries) (e : Error) : Error :=
  e.ofMerged es platform.tableRoom

/-- Whether it is told that a table of settings can not be written. -/
def TableTellsFault (platform : Platform) (es : Entries) (e : Error) : Prop :=
  TellsFault ((Value.table es).writingFault? platform.tableRoom) e

/-- A check whose errors are those of values lets one out when the table can not be written. -/
theorem escapes_mapError_told {x : Outcome α}
    (h : ∀ e', x = .error e' →
      Told platform es e' = .invalidSetting "config" (.table es) e'.message platform.tableRoom) :
    Escapes (x.mapError (Told platform es)) e ↔
      (¬∃ a, x = .ok a) ∧ TableTellsFault platform es e := by
  cases x with
  | ok a => exact iff_of_false (not_escapes_ok a) fun hx => hx.1 ⟨a, rfl⟩
  | error e' =>
      rw [Except.mapError, h e' rfl, escapes_invalidSetting, TableTellsFault]
      simp

theorem not_escapes_checkSettingNames {names : List String} :
    ¬Escapes ((checkSettingNames names).mapError (Told platform es)) e := by
  rw [checkSettingNames]
  split
  · exact not_escapes_ok ()
  · next n _ =>
      by_cases hself : n = "self"
      · rw [if_pos hself]
        exact not_escapes_of_isConfiguration (isConfiguration_configuration _)
      · rw [if_neg hself]
        exact not_escapes_of_isConfiguration (isConfiguration_configuration _)

/-- Whether a value that should be a number is refused, and stands within too many others for the
refusal to be told. -/
def RefusedNested (room : Nat) (v : Value) : Prop :=
  (¬∃ n, v = Settings.numberValue n) ∧ v.writingFault? room = some .tooNested

/-- A refused number is told by itself first, and a fault in that is not handled if it comes of the
values around it. -/
theorem escapes_numberSetting {st : Setting} {v : Value} :
    Escapes ((numberSetting st v platform.numberRoom).mapError (Told platform es)) e ↔
      RefusedNested platform.numberRoom v ∧ e = .tooNested
        ∨ ¬RefusedNested platform.numberRoom v ∧ (¬∃ n, v = Settings.numberValue n)
          ∧ TableTellsFault platform es e := by
  rw [RefusedNested]
  by_cases hnumber : ∃ n, v = Settings.numberValue n
  · obtain ⟨n, hn⟩ := hnumber
    rw [numberSetting_eq_ok_iff.mpr hn]
    exact iff_of_false (not_escapes_ok n) (by simp [hn])
  · have herror : numberSetting st v platform.numberRoom =
        .error (.telling (v.writingFault? platform.numberRoom) (.notNumber st.name v)) := by
      unfold numberSetting
      split
      · next n => exact absurd ⟨.int n, rfl⟩ hnumber
      · next x => exact absurd ⟨.float x, rfl⟩ hnumber
      · rfl
    simp only [hnumber, not_false_eq_true, true_and]
    have htold : ∀ e' : Error, Told platform es e' =
        .invalidSetting "config" (.table es) e'.message platform.tableRoom →
          (Escapes ((.error e' : Outcome Number).mapError (Told platform es)) e ↔
            TableTellsFault platform es e) := fun e' h => by
      rw [escapes_mapError_told fun _ heq => Except.error.inj heq ▸ h]
      simp
    rw [herror]
    cases hfault : v.writingFault? platform.numberRoom with
    | none => exact (htold _ rfl).trans (by simp)
    | some w =>
        cases w with
        | tooManyDigits => exact (htold _ rfl).trans (by simp)
        | tooNested =>
            constructor
            · exact fun h => Or.inl ⟨rfl, (Except.error.inj h.1).symm⟩
            · rintro (⟨-, rfl⟩ | ⟨hnot, -⟩)
              · exact ⟨rfl, id⟩
              · exact absurd rfl hnot

theorem escapes_changesSetting {v : Value} :
    Escapes ((changesSetting v).mapError (Told platform es)) e ↔
      (¬∃ i : Include, v = .text i.name) ∧ TableTellsFault platform es e := by
  simp only [← changesSetting_eq_ok_iff]
  refine escapes_mapError_told fun e' h => ?_
  unfold changesSetting at h
  dsimp only at h
  split at h
  · cases h
  · obtain rfl := Except.error.inj h
    rfl

theorem accepts_failOn_iff (characters : CharacterNames) {v : Value} :
    Setting.failOn.Accepts characters v ↔ ∃ l?, failOnSetting v = .ok l? := by
  simp only [failOnSetting_eq_ok_iff]
  constructor
  · rintro (h | ⟨l, h⟩)
    · exact ⟨none, h⟩
    · exact ⟨some l, h⟩
  · rintro ⟨_ | l, h⟩
    · exact Or.inl h
    · exact Or.inr ⟨l, h⟩

theorem escapes_failOnSetting {v : Value} :
    Escapes ((failOnSetting v).mapError (Told platform es)) e ↔
      ¬Setting.failOn.Accepts platform.characters v ∧ TableTellsFault platform es e := by
  rw [accepts_failOn_iff platform.characters]
  refine escapes_mapError_told fun e' h => ?_
  unfold failOnSetting at h
  split at h
  · cases h
  · split at h
    · cases h
    · obtain rfl := Except.error.inj h
      rfl
  · obtain rfl := Except.error.inj h
    rfl

/-- A comment pattern that can not be read is refused as a value, but for one that repeats too
often. -/
theorem escapes_patternSetting {v : Value} :
    Escapes ((patternSetting v platform.characters).mapError (Told platform es)) e ↔
      ∃ source f, v = .text source ∧ Pattern.compile source platform.characters = .error f
        ∧ (f.cause.rank = .size ∧ e = .badPattern source f
          ∨ f.cause.rank ≠ .size ∧ TableTellsFault platform es e) := by
  cases v with
  | text source =>
      rw [patternSetting]
      cases hcompile : Pattern.compile source platform.characters with
      | ok p => exact iff_of_false (not_escapes_ok p) (by simp [hcompile])
      | error f =>
          have hfault : ∀ p : String → PatternFault → Prop,
              (∃ source' f', Value.text source = .text source'
                ∧ Pattern.compile source' platform.characters = .error f' ∧ p source' f') ↔
                p source f := by
            simp [hcompile]
          rw [hfault]
          have hvalue : ∀ e' : Error,
              Told platform es e' =
                .invalidSetting "config" (.table es) e'.message platform.tableRoom →
                (Escapes ((.error e' : Outcome Pattern).mapError (Told platform es)) e ↔
                  TableTellsFault platform es e) := by
            intro e' he'
            rw [Except.mapError, he', escapes_invalidSetting, TableTellsFault]
          cases hrank : f.cause.rank with
          | size =>
              have htold : Told platform es (.badPattern source f) = .badPattern source f := by
                simp only [Told, Error.ofMerged, hrank]
              simp only [Except.mapError, throw_eq_error, hrank, htold, true_and, ne_eq, not_true,
                false_and, or_false]
              constructor
              · exact fun h => (Except.error.inj h.1).symm
              · rintro rfl
                exact ⟨rfl, id⟩
          | pattern =>
              simp only [hrank]
              exact (hvalue _ rfl).trans (by simp)
          | value =>
              simp only [hrank]
              exact (hvalue _ (by simp only [Told, Error.ofMerged, hrank])).trans (by simp)
  | _ =>
      refine iff_of_false (not_escapes_of_isConfiguration (isConfiguration_configuration _)) ?_
      simp

/-- Whether the first number that is refused stands for values too deep within each other. -/
def Entries.RefusesNested (platform : Platform) (es : Entries) : Prop :=
  RefusedNested platform.numberRoom (Setting.medium.valueIn es)
    ∨ Setting.medium.Accepts platform.characters (Setting.medium.valueIn es)
      ∧ RefusedNested platform.numberRoom (Setting.high.valueIn es)

/-- Two numbers and two more values are checked one after another, which is as good as at once. -/
theorem checks_iff {medium high changes failOn nested nested' inner table rest : Prop}
    (hnested : nested → ¬medium) (hnested' : nested' → ¬high) :
    ((nested ∧ inner ∨ ¬nested ∧ ¬medium ∧ table)
        ∨ medium ∧ ((nested' ∧ inner ∨ ¬nested' ∧ ¬high ∧ table)
          ∨ high ∧ (¬changes ∧ table ∨ changes ∧ (¬failOn ∧ table ∨ failOn ∧ rest)))) ↔
      (nested ∨ medium ∧ nested') ∧ inner
        ∨ ¬(nested ∨ medium ∧ nested') ∧ ¬(medium ∧ high ∧ changes ∧ failOn) ∧ table
        ∨ (medium ∧ high ∧ changes ∧ failOn) ∧ rest := by
  by_cases hmedium : medium
  · have hnot : ¬nested := fun h => hnested h hmedium
    by_cases hhigh : high
    · have hnot' : ¬nested' := fun h => hnested' h hhigh
      by_cases hchanges : changes <;> simp [hmedium, hhigh, hnot, hnot', hchanges]
    · simp [hmedium, hhigh, hnot]
  · simp [hmedium]

/-- Checking settings lets out an error when a value is refused and that can not be told, or when
all is well but the comment pattern repeats too often. -/
theorem escapes_ofEntries :
    Escapes ((Settings.ofEntries es platform).mapError (Told platform es)) e ↔
      (∀ n ∈ es.names, ∃ st : Setting, st.name = n)
        ∧ (es.RefusesNested platform ∧ e = .tooNested
          ∨ ¬es.RefusesNested platform
            ∧ (∃ st : Setting, st ≠ .commentPattern
              ∧ ¬st.Accepts platform.characters (st.valueIn es))
            ∧ TableTellsFault platform es e
          ∨ (∀ st : Setting, st ≠ .commentPattern →
              st.Accepts platform.characters (st.valueIn es))
            ∧ Escapes ((patternSetting (Setting.commentPattern.valueIn es)
                platform.characters).mapError (Told platform es)) e) := by
  have hpure : ∀ c : Settings,
      ¬Escapes ((pure c : Outcome Settings).mapError (Told platform es)) e :=
    fun c => not_escapes_ok c
  have hall : (∀ st : Setting, st ≠ .commentPattern →
        st.Accepts platform.characters (st.valueIn es)) ↔
      (∃ n, Setting.medium.valueIn es = Settings.numberValue n)
        ∧ (∃ n, Setting.high.valueIn es = Settings.numberValue n)
        ∧ (∃ i : Include, Setting.changes.valueIn es = .text i.name)
        ∧ Setting.failOn.Accepts platform.characters (Setting.failOn.valueIn es) := by
    constructor
    · exact fun h => ⟨h .medium nofun, h .high nofun, h .changes nofun, h .failOn nofun⟩
    · rintro ⟨hmedium, hhigh, hchanges, hfailOn⟩ st hst
      cases st with
      | medium => exact hmedium
      | high => exact hhigh
      | changes => exact hchanges
      | failOn => exact hfailOn
      | commentPattern => exact absurd rfl hst
      | filterComments | verbose | lines => trivial
  have hsome : (∃ st : Setting, st ≠ .commentPattern
        ∧ ¬st.Accepts platform.characters (st.valueIn es)) ↔
      ¬∀ st : Setting, st ≠ .commentPattern →
        st.Accepts platform.characters (st.valueIn es) := by
    simp only [not_forall, exists_prop]
  have hmedium : Setting.medium.Accepts platform.characters (Setting.medium.valueIn es) ↔
      ∃ n, Setting.medium.valueIn es = Settings.numberValue n := Iff.rfl
  -- what a check gives does not matter to whether a later one lets an error out
  simp only [Settings.ofEntries, mapError_bind, escapes_bind, mapError_eq_ok_iff,
    not_escapes_checkSettingNames, checkSettingNames_eq_ok_iff, numberSetting_eq_ok_iff,
    escapes_numberSetting, escapes_changesSetting, escapes_failOnSetting, changesSetting_eq_ok_iff,
    hpure, and_false, exists_false, or_false, false_or, exists_and_right, exists_const,
    ← accepts_failOn_iff platform.characters]
  rw [hsome, hall, Entries.RefusesNested, hmedium]
  exact and_congr_right fun _ => checks_iff (fun h => h.1) fun h => h.1

end Checks

/-! ## The layers -/

namespace SettingsSources

variable {s : SettingsSources}

/-- Whether the first number that is refused stands for values too deep within each other. -/
def RefusesNested (s : SettingsSources) : Prop :=
  RefusedNested s.platform.numberRoom (s.effective .medium)
    ∨ Setting.medium.Accepts s.platform.characters (s.effective .medium)
      ∧ RefusedNested s.platform.numberRoom (s.effective .high)

/-- Whether it is told that all values together can not be written. -/
def TellsFault (s : SettingsSources) (e : Error) : Prop :=
  ∃ es, s.merged = .ok es ∧ TableTellsFault s.platform es e

/-- The errors that escape from loading settings. -/
inductive LetsOut (s : SettingsSources) : Error → Prop
  /-- One escapes from the file of the user. -/
  | global {e : Error} (h : s.global.LetsOut s.platform.fileRoom e) : LetsOut s e
  /-- One escapes from the file of the project. -/
  | project {e : Error} (hglobal : s.global.Readable)
      (h : s.project.LetsOut s.platform.fileRoom e) : LetsOut s e
  /-- One escapes from the file that is named. -/
  | named {e : Error} {f : SettingsFile} (hglobal : s.global.Readable)
      (hproject : s.project.Readable) (hf : f ∈ s.named)
      (h : f.LetsOut s.platform.fileRoom e) : LetsOut s e
  /-- A number is refused, and stands for values too deep within each other. -/
  | nested (hreadable : s.Readable) (hnames : s.NamesSettings) (hnested : s.RefusesNested) :
      LetsOut s .tooNested
  /-- A value is refused, and not all values can be written. -/
  | value {e : Error} {st : Setting} (hnames : s.NamesSettings) (hflat : ¬s.RefusesNested)
      (hst : st ≠ .commentPattern)
      (hrefused : ¬st.Accepts s.platform.characters (s.effective st)) (htold : s.TellsFault e) :
      LetsOut s e
  /-- The comment pattern is refused as a value, and not all values can be written. -/
  | pattern {e : Error} {source : String} {f : PatternFault} (hnames : s.NamesSettings)
      (hothers : ∀ st : Setting, st ≠ .commentPattern →
        st.Accepts s.platform.characters (s.effective st))
      (hsource : s.effective .commentPattern = .text source)
      (hcompile : Pattern.compile source s.platform.characters = .error f)
      (hrank : f.cause.rank ≠ .size) (htold : s.TellsFault e) : LetsOut s e
  /-- The comment pattern repeats too often, which is the only thing that is wrong. -/
  | repeats {source : String} {f : PatternFault} (hreadable : s.Readable)
      (hnames : s.NamesSettings)
      (hothers : ∀ st : Setting, st ≠ .commentPattern →
        st.Accepts s.platform.characters (s.effective st))
      (hsource : s.effective .commentPattern = .text source)
      (hcompile : Pattern.compile source s.platform.characters = .error f)
      (hrank : f.cause.rank = .size) : LetsOut s (.badPattern source f)

theorem escapes_named {room : Nat} :
    Escapes (s.named.elim (.ok []) (·.entriesOfNamed room)) e ↔
      ∃ f ∈ s.named, f.LetsOut room e := by
  cases s.named with
  | none => exact iff_of_false (not_escapes_ok []) (by simp)
  | some f => simp [SettingsFile.escapes_entriesOfNamed]

theorem escapes_merged :
    Escapes s.merged e ↔
      s.global.LetsOut s.platform.fileRoom e ∨ s.global.Readable
        ∧ (s.project.LetsOut s.platform.fileRoom e ∨ s.project.Readable
          ∧ ∃ f ∈ s.named, f.LetsOut s.platform.fileRoom e) := by
  simp only [merged, layers_eq, escapes_bind, SettingsFile.escapes_entriesIfAny, escapes_named,
    not_escapes_environmentEntries, pure_eq_ok, not_escapes_ok, and_false, exists_false, or_false,
    exists_and_right, SettingsFile.exists_entriesIfAny_eq_ok_iff]

theorem load_eq (s : SettingsSources) :
    s.load =
      s.merged >>= fun es => (Settings.ofEntries es s.platform).mapError (Told s.platform es) := by
  rw [load]
  refine bind_congr fun es => ?_
  cases Settings.ofEntries es s.platform <;> rfl

/-- What escapes from the checks, when all layers can be read. -/
theorem escapes_ofEntries_merged {es : Entries} (h : s.merged = .ok es) :
    Escapes ((Settings.ofEntries es s.platform).mapError (Told s.platform es)) e ↔
      s.NamesSettings
        ∧ (s.RefusesNested ∧ e = .tooNested
          ∨ ¬s.RefusesNested
            ∧ (∃ st : Setting, st ≠ .commentPattern
              ∧ ¬st.Accepts s.platform.characters (s.effective st))
            ∧ s.TellsFault e
          ∨ (∀ st : Setting, st ≠ .commentPattern →
              st.Accepts s.platform.characters (s.effective st))
            ∧ ∃ source f, s.effective .commentPattern = .text source
              ∧ Pattern.compile source s.platform.characters = .error f
              ∧ (f.cause.rank = .size ∧ e = .badPattern source f
                ∨ f.cause.rank ≠ .size ∧ s.TellsFault e)) := by
  have htold : TableTellsFault s.platform es e ↔ s.TellsFault e := by
    simp only [TellsFault, h, Except.ok.injEq, exists_eq_left']
  rw [escapes_ofEntries, (shows_merged h).2.names]
  simp only [escapes_patternSetting, Entries.RefusesNested, RefusesNested, valueIn_merged h, htold]

theorem load_escapes (s : SettingsSources) (e : Error) : Escapes s.load e ↔ s.LetsOut e := by
  rw [load_eq, escapes_bind, escapes_merged]
  constructor
  · rintro ((h | ⟨hglobal, h | ⟨hproject, f, hf, h⟩⟩) | ⟨es, hes, h⟩)
    · exact .global h
    · exact .project hglobal h
    · exact .named hglobal hproject hf h
    · have hs : s.Readable := exists_merged_eq_ok_iff.mp ⟨es, hes⟩
      obtain ⟨hnames, ⟨hnested, rfl⟩ | ⟨hflat, ⟨st, hst, hrefused⟩, htold⟩ |
        ⟨hothers, source, f, hsource, hcompile, hrank⟩⟩ := (escapes_ofEntries_merged hes).mp h
      · exact .nested hs hnames hnested
      · exact .value hnames hflat hst hrefused htold
      · rcases hrank with ⟨hrank, rfl⟩ | ⟨hrank, htold⟩
        · exact .repeats hs hnames hothers hsource hcompile hrank
        · exact .pattern hnames hothers hsource hcompile hrank htold
  · intro h
    cases h with
    | global h => exact Or.inl (Or.inl h)
    | project hglobal h => exact Or.inl (Or.inr ⟨hglobal, Or.inl h⟩)
    | named hglobal hproject hf h =>
        exact Or.inl (Or.inr ⟨hglobal, Or.inr ⟨hproject, _, hf, h⟩⟩)
    | nested hs hnames hnested =>
        obtain ⟨es, hes⟩ := exists_merged_eq_ok_iff.mpr hs
        exact Or.inr ⟨es, hes, (escapes_ofEntries_merged hes).mpr
          ⟨hnames, Or.inl ⟨hnested, rfl⟩⟩⟩
    | value hnames hflat hst hrefused htold =>
        obtain ⟨es, hes, -⟩ := id htold
        exact Or.inr ⟨es, hes, (escapes_ofEntries_merged hes).mpr
          ⟨hnames, Or.inr (Or.inl ⟨hflat, ⟨_, hst, hrefused⟩, htold⟩)⟩⟩
    | pattern hnames hothers hsource hcompile hrank htold =>
        obtain ⟨es, hes, -⟩ := id htold
        exact Or.inr ⟨es, hes, (escapes_ofEntries_merged hes).mpr
          ⟨hnames, Or.inr (Or.inr ⟨hothers, _, _, hsource, hcompile, Or.inr ⟨hrank, htold⟩⟩)⟩⟩
    | repeats hs hnames hothers hsource hcompile hrank =>
        obtain ⟨es, hes⟩ := exists_merged_eq_ok_iff.mpr hs
        exact Or.inr ⟨es, hes, (escapes_ofEntries_merged hes).mpr
          ⟨hnames, Or.inr (Or.inr ⟨hothers, _, _, hsource, hcompile, Or.inl ⟨hrank, rfl⟩⟩)⟩⟩

end SettingsSources

/-! ## Runs -/

namespace World

/-- A machine with nothing on it but one variable. -/
def ofVariable (name value : String) : World where
  nodes := []
  home := []
  here := []
  environment := [(name, value)]
  input := .ok []
  process := .notStarted .missing
  timeStamp := ""
  printed := ""
  errors := ""
  commands := []

/-- What a command's settings can come from on a made-up machine. -/
def settingsSources (w : World) (i : Invocation) : SettingsSources :=
  ((w.host.settingsSources i.settingsFile i.overrides).run w).1

/-- The files that a command looks up for its settings, in order. -/
def settingsPaths (w : World) (i : Invocation) : List Path :=
  [w.host.home.join (.ofText ".indent-complexity.toml"),
    w.host.here.join (.ofText "indent-complexity.toml")] ++ i.settingsFile.toList

/-- Loading the settings looks up their files, and does nothing else. -/
theorem run_loadSettings (w : World) (i : Invocation) :
    (w.host.loadSettings i.settingsFile i.overrides).run w =
      ((w.settingsSources i).load, { w with reads := w.reads ++ w.settingsPaths i }) := by
  rw [settingsSources, settingsPaths, ← List.append_assoc, List.append_cons]
  cases i.settingsFile with
  | none => rw [Option.toList_none, List.append_nil]; rfl
  | some p => rfl

/-- A command without settings ends with the code for that, or with an error that nobody
expected. -/
theorem run_invoke_of_load_eq_error {w : World} {i : Invocation} {e : Error} (setup : LogSetup)
    (h : (w.settingsSources i).load = .error e) :
    ((w.host.invoke setup i).run w).1 =
      if e.isFault then .settingsError else .uncaught e := by
  cases e <;> rw [Host.invoke, StateT.run_bind, run_loadSettings, h] <;> rfl

end World

namespace SettingsSources

/-- No fault is let out: what escapes is an error of another kind. -/
theorem not_isFault_of_letsOut {s : SettingsSources} {e : Error} (h : s.LetsOut e) :
    e.isFault = false := by
  have hwriting : ∀ {fault?}, Nesting.TellsFault fault? e → e.isFault = false := by
    rintro fault? ⟨w, -, rfl⟩
    cases w <;> rfl
  have hfile : ∀ {f : SettingsFile} {room}, f.LetsOut room e → e.isFault = false := by
    rintro f room (⟨_, -, -, rfl⟩ | ⟨_, -, htold⟩)
    · rfl
    · exact hwriting htold
  cases h with
  | global h => exact hfile h
  | project _ h => exact hfile h
  | named _ _ _ h => exact hfile h
  | nested | repeats => rfl
  | value _ _ _ _ htold =>
      obtain ⟨_, -, htold⟩ := htold
      exact hwriting htold
  | pattern _ _ _ _ _ htold =>
      obtain ⟨_, -, htold⟩ := htold
      exact hwriting htold

/-- Loading settings lets out the errors that `LetsOut` says, and refuses all else with a fault of
the configuration; and a run without settings ends with the code for that, unless an error is let
out. -/
theorem load_escapes_iff (e : Error) :
    (∀ s : SettingsSources, s.load = .error e ∧ ¬e.IsConfiguration ↔ s.LetsOut e)
      ∧ ∀ (w : World) (setup : LogSetup) (i : Invocation),
          (w.settingsSources i).load = .error e →
            (w.settingsSources i).LetsOut e ∧ ((w.host.invoke setup i).run w).1 = .uncaught e
              ∨ ¬(w.settingsSources i).LetsOut e
                ∧ ((w.host.invoke setup i).run w).1 = .settingsError := by
  refine ⟨fun s => load_escapes s e, fun w setup i hload => ?_⟩
  rw [World.run_invoke_of_load_eq_error setup hload]
  by_cases hout : (w.settingsSources i).LetsOut e
  · rw [not_isFault_of_letsOut hout]
    exact Or.inl ⟨hout, rfl⟩
  · have hconfiguration : e.IsConfiguration := by
      by_contra hnot
      exact hout ((load_escapes _ e).mp ⟨hload, hnot⟩)
    rw [hconfiguration.isFault]
    exact Or.inr ⟨hout, rfl⟩

/-- A flag that is neither yes nor no is refused as it should be. -/
theorem load_escapes_iff_maybe :
    let w := World.ofVariable Setting.verbose.variableName "maybe"
    let i : Invocation := ⟨.files [inputSource], none, [], false, none⟩
    (∃ e, (w.settingsSources i).load = .error e)
      ∧ ((w.host.invoke (.of false false none) i).run w).1 = .settingsError := by
  intro w i
  obtain ⟨e, hload, hfault⟩ : ∃ e, (w.settingsSources i).load = .error e ∧ e.isFault = true :=
    exists_eq_error_of_match (by decide +kernel)
  refine ⟨⟨e, hload⟩, ?_⟩
  rcases (load_escapes_iff e).2 w (.of false false none) i hload with ⟨hout, -⟩ | ⟨-, hexit⟩
  · exact absurd hfault (by simp [not_isFault_of_letsOut hout])
  · exact hexit

/-- A comment pattern with a count that is too large is refused with an error that is no fault of
the configuration, and nobody handles it. -/
theorem load_repeating_escapes :
    let w := World.ofVariable Setting.commentPattern.variableName "a\x7b4294967295\x7d"
    let i : Invocation := ⟨.files [inputSource], none, [], false, none⟩
    ∃ e, (w.settingsSources i).load = .error e ∧ ¬e.IsConfiguration
      ∧ ((w.host.invoke (.of false false none) i).run w).1 = .uncaught e := by
  intro w i
  obtain ⟨e, hload, hother⟩ : ∃ e, (w.settingsSources i).load = .error e ∧ (!e.isFault) = true :=
    exists_eq_error_of_match (by decide +kernel)
  rw [Bool.not_eq_true'] at hother
  refine ⟨e, hload, fun hconfiguration => ?_, ?_⟩
  · rw [hconfiguration.isFault] at hother
    cases hother
  · rw [World.run_invoke_of_load_eq_error _ hload, hother]
    rfl

end SettingsSources

end Nesting
