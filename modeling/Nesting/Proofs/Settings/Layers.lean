import Nesting.Proofs.Settings.Checks
import Nesting.Proofs.Settings.Written

/-!
# What the layers give together

Settings can be given by five layers, and each setting has its value from the last layer that gives
one, or else its default: `SettingsSources.effective`. This holds setting by setting. The merge is
done on whole tables, and what a file gives in its table of thresholds is moved to the top level
before; so a layer is looked at through two things only, the value it gives last for each setting
and whether it names settings only (`Entries.Shows`), and each layer and then the merge is shown to
show what its source gives.

`SettingsSources.load_effective` is the result: when there are settings, and which.
-/

namespace Nesting

/-- What is seen of a table: the values it gives for settings, and whether it gives nothing else. -/
structure Entries.Shows (es : Entries) (given? : Setting → Option Value) (namesSettings : Prop) :
    Prop where
  last : ∀ st : Setting, es.last? st.name = given? st
  names : (∀ n ∈ es.names, ∃ st : Setting, st.name = n) ↔ namesSettings

theorem Entries.shows_nil (given? : Setting → Option Value) (h : ∀ st, given? st = none)
    {p : Prop} (hp : p) : Entries.Shows [] given? p :=
  ⟨fun st => (h st).symm, iff_of_true (fun _ hn => (List.not_mem_nil hn).elim) hp⟩

/-! ## Thresholds of a file -/

/-- The name of a setting in the table of thresholds. -/
def Setting.thresholdName? : Setting → Option String
  | medium => some Level.medium.name
  | high => some Level.high.name
  | _ => none

/-- Whether a name is that of a level that has a threshold. -/
def IsThresholdName (n : String) : Prop :=
  n = Level.medium.name ∨ n = Level.high.name

namespace Entries

/-- The table of thresholds, which is empty if there is none. -/
def thresholds (es : Entries) : Entries :=
  match es.get? thresholdsName with
  | some (.table ts) => ts
  | _ => []

/-- Whether all names of a table are those of levels that have a threshold. -/
def NamesThresholds (ts : Entries) : Prop :=
  ∀ n ∈ ts.names, IsThresholdName n

/-- Whether the thresholds of a file, if any, are a table of them. -/
def HasThresholdTable (es : Entries) : Prop :=
  ∀ v, es.get? thresholdsName = some v → ∃ ts : Entries, v = .table ts ∧ ts.NamesThresholds

/-- Whether a file names settings only, and the table of thresholds. -/
def NamesSettings (es : Entries) : Prop :=
  ∀ n ∈ es.names, n ≠ thresholdsName → ∃ st : Setting, st.name = n

/-- Thresholds under the names of their settings. -/
def underSettings (ts : Entries) : Entries :=
  ts.map fun e => (e.1 ++ "_threshold", e.2)

end Entries

/-- What a file gives for a setting, in its table of thresholds before all. -/
def Setting.inFile? (st : Setting) (es : Entries) : Option Value :=
  (st.thresholdName?.bind es.thresholds.last?).or (es.get? st.name)

variable {room : Nat}

theorem putThresholds_cons {e : String × Value} (he : IsThresholdName e.1) (ts es : Entries) :
    putThresholds room (e :: ts) es = putThresholds room ts (es.put (e.1 ++ "_threshold") e.2) := by
  obtain ⟨n, v⟩ := e
  rcases he with rfl | rfl <;> rfl

theorem putThresholds_cons_of_not {e : String × Value} (he : ¬IsThresholdName e.1)
    (ts es : Entries) :
    putThresholds room (e :: ts) es =
      .error (.invalidSetting (thresholdsName ++ "." ++ e.1) e.2 "unknown threshold" room) := by
  have hnone : [Level.medium, Level.high].find? (·.name == e.1) = none := by
    refine List.find?_eq_none.mpr fun l hl heq => he ?_
    rcases List.mem_pair.mp hl with rfl | rfl
    · exact Or.inl (beq_iff_eq.mp heq).symm
    · exact Or.inr (beq_iff_eq.mp heq).symm
  rw [putThresholds, hnone]
  rfl

theorem putThresholds_eq_ok_iff {ts es es' : Entries} :
    putThresholds room ts es = .ok es' ↔ ts.NamesThresholds ∧ es' = es.putAll ts.underSettings := by
  induction ts generalizing es with
  | nil =>
      constructor
      · exact fun h => ⟨fun _ hn => (List.not_mem_nil hn).elim, (Except.ok.inj h).symm⟩
      · exact fun h => congrArg Except.ok h.2.symm
  | cons e ts ih =>
      have hcons : Entries.NamesThresholds (e :: ts) ↔
          IsThresholdName e.1 ∧ Entries.NamesThresholds ts := List.forall_mem_cons
      rw [hcons]
      by_cases he : IsThresholdName e.1
      · rw [putThresholds_cons he, ih, and_iff_right he]
        rfl
      · rw [putThresholds_cons_of_not he]
        exact iff_of_false (fun h => (nomatch h)) fun h => he h.1.1

theorem last?_underSettings {ts : Entries} (h : ts.NamesThresholds) (st : Setting) :
    ts.underSettings.last? st.name = st.thresholdName?.bind ts.last? := by
  induction ts with
  | nil => cases st <;> rfl
  | cons e ts ih =>
      obtain ⟨he, hts⟩ := List.forall_mem_cons.mp h
      have hone : (if e.1 ++ "_threshold" = st.name then some e.2 else none) =
          st.thresholdName?.bind fun n => if e.1 = n then some e.2 else none := by
        rcases he with he | he <;> dsimp only at he <;> rw [he] <;> cases st <;> rfl
      rw [Entries.underSettings, List.map_cons, Entries.last?_cons]
      dsimp only
      rw [hone]
      refine (congrArg (Option.or · _) (ih hts)).trans ?_
      cases st <;> simp [Setting.thresholdName?, Entries.last?_cons]

theorem names_underSettings {ts : Entries} (h : ts.NamesThresholds) :
    ∀ n ∈ ts.underSettings.names, ∃ st : Setting, st.name = n := by
  intro n hn
  simp only [Entries.underSettings, Named.names, List.map_map, List.mem_map] at hn
  obtain ⟨e, he, rfl⟩ := hn
  rcases h e.1 (List.mem_map_of_mem he) with h | h
  · exact ⟨.medium, by rw [Function.comp, h]; rfl⟩
  · exact ⟨.high, by rw [Function.comp, h]; rfl⟩

theorem Setting.name_ne_thresholdsName (st : Setting) : st.name ≠ thresholdsName := by
  cases st <;> decide

theorem flattenThresholds_eq_ok_iff {path : Path} {es es' : Entries} :
    flattenThresholds room path es = .ok es' ↔
      es.HasThresholdTable
        ∧ es' = Entries.putAll (es.erase thresholdsName) es.thresholds.underSettings := by
  rw [flattenThresholds, Entries.HasThresholdTable, Entries.thresholds]
  cases hget : es.get? thresholdsName with
  | none =>
      have herase : es.erase thresholdsName = es := by
        refine List.filter_eq_self.mpr fun e he => bne_iff_ne.mpr fun heq => ?_
        exact Entries.get?_eq_none_iff.mp hget (heq ▸ List.mem_map_of_mem he)
      simp [herase, Entries.underSettings, eq_comm]
  | some v =>
      cases v with
      | table ts => simp [putThresholds_eq_ok_iff]
      | _ => simp

/-- What is left of a file whose table of thresholds is taken apart. -/
theorem shows_flattenThresholds {es : Entries} (hnodup : es.names.Nodup)
    (h : es.HasThresholdTable) :
    Entries.Shows (Entries.putAll (es.erase thresholdsName) es.thresholds.underSettings)
      (fun st => st.inFile? es) es.NamesSettings := by
  have hts : es.thresholds.NamesThresholds := by
    rw [Entries.thresholds]
    split
    · next ts hget =>
        obtain ⟨ts', htable, hts⟩ := h _ hget
        cases htable
        exact hts
    · exact fun _ hn => (List.not_mem_nil hn).elim
  constructor
  · intro st
    rw [Entries.last?_eq_get? (Entries.nodup_names_putAll (Entries.nodup_names_erase hnodup _) _),
      Entries.get?_putAll, last?_underSettings hts,
      Entries.get?_erase_of_ne st.name_ne_thresholdsName]
    rfl
  · constructor
    · intro hnames n hn hne
      exact hnames n (Entries.mem_names_putAll.mpr (Or.inr (Entries.mem_names_erase.mpr ⟨hn, hne⟩)))
    · intro hnames n hn
      rcases Entries.mem_names_putAll.mp hn with hn | hn
      · exact names_underSettings hts n hn
      · exact hnames n (Entries.mem_names_erase.mp hn).1 (Entries.mem_names_erase.mp hn).2

/-! ## Files -/

namespace SettingsFile

/-- Whether there is a file. -/
def IsThere (f : SettingsFile) : Prop :=
  f.status = .ok ()

/-- Whether it is known that there is no file. -/
def IsAbsent (f : SettingsFile) : Prop :=
  ∃ fault, f.status = .error fault ∧ fault.isAbsence = true

/-- What a file gives, which is nothing if there is no file. -/
def given (f : SettingsFile) : Entries :=
  match f.status with
  | .ok () => f.held?.getD []
  | .error _ => []

/-- Whether there is no file, or one that can be read. -/
def Readable (f : SettingsFile) : Prop :=
  f.IsAbsent ∨ f.IsThere ∧ ∃ es, f.held? = some es ∧ es.HasThresholdTable

variable {f : SettingsFile} {es : Entries}

theorem not_isAbsent_of_isThere (h : f.IsThere) : ¬f.IsAbsent := by
  rintro ⟨fault, hfault, -⟩
  cases hfault.symm.trans h

theorem given_of_isThere (h : f.IsThere) : f.given = f.held?.getD [] := by
  rw [given, h]

theorem given_of_isAbsent (h : f.IsAbsent) : f.given = [] := by
  obtain ⟨fault, hfault, -⟩ := h
  rw [given, hfault]

/-- A file holds what is plainly written in it. -/
theorem held?_of_plain {d : PlainFile} (h : d.IsPlain)
    (hcontent : f.content = .ok (encodeText d.text)) : f.held? = some d.contents := by
  simp only [held?, hcontent, Except.toOption, decodeStrict_encodeText, PlainFile.parseToml_text h,
    Option.bind_eq_bind, Option.bind_some]

theorem lookUp_eq_ok_iff {isThere : Bool} :
    f.lookUp = .ok isThere ↔
      isThere = true ∧ f.IsThere ∨ isThere = false ∧ f.IsAbsent := by
  unfold lookUp IsThere IsAbsent
  cases f.status with
  | ok => cases isThere <;> simp
  | error fault => cases hfault : fault.isAbsence <;> cases isThere <;> simp [hfault]

theorem entries_eq_ok_iff {es' : Entries} :
    f.entries room = .ok es' ↔
      ∃ es, f.held? = some es ∧ es.HasThresholdTable
        ∧ es' = Entries.putAll (es.erase thresholdsName) es.thresholds.underSettings := by
  simp only [entries, ← document_eq_ok_iff]
  cases f.document with
  | ok es => simp [flattenThresholds_eq_ok_iff]
  | error message => simp

/-- What is done with a file that is looked for: `absent` if it is not there, else its entries. -/
theorem lookUp_bind_eq_ok_iff {absent : Outcome Entries} :
    (f.lookUp >>= fun isThere => if isThere then f.entries room else absent) = .ok es ↔
      f.IsAbsent ∧ absent = .ok es ∨ f.IsThere ∧ f.entries room = .ok es := by
  simp only [bind_eq_ok_iff, lookUp_eq_ok_iff]
  constructor
  · rintro ⟨_, ⟨rfl, h⟩ | ⟨rfl, h⟩, hes⟩
    · exact Or.inr ⟨h, hes⟩
    · exact Or.inl ⟨h, hes⟩
  · rintro (⟨h, hes⟩ | ⟨h, hes⟩)
    · exact ⟨false, Or.inr ⟨rfl, h⟩, hes⟩
    · exact ⟨true, Or.inl ⟨rfl, h⟩, hes⟩

theorem entriesIfAny_eq_ok_iff :
    f.entriesIfAny room = .ok es ↔
      f.IsAbsent ∧ es = [] ∨ f.IsThere ∧ f.entries room = .ok es := by
  rw [entriesIfAny, lookUp_bind_eq_ok_iff, pure_eq_ok, Except.ok.injEq, eq_comm (a := [])]

theorem entriesOfNamed_eq_ok_iff :
    f.entriesOfNamed room = .ok es ↔ f.IsThere ∧ f.entries room = .ok es := by
  rw [entriesOfNamed, lookUp_bind_eq_ok_iff]
  simp

theorem shows_entries {es' : Entries} (hthere : f.IsThere) (h : f.entries room = .ok es') :
    es'.Shows (fun st => st.inFile? f.given) f.given.NamesSettings := by
  obtain ⟨es, hheld, htable, rfl⟩ := entries_eq_ok_iff.mp h
  have hgiven : f.given = es := by rw [given_of_isThere hthere, hheld, Option.getD_some]
  rw [hgiven]
  exact shows_flattenThresholds (nodup_of_held? hheld) htable

theorem exists_entries_eq_ok_iff (hthere : f.IsThere) :
    (∃ es, f.entries room = .ok es) ↔ f.Readable := by
  simp [entries_eq_ok_iff, Readable, hthere, not_isAbsent_of_isThere hthere]

theorem shows_entriesIfAny (h : f.entriesIfAny room = .ok es) :
    es.Shows (fun st => st.inFile? f.given) f.given.NamesSettings := by
  rcases entriesIfAny_eq_ok_iff.mp h with ⟨habsent, rfl⟩ | ⟨hthere, h⟩
  · rw [given_of_isAbsent habsent]
    exact Entries.shows_nil _ (fun st => by cases st <;> rfl) fun _ hn =>
      (List.not_mem_nil hn).elim
  · exact shows_entries hthere h

theorem exists_entriesIfAny_eq_ok_iff :
    (∃ es, f.entriesIfAny room = .ok es) ↔ f.Readable := by
  simp only [entriesIfAny_eq_ok_iff]
  constructor
  · rintro ⟨es, ⟨habsent, -⟩ | ⟨hthere, h⟩⟩
    · exact Or.inl habsent
    · exact (exists_entries_eq_ok_iff hthere).mp ⟨es, h⟩
  · rintro (habsent | ⟨hthere, hheld⟩)
    · exact ⟨[], Or.inl ⟨habsent, rfl⟩⟩
    · obtain ⟨es, hes⟩ := (exists_entries_eq_ok_iff hthere).mpr (Or.inr ⟨hthere, hheld⟩)
      exact ⟨es, Or.inr ⟨hthere, hes⟩⟩

end SettingsFile

/-! ## The environment -/

/-- The words for yes, and those for no. -/
def yesWords : List String := ["true", "1", "yes", "on"]

def noWords : List String := ["false", "0", "no", "off"]

/-- What the text of a variable means: a text is taken as it is, a number is read as one, and a flag
is a word for yes or for no, in small or capital letters. -/
def SettingKind.meaning? (raw : String) : SettingKind → Option Value
  | text => some (.text raw)
  | number => (readFloat? raw).map .float
  | flag =>
    if raw.map Char.toLower ∈ yesWords then some (.bool true)
    else if raw.map Char.toLower ∈ noWords then some (.bool false)
    else none

theorem word_mem_of_mem_flagWords {e : String × Bool} (h : e ∈ flagWords) :
    e.1 ∈ yesWords ∨ e.1 ∈ noWords := by
  revert e
  decide

theorem toOption_read (kind : SettingKind) (raw : String) :
    (kind.read raw).toOption = kind.meaning? raw := by
  cases kind with
  | text => rfl
  | number =>
      rw [SettingKind.read, SettingKind.meaning?]
      cases readFloat? raw <;> rfl
  | flag =>
      rw [SettingKind.read, SettingKind.meaning?]
      generalize raw.map Char.toLower = word
      by_cases hyes : word ∈ yesWords
      · rw [if_pos hyes]
        simp only [yesWords, List.mem_cons, List.not_mem_nil, or_false] at hyes
        rcases hyes with rfl | rfl | rfl | rfl <;> rfl
      by_cases hno : word ∈ noWords
      · rw [if_neg hyes, if_pos hno]
        simp only [noWords, List.mem_cons, List.not_mem_nil, or_false] at hno
        rcases hno with rfl | rfl | rfl | rfl <;> rfl
      have hnone : flagWords.find? (·.1 == word) = none := by
        refine List.find?_eq_none.mpr fun e he heq => ?_
        rcases word_mem_of_mem_flagWords he with h | h
        · exact hyes (beq_iff_eq.mp heq ▸ h)
        · exact hno (beq_iff_eq.mp heq ▸ h)
      rw [hnone, if_neg hyes, if_neg hno]
      rfl

/-- What the environment gives for a setting. -/
def Setting.inEnvironment? (environment : String → Option String) (st : Setting) :
    Option Value :=
  (environment st.variableName).bind st.kind.meaning?

/-- Whether all variables that are set can be read. -/
def ReadableEnvironment (environment : String → Option String) : Prop :=
  ∀ (st : Setting) (raw : String), environment st.variableName = some raw →
    ∃ v, st.kind.meaning? raw = some v

section Environment

variable {environment : String → Option String}

theorem ofEnvironment_eq_ok_iff {st : Setting} {es : Entries} :
    st.ofEnvironment environment = .ok es ↔
      (∀ raw, environment st.variableName = some raw → ∃ v, st.kind.meaning? raw = some v)
        ∧ es = ((st.inEnvironment? environment).map (st.name, ·)).toList := by
  rw [Setting.ofEnvironment, Setting.inEnvironment?]
  cases environment st.variableName with
  | none => simp [eq_comm]
  | some raw =>
      have hmeaning := toOption_read st.kind raw
      cases hread : st.kind.read raw with
      | ok v => simp [← hmeaning, hread, Except.toOption, eq_comm]
      | error reason => simp [← hmeaning, hread, Except.toOption]

theorem last?_environment (sts : List Setting) (st : Setting) :
    Entries.last? (sts.flatMap fun st' =>
        ((st'.inEnvironment? environment).map (st'.name, ·)).toList) st.name =
      if st ∈ sts then st.inEnvironment? environment else none := by
  induction sts with
  | nil => rfl
  | cons st' sts ih =>
      have hname : st'.name = st.name ↔ st = st' :=
        ⟨fun h => by revert h; cases st <;> cases st' <;> decide, fun h => h ▸ rfl⟩
      have hone : Entries.last? ((st'.inEnvironment? environment).map (st'.name, ·)).toList
          st.name = if st = st' then st.inEnvironment? environment else none := by
        by_cases h : st = st'
        · subst h
          rw [if_pos rfl]
          cases st.inEnvironment? environment <;> simp [Entries.last?_cons]
        · rw [if_neg h]
          cases st'.inEnvironment? environment <;> simp [Entries.last?_cons, hname, h]
      rw [List.flatMap_cons, Entries.last?_append, ih, hone]
      by_cases h : st = st'
      · subst h
        by_cases hmem : st ∈ sts <;> simp [hmem]
      · simp [h]

theorem environmentEntries_eq_ok_iff {es : Entries} :
    environmentEntries environment = .ok es ↔
      ReadableEnvironment environment
        ∧ es = Setting.all.flatMap fun st =>
            ((st.inEnvironment? environment).map (st.name, ·)).toList := by
  have hall : ∀ st : Setting, st ∈ Setting.all := fun st => by cases st <;> decide
  simp only [environmentEntries, bind_eq_ok_iff, mapM_eq_ok_iff, ofEnvironment_eq_ok_iff,
    List.forall₂_and_left, eq_comm (b := Option.toList _), ← List.forall₂_map_left_iff,
    List.forall₂_eq_eq_eq]
  constructor
  · rintro ⟨ess, ⟨hreadable, rfl⟩, h⟩
    exact ⟨fun st => hreadable st (hall st), (Except.ok.inj h).symm⟩
  · rintro ⟨hreadable, rfl⟩
    exact ⟨_, ⟨fun st _ => hreadable st, rfl⟩, rfl⟩

theorem shows_environmentEntries {es : Entries} (h : environmentEntries environment = .ok es) :
    es.Shows (Setting.inEnvironment? environment) True := by
  obtain ⟨-, rfl⟩ := environmentEntries_eq_ok_iff.mp h
  refine ⟨fun st => ?_, iff_of_true ?_ trivial⟩
  · rw [last?_environment, if_pos (by cases st <;> decide)]
  · intro n hn
    simp only [Named.names, List.mem_map, List.mem_flatMap, Option.mem_toList,
      Option.map_eq_some_iff] at hn
    obtain ⟨e, ⟨st, -, v, -, rfl⟩, rfl⟩ := hn
    exact ⟨st, rfl⟩

end Environment

/-! ## The merge -/

/-- Values that are put on others go before them. -/
theorem Entries.shows_putAll {es others : Entries} {given? given?' : Setting → Option Value}
    {p p' : Prop} (h : es.names.Nodup ∧ es.Shows given? p) (h' : others.Shows given?' p') :
    (es.putAll others).names.Nodup
      ∧ (es.putAll others).Shows (fun st => (given?' st).or (given? st)) (p ∧ p') := by
  obtain ⟨hnodup, hes⟩ := h
  have hnodup' := nodup_names_putAll hnodup others
  refine ⟨hnodup', fun st => ?_, ?_⟩
  · rw [last?_eq_get? hnodup', get?_putAll, ← last?_eq_get? hnodup, hes.last, h'.last]
  · rw [← hes.names, ← h'.names]
    constructor
    · intro hall
      exact ⟨fun n hn => hall n (mem_names_putAll.mpr (Or.inr hn)),
        fun n hn => hall n (mem_names_putAll.mpr (Or.inl hn))⟩
    · rintro ⟨hall, hall'⟩ n hn
      rcases mem_names_putAll.mp hn with hn | hn
      · exact hall' n hn
      · exact hall n hn

namespace SettingsSources

variable {s : SettingsSources}

/-- The overrides that are values. -/
def valued (s : SettingsSources) : Entries :=
  s.overrides.filter fun e => !e.2.isNull

/-- Whether all files and variables can be read, and the file that is named is there. -/
structure Readable (s : SettingsSources) : Prop where
  global : s.global.Readable
  project : s.project.Readable
  named : ∀ f ∈ s.named, f.IsThere ∧ f.Readable
  environment : ReadableEnvironment s.environment

/-- Whether no layer names what is no setting. The environment is asked for settings only. -/
structure NamesSettings (s : SettingsSources) : Prop where
  global : s.global.given.NamesSettings
  project : s.project.given.NamesSettings
  named : ∀ f ∈ s.named, f.given.NamesSettings
  overrides : ∀ n ∈ s.valued.names, ∃ st : Setting, st.name = n

/-- What is given for a setting, by the last layer that gives it. -/
def given? (s : SettingsSources) (st : Setting) : Option Value :=
  (s.valued.last? st.name)
    |>.or (st.inEnvironment? s.environment)
    |>.or (s.named.bind fun f => st.inFile? f.given)
    |>.or (st.inFile? s.project.given)
    |>.or (st.inFile? s.global.given)

/-- The value of a setting in all layers together. -/
def effective (s : SettingsSources) (st : Setting) : Value :=
  (s.given? st).getD st.default

/-- What the file gives that is named, if one is. -/
theorem shows_named {es : Entries}
    (h : s.named.elim (.ok []) (·.entriesOfNamed room) = .ok es) :
    es.Shows (fun st => s.named.bind fun f => st.inFile? f.given)
      (∀ f ∈ s.named, f.given.NamesSettings) := by
  cases hnamed : s.named with
  | none =>
      rw [hnamed] at h
      obtain rfl := Except.ok.inj h
      exact Entries.shows_nil _ (fun _ => rfl) nofun
  | some f =>
      rw [hnamed] at h
      obtain ⟨hthere, h⟩ := SettingsFile.entriesOfNamed_eq_ok_iff.mp h
      have hf := SettingsFile.shows_entries hthere h
      exact ⟨hf.last, hf.names.trans (by simp)⟩

theorem exists_named_eq_ok_iff :
    (∃ es, s.named.elim (.ok []) (·.entriesOfNamed room) = .ok es) ↔
      ∀ f ∈ s.named, f.IsThere ∧ f.Readable := by
  cases s.named with
  | none => exact iff_of_true ⟨[], rfl⟩ nofun
  | some f =>
      simp only [Option.elim_some, SettingsFile.entriesOfNamed_eq_ok_iff, exists_and_left,
        Option.mem_some_iff, forall_eq']
      exact and_congr_right SettingsFile.exists_entries_eq_ok_iff

theorem layers_eq (s : SettingsSources) :
    s.layers = do
      let global ← s.global.entriesIfAny s.platform.fileRoom
      let project ← s.project.entriesIfAny s.platform.fileRoom
      let named ← s.named.elim (.ok []) (·.entriesOfNamed s.platform.fileRoom)
      let environment ← environmentEntries s.environment
      return [global, project, named, environment, s.valued] := by
  rw [layers]
  cases s.named <;> rfl

theorem merged_eq_ok_iff {es : Entries} :
    s.merged = .ok es ↔ ∃ global project named environment : Entries,
      s.global.entriesIfAny s.platform.fileRoom = .ok global
        ∧ s.project.entriesIfAny s.platform.fileRoom = .ok project
        ∧ s.named.elim (.ok []) (·.entriesOfNamed s.platform.fileRoom) = .ok named
        ∧ environmentEntries s.environment = .ok environment
        ∧ es = ((((Entries.putAll [] global).putAll project).putAll named).putAll
            environment).putAll s.valued := by
  simp only [merged, layers_eq, bind_eq_ok_iff]
  constructor
  · rintro ⟨ls, ⟨global, hglobal, project, hproject, named, hnamed, environment, henvironment, hls⟩,
      hes⟩
    obtain rfl := Except.ok.inj hls
    exact ⟨global, project, named, environment, hglobal, hproject, hnamed, henvironment,
      (Except.ok.inj hes).symm⟩
  · rintro ⟨global, project, named, environment, hglobal, hproject, hnamed, henvironment, rfl⟩
    exact ⟨_, ⟨global, hglobal, project, hproject, named, hnamed, environment, henvironment, rfl⟩,
      rfl⟩

theorem exists_merged_eq_ok_iff : (∃ es, s.merged = .ok es) ↔ s.Readable := by
  simp only [merged_eq_ok_iff]
  constructor
  · rintro ⟨es, global, project, named, environment, hglobal, hproject, hnamed, henvironment, -⟩
    exact ⟨SettingsFile.exists_entriesIfAny_eq_ok_iff.mp ⟨_, hglobal⟩,
      SettingsFile.exists_entriesIfAny_eq_ok_iff.mp ⟨_, hproject⟩,
      exists_named_eq_ok_iff.mp ⟨_, hnamed⟩, (environmentEntries_eq_ok_iff.mp henvironment).1⟩
  · intro h
    obtain ⟨global, hglobal⟩ := SettingsFile.exists_entriesIfAny_eq_ok_iff.mpr h.global
    obtain ⟨project, hproject⟩ := SettingsFile.exists_entriesIfAny_eq_ok_iff.mpr h.project
    obtain ⟨named, hnamed⟩ := exists_named_eq_ok_iff.mpr h.named
    exact ⟨_, global, project, named, _, hglobal, hproject, hnamed,
      environmentEntries_eq_ok_iff.mpr ⟨h.environment, rfl⟩, rfl⟩

/-- The merge shows for each setting what the last layer gives for it. -/
theorem shows_merged {es : Entries} (h : s.merged = .ok es) :
    es.names.Nodup ∧ es.Shows s.given? s.NamesSettings := by
  obtain ⟨global, project, named, environment, hglobal, hproject, hnamed, henvironment, rfl⟩ :=
    merged_eq_ok_iff.mp h
  have hvalued : s.valued.Shows (fun st => s.valued.last? st.name)
      (∀ n ∈ s.valued.names, ∃ st : Setting, st.name = n) := ⟨fun _ => rfl, Iff.rfl⟩
  have hnil : Named.names ([] : Entries) |>.Nodup := List.nodup_nil
  obtain ⟨hnodup, hshows⟩ :=
    Entries.shows_putAll (Entries.shows_putAll (Entries.shows_putAll (Entries.shows_putAll
      (Entries.shows_putAll ⟨hnil, Entries.shows_nil (fun _ => none) (fun _ => rfl) trivial⟩
        (SettingsFile.shows_entriesIfAny hglobal))
      (SettingsFile.shows_entriesIfAny hproject)) (shows_named hnamed))
      (shows_environmentEntries henvironment)) hvalued
  refine ⟨hnodup, fun st => ?_, ?_⟩
  · rw [hshows.last]
    simp [given?, Option.or_assoc]
  · rw [hshows.names]
    exact ⟨fun ⟨⟨⟨⟨⟨_, hg⟩, hp⟩, hn⟩, _⟩, ho⟩ => ⟨hg, hp, hn, ho⟩,
      fun ⟨hg, hp, hn, ho⟩ => ⟨⟨⟨⟨⟨trivial, hg⟩, hp⟩, hn⟩, trivial⟩, ho⟩⟩

theorem load_eq_ok_iff {c : Settings} :
    s.load = .ok c ↔ ∃ es, s.merged = .ok es ∧ Settings.ofEntries es s.platform = .ok c := by
  simp only [load, bind_eq_ok_iff]
  refine exists_congr fun es => and_congr_right fun _ => ?_
  cases Settings.ofEntries es s.platform <;> simp

theorem valueIn_merged {es : Entries} (h : s.merged = .ok es) (st : Setting) :
    st.valueIn es = s.effective st := by
  obtain ⟨hnodup, hshows⟩ := shows_merged h
  rw [Setting.valueIn, ← Entries.last?_eq_get? hnodup, hshows.last]
  rfl

/-- There are settings just when all layers can be read, they name settings only, and the values
that they have together are accepted; and then each setting has that value. A file holds what is
plainly written in it. -/
theorem load_effective (s : SettingsSources) :
    ((∃ c, s.load = .ok c) ↔
      s.Readable ∧ s.NamesSettings
        ∧ ∀ st : Setting, st.Accepts s.platform.characters (s.effective st))
      ∧ (∀ c, s.load = .ok c → ∀ st : Setting, c.value st = s.effective st)
      ∧ ∀ (f : SettingsFile) (d : PlainFile), d.IsPlain → f.content = .ok (encodeText d.text) →
          f.held? = some d.contents := by
  have hchecked : ∀ {es}, s.merged = .ok es → ((∃ c, Settings.ofEntries es s.platform = .ok c) ↔
      s.NamesSettings ∧ ∀ st : Setting, st.Accepts s.platform.characters (s.effective st)) := by
    intro es hes
    simp only [Settings.exists_ofEntries_eq_ok_iff, (shows_merged hes).2.names,
      valueIn_merged hes]
  refine ⟨?_, fun c hc st => ?_, fun f d => SettingsFile.held?_of_plain⟩
  · rw [← exists_merged_eq_ok_iff]
    constructor
    · rintro ⟨c, hc⟩
      obtain ⟨es, hes, hc⟩ := load_eq_ok_iff.mp hc
      exact ⟨⟨es, hes⟩, (hchecked hes).mp ⟨c, hc⟩⟩
    · rintro ⟨⟨es, hes⟩, h⟩
      obtain ⟨c, hc⟩ := (hchecked hes).mpr h
      exact ⟨c, load_eq_ok_iff.mpr ⟨es, hes, hc⟩⟩
  · obtain ⟨es, hes, hc⟩ := load_eq_ok_iff.mp hc
    rw [(Settings.ofEntries_eq_ok_iff.mp hc).2.2 st, valueIn_merged hes]

/-- All five layers give something: a file of the user with a table of thresholds, a file of the
project, a file that is named, two variables, and a call. -/
theorem load_effective_layered :
    let file (d : PlainFile) : SettingsFile :=
      ⟨"config", .ofText "c", .ok (), .ok (encodeText d.text)⟩
    let s : SettingsSources := {
      global := file ⟨[("medium_threshold", .whole 2), ("verbose", .flag true)],
        [("thresholds", [("medium", .whole 3), ("high", .whole 9)])]⟩
      project := file ⟨[("include", .text "both".toList), ("fail_on", .text "medium".toList)], []⟩
      named := some (file ⟨[("fail_on", .text "high".toList)], []⟩)
      environment := fun name =>
        if name = "INDENT_COMPLEXITY_HIGH_THRESHOLD" then some "7.5"
        else if name = "INDENT_COMPLEXITY_VERBOSE" then some "Off"
        else none
      overrides := [("fail_on", .null), ("include_lines", .bool true)] }
    ∃ c, s.load = .ok c ∧ c.value .medium = .int 3
      ∧ c.value .high = .float (.ofBits 0x401e000000000000) ∧ c.value .failOn = .text "high"
      ∧ c.value .changes = .text "both" ∧ c.value .verbose = .bool false
      ∧ c.value .lines = .bool true ∧ c.value .filterComments = .bool true := by
  intro file s
  obtain ⟨c, hload⟩ : ∃ c, s.load = .ok c := exists_eq_ok_of_isSome (by decide +kernel)
  have hvalue := (load_effective s).2.1 c hload
  refine ⟨c, hload, ?_⟩
  have hgiven (d : PlainFile) (hd : d.IsPlain) : (file d).given = d.contents := by
    have hthere : (file d).IsThere := rfl
    rw [SettingsFile.given_of_isThere hthere, (load_effective s).2.2 (file d) d hd rfl,
      Option.getD_some]
  have hset (st : Setting) : s.environment st.variableName =
      if st = .high then some "7.5" else if st = .verbose then some "Off" else none := by
    cases st <;> decide +kernel
  have hvariable (st : Setting) : st.inEnvironment? s.environment =
      if st = .high then some (.float (.ofBits 0x401e000000000000))
      else if st = .verbose then some (.bool false)
      else none := by
    rw [Setting.inEnvironment?, hset]
    cases st with
    | high => rfl
    | _ => cbv
  simp only [hvalue, effective, given?, hvariable, s, Option.bind_some]
  rw [hgiven _ (by decide), hgiven _ (by decide), hgiven _ (by decide)]
  exact ⟨rfl, rfl, rfl, rfl, rfl, rfl, rfl⟩

end SettingsSources

end Nesting
