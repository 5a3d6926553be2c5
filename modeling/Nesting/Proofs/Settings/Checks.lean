import Nesting.Proofs.Outcomes
import Nesting.Proofs.Settings.Entries
import Nesting.Settings

/-!
# Which values settings can have

Each setting has its own check, and `Setting.Accepts` says which values it lets pass. Settings that
are given by name come out just when all names are those of settings and all values are accepted,
and then each setting has the value that was given for it (`Settings.ofEntries_eq_ok_iff`,
`Settings.exists_ofEntries_eq_ok_iff`).
-/

namespace Nesting

/-- The values that a setting can have, where characters have some names. -/
def Setting.Accepts (characters : CharacterNames) : Setting → Value → Prop
  | medium, v | high, v => ∃ n : Number, v = Settings.numberValue n
  | failOn, v => v = .null ∨ ∃ l : Level, v = .text l.name
  | commentPattern, v => ∃ source p, v = .text source ∧ Pattern.compile source characters = .ok p
  | changes, v => ∃ i : Include, v = .text i.name
  | filterComments, _ | verbose, _ | lines, _ => True

/-! ## The checks -/

variable {characters : CharacterNames}

theorem source_of_compile {source : String} {p : Pattern}
    (h : Pattern.compile source characters = .ok p) : p.source = source := by
  rw [Pattern.compile, bind_eq_ok_iff] at h
  obtain ⟨r, -, h⟩ := h
  obtain rfl := Except.ok.inj h
  rfl

theorem numberSetting_eq_ok_iff {s : Setting} {v : Value} {room : Nat} {n : Number} :
    numberSetting s v room = .ok n ↔ v = Settings.numberValue n := by
  cases v <;> cases n <;> simp [numberSetting, Settings.numberValue]

/-- Looking for a name among choices that are all found under their own. -/
theorem find?_name_eq_some_iff {α : Type} {name : α → String} {choices : List α}
    (h : ∀ a, choices.find? (name · == name a) = some a) {n : String} {a : α} :
    choices.find? (name · == n) = some a ↔ n = name a := by
  constructor
  · intro hfind
    have hname := List.find?_some hfind
    exact (beq_iff_eq.mp hname).symm
  · rintro rfl
    exact h a

theorem Include.ofName?_eq_some_iff {name : String} {i : Include} :
    Include.ofName? name = some i ↔ name = i.name :=
  find?_name_eq_some_iff fun i => by cases i <;> decide

theorem Level.ofName?_eq_some_iff {name : String} {l : Level} :
    Level.ofName? name = some l ↔ name = l.name :=
  find?_name_eq_some_iff fun l => by cases l <;> decide

theorem changesSetting_eq_ok_iff {v : Value} {i : Include} :
    changesSetting v = .ok i ↔ v = .text i.name := by
  cases v with
  | text t =>
      rw [Value.text.injEq, ← Include.ofName?_eq_some_iff]
      cases h : Include.ofName? t <;>
        simp [changesSetting, h]
  | _ => simp [changesSetting]

theorem failOnSetting_eq_ok_iff {v : Value} {l? : Option Level} :
    failOnSetting v = .ok l? ↔ v = l?.elim .null fun l => .text l.name := by
  cases v with
  | null => cases l? <;> simp [failOnSetting]
  | text t =>
      have hlevel : ∀ l, t = l.name ↔ Level.ofName? t = some l := fun l =>
        Level.ofName?_eq_some_iff.symm
      cases l? <;> cases h : Level.ofName? t <;>
        simp [failOnSetting, hlevel, h]
  | _ => cases l? <;> simp [failOnSetting]

theorem patternSetting_eq_ok_iff {v : Value} {p : Pattern} :
    patternSetting v characters = .ok p ↔
      ∃ source, v = .text source ∧ Pattern.compile source characters = .ok p := by
  cases v with
  | text source =>
      rw [patternSetting]
      cases h : Pattern.compile source characters <;> simp [h]
  | _ => simp [patternSetting]

theorem checkSettingNames_eq_ok_iff {names : List String} {u : Unit} :
    checkSettingNames names = .ok u ↔ ∀ n ∈ names, ∃ s : Setting, s.name = n := by
  have hknown : ∀ n, (Setting.all.map Setting.name).contains n = true ↔
      ∃ s : Setting, s.name = n := by
    intro n
    rw [List.contains_iff_mem, List.mem_map]
    exact ⟨fun ⟨s, _, h⟩ => ⟨s, h⟩, fun ⟨s, h⟩ => ⟨s, by cases s <;> decide, h⟩⟩
  rw [checkSettingNames]
  cases hfind : names.find? fun n => !(Setting.all.map Setting.name).contains n with
  | none =>
      refine ⟨fun _ n hn => ?_, fun _ => rfl⟩
      have hcontains := List.find?_eq_none.mp hfind n hn
      rw [Bool.not_eq_true, Bool.not_eq_false'] at hcontains
      exact (hknown n).mp hcontains
  | some n =>
      refine ⟨fun h => (nomatch h), fun h => ?_⟩
      have hcontains := List.find?_some hfind
      rw [(hknown n).mpr (h n (List.mem_of_find?_eq_some hfind))] at hcontains
      cases hcontains

namespace Settings

/-- Settings come of a table just when it names settings only, and they have the values that it
gives, or else the defaults. -/
theorem ofEntries_eq_ok_iff {es : Entries} {platform : Platform} {c : Settings} :
    ofEntries es platform = .ok c ↔
      (∀ n ∈ es.names, ∃ s : Setting, s.name = n)
        ∧ Pattern.compile c.comments.source platform.characters = .ok c.comments
        ∧ ∀ s : Setting, c.value s = s.valueIn es := by
  simp only [ofEntries, bind_eq_ok_iff, checkSettingNames_eq_ok_iff, numberSetting_eq_ok_iff,
    changesSetting_eq_ok_iff, failOnSetting_eq_ok_iff, patternSetting_eq_ok_iff]
  constructor
  · rintro ⟨-, hnames, medium, hmedium, high, hhigh, i, hchanges, l?, hfailOn, p,
      ⟨source, hsource, hcompile⟩, h⟩
    obtain rfl := Except.ok.inj h
    have hp : p.source = source := source_of_compile hcompile
    refine ⟨hnames, hp.symm ▸ hcompile, fun s => ?_⟩
    cases s with
    | medium => exact hmedium.symm
    | high => exact hhigh.symm
    | failOn => exact hfailOn.symm
    | commentPattern => rw [value, hp, hsource]
    | changes => exact hchanges.symm
    | filterComments | verbose | lines => rfl
  · rintro ⟨hnames, hcompile, hvalue⟩
    exact ⟨(), hnames, c.medium, (hvalue .medium).symm, c.high, (hvalue .high).symm, c.changes,
      (hvalue .changes).symm, c.failOn, (hvalue .failOn).symm, c.comments,
      ⟨c.comments.source, (hvalue .commentPattern).symm, hcompile⟩, by
        rw [← hvalue .filterComments, ← hvalue .verbose, ← hvalue .lines]; rfl⟩

/-- A table gives settings just when it names settings only and all values are accepted. -/
theorem exists_ofEntries_eq_ok_iff {es : Entries} {platform : Platform} :
    (∃ c, ofEntries es platform = .ok c) ↔
      (∀ n ∈ es.names, ∃ s : Setting, s.name = n)
        ∧ ∀ s : Setting, s.Accepts platform.characters (s.valueIn es) := by
  constructor
  · rintro ⟨c, h⟩
    obtain ⟨hnames, hcompile, hvalue⟩ := ofEntries_eq_ok_iff.mp h
    refine ⟨hnames, fun s => hvalue s ▸ ?_⟩
    cases s with
    | medium | high => exact ⟨_, rfl⟩
    | failOn =>
        cases hl : c.failOn with
        | none => exact Or.inl (by rw [value, hl]; rfl)
        | some l => exact Or.inr ⟨l, by rw [value, hl]; rfl⟩
    | commentPattern => exact ⟨c.comments.source, c.comments, rfl, hcompile⟩
    | changes => exact ⟨c.changes, rfl⟩
    | filterComments | verbose | lines => trivial
  · rintro ⟨hnames, haccepts⟩
    obtain ⟨medium, hmedium⟩ := haccepts .medium
    obtain ⟨high, hhigh⟩ := haccepts .high
    obtain ⟨i, hchanges⟩ := haccepts .changes
    obtain ⟨source, p, hsource, hcompile⟩ := haccepts .commentPattern
    obtain ⟨l?, hfailOn⟩ : ∃ l? : Option Level,
        Setting.failOn.valueIn es = l?.elim .null fun l => .text l.name := by
      rcases haccepts .failOn with h | ⟨l, h⟩
      · exact ⟨none, h⟩
      · exact ⟨some l, h⟩
    have hp : p.source = source := source_of_compile hcompile
    refine ⟨⟨medium, high, l?, p, Setting.filterComments.valueIn es, i,
      Setting.verbose.valueIn es, Setting.lines.valueIn es⟩,
      ofEntries_eq_ok_iff.mpr ⟨hnames, hp.symm ▸ hcompile, fun s => ?_⟩⟩
    cases s with
    | medium => exact hmedium.symm
    | high => exact hhigh.symm
    | failOn => exact hfailOn.symm
    | commentPattern => rw [value, hp, hsource]
    | changes => exact hchanges.symm
    | filterComments | verbose | lines => rfl

end Settings

end Nesting
