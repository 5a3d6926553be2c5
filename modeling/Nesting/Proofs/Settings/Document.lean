import Nesting.Proofs.Outcomes
import Nesting.Proofs.Settings.Entries
import Nesting.Settings.Sources

/-!
# Names in a settings file

A document gives each of its names once. Every statement puts its value under a name of the top
level, which leaves one entry of each name (`nodup_changeAt`), so this holds after each statement
(`gives_statement`), of all statements (`gives_statements`), and of what a whole file holds
(`SettingsFile.nodup_of_held?`).
-/

namespace Nesting

/-! ## What a reading gives -/

/-- Whatever a reading gives, where it finds no fault, has a property. -/
def TomlReading.Gives {α : Type} (p : α → Prop) (m : TomlReading α) : Prop :=
  ∀ rest a rest', m.run rest = .ok (a, rest') → p a

namespace TomlReading

variable {α β : Type} {p : α → Prop} {q : β → Prop}

theorem gives_pure {a : α} (h : p a) : Gives p (pure a : TomlReading α) := by
  intro rest b rest' hrun
  cases hrun
  exact h

theorem gives_fail (cause : TomlCause) : Gives p (fail cause : TomlReading α) := by
  intro rest a rest' hrun
  cases hrun

/-- If what a reading gives has a property, what is read behind it may rest on that. -/
theorem Gives.bind {m : TomlReading α} {f : α → TomlReading β} (hm : Gives p m)
    (hf : ∀ a, p a → Gives q (f a)) : Gives q (m >>= f) := by
  intro rest b rest' hrun
  rw [StateT.run_bind] at hrun
  cases hrun' : m.run rest with
  | error e =>
      rw [hrun'] at hrun
      cases hrun
  | ok r =>
      rw [hrun'] at hrun
      exact hf r.1 (hm rest r.1 r.2 hrun') r.2 b rest' hrun

theorem gives_bind {m : TomlReading α} {f : α → TomlReading β} (hf : ∀ a, Gives q (f a)) :
    Gives q (m >>= f) :=
  Gives.bind (p := fun _ => True) (fun _ _ _ _ => trivial) fun a _ => hf a

/-- What would be read behind a fault is not read. -/
theorem gives_fail_bind (cause : TomlCause) (f : α → TomlReading β) :
    Gives q (fail cause >>= f) :=
  (gives_fail (p := fun _ => False) cause).bind fun _ h => h.elim

end TomlReading

/-! ## Entries below entries -/

namespace Entries

/-- Whether no name of a table is repeated after a change to it. -/
theorem nodup_changeAt {lists : Bool} {f : Entries → Option Entries}
    (hf : ∀ {es es' : Entries}, f es = some es' → es.names.Nodup → es'.names.Nodup)
    {path : KeyPath} {es es' : Entries} (h : es.changeAt lists f path = some es')
    (hes : es.names.Nodup) : es'.names.Nodup := by
  cases path with
  | nil => exact hf h hes
  | cons k ks =>
      -- whatever stands under the first name, the change ends in giving a value under it
      have hput : ∃ v, es' = es.put k v := by
        rw [changeAt] at h
        split at h
        · obtain ⟨t, -, rfl⟩ := Option.map_eq_some_iff.mp h
          exact ⟨_, rfl⟩
        · obtain ⟨t, -, rfl⟩ := Option.map_eq_some_iff.mp h
          exact ⟨_, rfl⟩
        · split at h
          · obtain ⟨t, -, rfl⟩ := Option.map_eq_some_iff.mp h
            exact ⟨_, rfl⟩
          · cases h
        · cases h
      obtain ⟨v, rfl⟩ := hput
      exact nodup_names_put hes k v

theorem nodup_putNew {k : String} {v : Value} {es es' : Entries}
    (h : es.putNew k v = some es') (hes : es.names.Nodup) : es'.names.Nodup := by
  rw [putNew] at h
  split at h
  · cases h
  · obtain rfl := Option.some.inj h
    exact nodup_names_put hes k v

theorem nodup_appendTable {k : String} {es es' : Entries}
    (h : es.appendTable k = some es') (hes : es.names.Nodup) : es'.names.Nodup := by
  rw [appendTable] at h
  split at h
  · obtain rfl := Option.some.inj h
    exact nodup_names_put hes k _
  · obtain rfl := Option.some.inj h
    exact nodup_names_put hes k _
  · cases h

end Entries

/-! ## Statements -/

namespace TomlState

open TomlReading

variable {s : TomlState}

/-- Whether no name of the top level is repeated. -/
def Distinct (s : TomlState) : Prop := s.entries.names.Nodup

theorem gives_keyValue (h : s.Distinct) : Gives Distinct s.keyValue := by
  refine gives_bind fun key => gives_bind fun rest => gives_bind fun v => ?_
  dsimp only
  split
  · exact gives_fail_bind _ _
  · split
    · exact gives_fail_bind _ _
    · split
      · exact gives_fail _
      · next hput => exact gives_pure (Entries.nodup_changeAt Entries.nodup_putNew hput h)

theorem gives_tableHeader (h : s.Distinct) : Gives Distinct s.tableHeader := by
  refine gives_bind fun _ => gives_bind fun key => ?_
  dsimp only
  split
  · exact gives_fail_bind _ _
  · split
    · exact gives_fail _
    · next hchange =>
        have hes := Entries.nodup_changeAt (fun heq hes => Option.some.inj heq ▸ hes) hchange h
        refine gives_bind fun _ => ?_
        split
        · exact gives_fail_bind _ _
        · exact gives_pure hes

theorem gives_listHeader (h : s.Distinct) : Gives Distinct s.listHeader := by
  refine gives_bind fun _ => gives_bind fun key => ?_
  dsimp only
  split
  · exact gives_fail_bind _ _
  · split
    · exact gives_fail _
    · next hchange =>
        have hes := Entries.nodup_changeAt Entries.nodup_appendTable hchange h
        refine gives_bind fun _ => ?_
        split
        · exact gives_fail_bind _ _
        · exact gives_pure hes

theorem gives_statement (h : s.Distinct) (c : Char) : Gives Distinct (s.statement c) := by
  have hsettled : TomlState.Distinct { s with marks := s.marks.settle } := h
  rw [statement]
  split
  · exact gives_keyValue h
  · split
    · refine gives_bind fun _ => ?_
      split
      · exact gives_listHeader hsettled
      · exact gives_bind fun _ => gives_tableHeader hsettled
    · split
      · exact gives_pure h
      · exact gives_fail _

/-- Reading statements keeps the names of the top level distinct. The induction is on the fuel. -/
theorem gives_statements (fuel : Nat) {s : TomlState} (h : s.Distinct) :
    Gives Distinct (statements fuel s) := by
  induction fuel generalizing s with
  | zero => exact gives_pure h
  | succ fuel ih =>
      rw [statements]
      refine gives_bind fun _ => gives_bind fun next? => ?_
      split
      · exact gives_pure h
      · exact gives_bind fun _ => ih h
      · refine (gives_statement h _).bind fun s' hs' => gives_bind fun _ => gives_bind fun _ =>
          gives_bind fun next? => ?_
        split
        · exact gives_pure hs'
        · exact gives_bind fun _ => ih hs'
        · exact gives_fail _

end TomlState

theorem nodup_of_parseToml {text : List Char} {es : Entries} (h : parseToml text = .ok es) :
    es.names.Nodup := by
  rw [parseToml] at h
  dsimp only at h
  cases hrun : (TomlState.statements ((tomlCharacters text).length + 1) {}).run
      (tomlCharacters text) with
  | error e =>
      rw [hrun] at h
      cases h
  | ok r =>
      rw [hrun] at h
      cases h
      have hempty : TomlState.Distinct {} := List.nodup_nil
      exact TomlState.gives_statements _ hempty _ r.1 r.2 hrun

/-! ## Files -/

namespace SettingsFile

/-- What stands in a file that can be read: its octets are a text, and the text is a document. -/
def held? (f : SettingsFile) : Option Entries := do
  let bytes ← f.content.toOption
  let text ← (decodeStrict bytes).toOption
  (parseToml text).toOption

variable {f : SettingsFile} {es : Entries}

theorem document_eq_ok_iff : f.document = .ok es ↔ f.held? = some es := by
  simp only [document, held?, bind_eq_ok_iff, mapError_eq_ok_iff, Option.bind_eq_bind,
    Option.bind_eq_some_iff, toOption_eq_some_iff]

/-- No name of a file's top level is repeated. -/
theorem nodup_of_held? (h : f.held? = some es) : es.names.Nodup := by
  simp only [held?, Option.bind_eq_bind, Option.bind_eq_some_iff, toOption_eq_some_iff] at h
  obtain ⟨bytes, -, text, -, hes⟩ := h
  exact nodup_of_parseToml hes

end SettingsFile

end Nesting
