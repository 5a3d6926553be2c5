import Mathlib.Data.List.Nodup
import Nesting.Value

/-!
# Tables that are put together

A table is read by `get?`, which finds the first entry of a name, and is made by `put`, which leaves
one entry of each name. So a table that is put on another is read from its end: the value under a
name is the one that it gives last (`last?`), and else the one that was there (`get?_putAll`). In a
table without repeated names, first and last are the same (`last?_eq_get?`).
-/

namespace Nesting

namespace Entries

open Named

/-- The value that is given last under a name. -/
def last? (es : Entries) (name : String) : Option Value :=
  get? es.reverse name

/-! ## Reading -/

@[simp] theorem get?_nil (name : String) : Named.get? ([] : Entries) name = none := rfl

@[simp] theorem last?_nil (name : String) : last? [] name = none := rfl

theorem get?_cons (e : String × Value) (es : Entries) (name : String) :
    get? (e :: es) name = if e.1 = name then some e.2 else es.get? name := by
  by_cases h : e.1 = name <;> simp [get?, h]

theorem get?_append (es others : Entries) (name : String) :
    get? (es ++ others) name = (es.get? name).or (others.get? name) := by
  rw [get?, List.find?_append, Option.map_or]
  rfl

theorem last?_append (es others : Entries) (name : String) :
    last? (es ++ others) name = (others.last? name).or (es.last? name) := by
  rw [last?, List.reverse_append, get?_append]
  rfl

theorem last?_cons (e : String × Value) (es : Entries) (name : String) :
    last? (e :: es) name = (es.last? name).or (if e.1 = name then some e.2 else none) := by
  have hone : last? [e] name = if e.1 = name then some e.2 else none := get?_cons e [] name
  rw [← hone, ← last?_append]
  rfl

theorem get?_eq_none_iff {es : Entries} {name : String} :
    es.get? name = none ↔ name ∉ es.names := by
  induction es with
  | nil => simp [names]
  | cons e es ih =>
      rw [get?_cons, names, List.map_cons, List.mem_cons]
      by_cases h : e.1 = name
      · simp [h]
      · rw [if_neg h, ih, names]
        simp [Ne.symm h]

theorem last?_eq_none_iff {es : Entries} {name : String} :
    es.last? name = none ↔ name ∉ es.names := by
  rw [last?, get?_eq_none_iff, names, names, List.map_reverse, List.mem_reverse]

/-- Without repeated names it does not matter from which end a table is read. -/
theorem last?_eq_get? {es : Entries} (h : es.names.Nodup) (name : String) :
    es.last? name = es.get? name := by
  induction es with
  | nil => rfl
  | cons e es ih =>
      rw [names, List.map_cons, List.nodup_cons] at h
      rw [last?_cons, get?_cons, ih h.2]
      by_cases he : e.1 = name
      · have hnone : get? es name = none := get?_eq_none_iff.mpr (he ▸ h.1)
        rw [hnone, Option.none_or, if_pos he]
      · rw [if_neg he, if_neg he, Option.or_none]

/-! ## Giving values -/

theorem get?_put (k : String) (v : Value) (es : Entries) (name : String) :
    (es.put k v).get? name = if k = name then some v else es.get? name := by
  induction es with
  | nil => rw [put, get?_cons]
  | cons e es ih =>
      rw [put]
      by_cases he : e.1 = k
      · rw [if_pos he, get?_cons, get?_cons, he]
        split <;> rfl
      · rw [if_neg he, get?_cons, ih, get?_cons]
        by_cases hname : e.1 = name
        · have hk : k ≠ name := fun h => he (hname.trans h.symm)
          rw [if_pos hname, if_neg hk, if_pos hname]
        · rw [if_neg hname, if_neg hname]

/-- A new name comes last. -/
theorem put_of_not_mem {k : String} (v : Value) {es : Entries} (h : k ∉ es.names) :
    es.put k v = es ++ [(k, v)] := by
  induction es with
  | nil => rfl
  | cons e es ih =>
      rw [names, List.map_cons, List.mem_cons, not_or] at h
      rw [put, if_neg (Ne.symm h.1), ih h.2]
      rfl

theorem put_append_of_not_mem {k : String} (v w : Value) {es : Entries} (h : k ∉ es.names) :
    Entries.put k w (es ++ [(k, v)]) = es ++ [(k, w)] := by
  induction es with
  | nil => rw [List.nil_append, put, if_pos rfl, List.nil_append]
  | cons e es ih =>
      rw [names, List.map_cons, List.mem_cons, not_or] at h
      rw [List.cons_append, put, if_neg (Ne.symm h.1), ih h.2]
      rfl

theorem mem_names_put {k : String} {v : Value} {es : Entries} {name : String} :
    name ∈ (es.put k v).names ↔ name = k ∨ name ∈ es.names := by
  have hnone : (es.put k v).get? name = none ↔ name ≠ k ∧ es.get? name = none := by
    rw [get?_put]
    by_cases h : k = name
    · simp [h]
    · simp [h, Ne.symm h]
  rw [get?_eq_none_iff, get?_eq_none_iff] at hnone
  tauto

theorem nodup_names_put {es : Entries} (h : es.names.Nodup) (k : String) (v : Value) :
    (es.put k v).names.Nodup := by
  induction es with
  | nil => exact List.nodup_singleton k
  | cons e es ih =>
      rw [names, List.map_cons, List.nodup_cons] at h
      rw [put]
      by_cases he : e.1 = k
      · rw [if_pos he]
        exact List.nodup_cons.mpr ⟨he ▸ h.1, h.2⟩
      · rw [if_neg he]
        refine List.nodup_cons.mpr ⟨fun hmem => ?_, ih h.2⟩
        rcases mem_names_put.mp hmem with heq | hmem
        · exact he heq
        · exact h.1 hmem

@[simp] theorem putAll_nil (es : Entries) : es.putAll [] = es := rfl

theorem putAll_cons (es : Entries) (e : String × Value) (others : Entries) :
    es.putAll (e :: others) = (es.put e.1 e.2).putAll others := rfl

/-- A value that is given replaces the one that was there. -/
theorem get?_putAll (es others : Entries) (name : String) :
    (es.putAll others).get? name = (others.last? name).or (es.get? name) := by
  induction others generalizing es with
  | nil => rfl
  | cons e others ih =>
      rw [putAll_cons, ih, get?_put, last?_cons, Option.or_assoc]
      by_cases h : e.1 = name
      · rw [if_pos h, if_pos h, Option.some_or]
      · rw [if_neg h, if_neg h, Option.none_or]

theorem mem_names_putAll {es others : Entries} {name : String} :
    name ∈ (es.putAll others).names ↔ name ∈ others.names ∨ name ∈ es.names := by
  have hnone : (es.putAll others).get? name = none ↔
      others.last? name = none ∧ es.get? name = none := by
    rw [get?_putAll, Option.or_eq_none_iff]
  rw [get?_eq_none_iff, last?_eq_none_iff, get?_eq_none_iff] at hnone
  tauto

theorem nodup_names_putAll {es : Entries} (h : es.names.Nodup) (others : Entries) :
    (es.putAll others).names.Nodup := by
  induction others generalizing es with
  | nil => exact h
  | cons e others ih => exact ih (nodup_names_put h e.1 e.2)

/-! ## Taking a name out -/

theorem get?_erase_of_ne {es : Entries} {k name : String} (h : name ≠ k) :
    (es.erase k).get? name = es.get? name := by
  induction es with
  | nil => rfl
  | cons e es ih =>
      rw [erase, List.filter_cons, get?_cons]
      by_cases he : e.1 = k
      · have hname : e.1 ≠ name := fun heq => h (heq.symm.trans he)
        rw [if_neg (by simp [he]), if_neg hname]
        exact ih
      · rw [if_pos (by simp [he]), get?_cons]
        split
        · rfl
        · exact ih

theorem mem_names_erase {es : Entries} {k name : String} :
    name ∈ (es.erase k).names ↔ name ∈ es.names ∧ name ≠ k := by
  simp only [names, erase, List.mem_map, List.mem_filter, bne_iff_ne]
  constructor
  · rintro ⟨e, ⟨he, hne⟩, rfl⟩
    exact ⟨⟨e, he, rfl⟩, hne⟩
  · rintro ⟨⟨e, he, rfl⟩, hne⟩
    exact ⟨e, ⟨he, hne⟩, rfl⟩

theorem nodup_names_erase {es : Entries} (h : es.names.Nodup) (k : String) :
    (es.erase k).names.Nodup :=
  h.sublist (List.filter_sublist.map _)

end Entries

end Nesting
