import Nesting.Proofs.Decimal.Denoting
import Nesting.Proofs.Octets
import Nesting.Proofs.Settings.Document

/-!
# Settings files that are plainly written

A settings file can be written in many ways. In the plain one there is a line for each entry, first
those of the top level and then those of each section behind its header, and a value is a word for a
flag, the digits of a number, or a text between double quotes in which nothing needs an escape.
`PlainFile` is what such a file says, `PlainFile.text` how it says it, and `parseToml_text` that it
is read as that.

`Reads` says what a reading gives of the characters in front of it, and what it leaves. It is shown
for names, for values (`reads_value`), for one line (`reads_statement`), and by an induction on the
lines for a section (`reads_lines`) and a whole file (`reads_sections`).
-/

namespace Nesting

open TomlReading

/-! ## What a file says -/

/-- A value as it is plainly written. -/
inductive PlainValue where
  | flag (b : Bool)
  | whole (n : Nat)
  | text (s : List Char)

namespace PlainValue

def write : PlainValue → List Char
  | flag true => ['t', 'r', 'u', 'e']
  | flag false => ['f', 'a', 'l', 's', 'e']
  | whole n => digitsOf n
  | text s => '"' :: s ++ ['"']

def value : PlainValue → Value
  | flag b => .bool b
  | whole n => .int n
  | text s => .text (String.ofList s)

/-- Whether a value can be written so: a number has not too many digits, and no character of a text
needs an escape. -/
def IsPlain : PlainValue → Prop
  | flag _ => True
  | whole n => (digitsOf n).length ≤ Value.maxDigits
  | text s => ∀ c ∈ s, isControl c = false ∧ c ≠ '"' ∧ c ≠ '\\'

instance : (v : PlainValue) → Decidable v.IsPlain
  | flag _ => .isTrue trivial
  | whole n => inferInstanceAs (Decidable ((digitsOf n).length ≤ Value.maxDigits))
  | text s => List.decidableBAll _ s

end PlainValue

/-- Entries that are plainly written. -/
abbrev PlainEntries := Named PlainValue

namespace PlainEntries

/-- A line for each entry. -/
def write (es : PlainEntries) : List Char :=
  es.flatMap fun (name, v) => name.toList ++ [' ', '=', ' '] ++ v.write ++ ['\n']

def contents (es : PlainEntries) : Entries :=
  es.map fun (name, v) => (name, v.value)

end PlainEntries

/-- What a file says that is plainly written. -/
structure PlainFile where
  entries : PlainEntries
  sections : Named PlainEntries

/-- Whether a name needs no quotes. -/
def IsBareName (name : String) : Prop :=
  name.toList ≠ [] ∧ ∀ c ∈ name.toList, isBareKey c = true

instance (name : String) : Decidable (IsBareName name) :=
  have := List.decidableBAll (isBareKey · = true) name.toList
  inferInstanceAs (Decidable (_ ∧ _))

namespace PlainFile

/-- A header for each section, and its lines. -/
def writeSections (sections : Named PlainEntries) : List Char :=
  sections.flatMap fun (name, es) => '[' :: name.toList ++ [']', '\n'] ++ es.write

def text (d : PlainFile) : List Char :=
  d.entries.write ++ writeSections d.sections

def contents (d : PlainFile) : Entries :=
  d.entries.contents ++ d.sections.map fun (name, es) => (name, .table es.contents)

/-- Whether a file can be written so: its names are bare and not repeated where they stand. -/
structure IsPlain (d : PlainFile) : Prop where
  values : ∀ e ∈ d.entries, IsBareName e.1 ∧ e.2.IsPlain
  sectionValues : ∀ s ∈ d.sections, IsBareName s.1 ∧ ∀ e ∈ s.2, IsBareName e.1 ∧ e.2.IsPlain
  names : (d.entries.names ++ d.sections.names).Nodup
  sectionNames : ∀ s ∈ d.sections, s.2.names.Nodup

instance (d : PlainFile) : Decidable d.IsPlain :=
  decidable_of_iff
    ((∀ e ∈ d.entries, IsBareName e.1 ∧ e.2.IsPlain)
      ∧ (∀ s ∈ d.sections, IsBareName s.1 ∧ ∀ e ∈ s.2, IsBareName e.1 ∧ e.2.IsPlain)
      ∧ (d.entries.names ++ Named.names d.sections).Nodup ∧ ∀ s ∈ d.sections, s.2.names.Nodup)
    ⟨fun h => ⟨h.1, h.2.1, h.2.2.1, h.2.2.2⟩, fun h => ⟨h.1, h.2, h.3, h.4⟩⟩

end PlainFile

/-! ## Readings -/

namespace TomlReading

variable {α β : Type}

/-- What a reading gives, and what it leaves. -/
def Reads (m : TomlReading α) (before : List Char) (a : α) (after : List Char) : Prop :=
  m.run before = .ok (a, after)

variable {m : TomlReading α} {f : α → TomlReading β} {a : α} {b : β} {rest rest' rest'' : List Char}

theorem reads_pure : Reads (pure a) rest a rest := rfl

theorem Reads.bind (h : Reads m rest a rest') (h' : Reads (f a) rest' b rest'') :
    Reads (m >>= f) rest b rest'' := by
  rw [Reads, StateT.run_bind, h]
  exact h'

theorem Reads.discard (h : Reads m rest a rest') : Reads (discard m) rest ⟨⟩ rest' := by
  show (((Function.const α PUnit.unit) <$> m).run rest) = _
  rw [StateT.run_map, h]
  rfl

theorem reads_get : Reads get rest rest rest := rfl

theorem reads_peek : Reads peek rest rest.head? rest := rfl

theorem reads_skip (n : Nat) : Reads (skip n) rest ⟨⟩ (rest.drop n) := rfl

theorem reads_accept (s rest : List Char) : Reads (accept s) (s ++ rest) true rest := by
  refine reads_get.bind ?_
  rw [if_pos (List.isPrefixOf_iff_prefix.mpr (List.prefix_append s rest))]
  refine (reads_skip s.length).bind ?_
  rw [List.drop_left]
  exact reads_pure

theorem reads_accept_of_not_start {s : List Char} (h : ¬s <+: rest) :
    Reads (accept s) rest false rest := by
  refine reads_get.bind ?_
  rw [if_neg (mt List.isPrefixOf_iff_prefix.mp h)]
  exact reads_pure

theorem reads_accept_of_head? {c : Char} (h : rest.head? ≠ some c) :
    Reads (accept [c]) rest false rest := by
  refine reads_accept_of_not_start ?_
  rintro ⟨t, rfl⟩
  exact h rfl

theorem reads_takeWhile {p : Char → Bool} {run : List Char} (hrun : ∀ c ∈ run, p c = true)
    (hrest : ∀ c ∈ rest.head?, p c = false) : Reads (takeWhile p) (run ++ rest) run rest := by
  have htake : (run ++ rest).takeWhile p = run := by
    rw [List.takeWhile_append_of_pos hrun]
    cases rest with
    | nil => simp
    | cons c rest => simp [hrest c rfl]
  have hdrop : (run ++ rest).dropWhile p = rest := by
    rw [List.dropWhile_append_of_pos hrun]
    cases rest with
    | nil => simp
    | cons c rest => simp [hrest c rfl]
  show Except.ok ((run ++ rest).takeWhile p, (run ++ rest).dropWhile p) = _
  rw [htake, hdrop]

theorem reads_skipSpaces {run : List Char} (hrun : ∀ c ∈ run, isSpace c = true)
    (hrest : ∀ c ∈ rest.head?, isSpace c = false) : Reads skipSpaces (run ++ rest) ⟨⟩ rest :=
  (reads_takeWhile hrun hrest).discard

theorem reads_skipComment (h : rest.head? ≠ some '#') : Reads skipComment rest ⟨⟩ rest :=
  (reads_accept_of_head? h).bind reads_pure

/-! ## Names -/

theorem isSpace_of_isBareKey {c : Char} (h : isBareKey c = true) : isSpace c = false := by
  rw [isSpace, Bool.or_eq_false_iff, beq_eq_false_iff_ne, beq_eq_false_iff_ne]
  constructor <;> (rintro rfl; cases h)

theorem reads_keyPart {name : String} (h : IsBareName name)
    (hrest : ∀ c ∈ rest.head?, isBareKey c = false) :
    Reads keyPart (name.toList ++ rest) name rest := by
  obtain ⟨hne, hbare⟩ := h
  have hrun := reads_takeWhile hbare hrest
  cases hname : name.toList with
  | nil => exact absurd hname hne
  | cons c cs =>
      rw [hname] at hbare hrun
      have hc := hbare c List.mem_cons_self
      refine reads_peek.bind ?_
      rw [List.cons_append, List.head?_cons]
      split
      · next heq => exact absurd hc (by rw [Option.some.inj heq]; decide)
      · next heq => exact absurd hc (by rw [Option.some.inj heq]; decide)
      · next heq =>
          obtain rfl := Option.some.inj heq
          rw [if_pos hc]
          refine hrun.bind ?_
          rw [← hname, String.ofList_toList]
          exact reads_pure
      · next heq => cases heq

/-- A name that is not dotted, and the blanks behind it. -/
theorem reads_key {name : String} (h : IsBareName name) (blanks : List Char)
    (hblanks : ∀ c ∈ blanks, isSpace c = true)
    (hrest : ∀ c ∈ rest.head?, isBareKey c = false ∧ isSpace c = false ∧ c ≠ '.') :
    Reads key (name.toList ++ (blanks ++ rest)) [name] rest := by
  have hend : ∀ c ∈ (blanks ++ rest).head?, isBareKey c = false := by
    cases blanks with
    | nil => exact fun c hc => (hrest c hc).1
    | cons b blanks =>
        rintro c hc
        obtain rfl := Option.some.inj hc
        have hspace := hblanks b List.mem_cons_self
        rcases Bool.or_eq_true _ _ ▸ hspace with h | h <;> (rw [beq_iff_eq.mp h]; rfl)
  refine reads_get.bind ?_
  rw [keyParts]
  have hspaces := reads_skipSpaces hblanks fun c hc => (hrest c hc).2.1
  refine (reads_keyPart h hend).bind (hspaces.bind ?_)
  refine (reads_accept_of_head? fun hdot => (hrest '.' hdot).2.2 rfl).bind ?_
  exact reads_pure

theorem reads_keyAndEquals {name : String} (h : IsBareName name)
    (hrest : ∀ c ∈ rest.head?, isSpace c = false) :
    Reads keyAndEquals (name.toList ++ ([' '] ++ (['='] ++ ([' '] ++ rest)))) [name] rest := by
  have hspace : ∀ c ∈ [' '], isSpace c = true := by simp [isSpace]
  refine (reads_key h [' '] hspace ?_).bind ?_
  · rintro c hc
    obtain rfl := Option.some.inj hc
    decide
  · refine (reads_accept ['='] _).bind ?_
    exact (reads_skipSpaces hspace hrest).bind reads_pure

/-! ## Values -/

theorem reads_basicText {s : List Char}
    (h : ∀ c ∈ s, isControl c = false ∧ c ≠ '"' ∧ c ≠ '\\') {fuel : Nat} (hfuel : s.length < fuel) :
    Reads (basicText false fuel) (s ++ '"' :: rest) s rest := by
  induction s generalizing fuel with
  | nil =>
      obtain ⟨fuel, rfl⟩ := Nat.exists_eq_succ_of_ne_zero (Nat.ne_of_gt hfuel)
      exact reads_peek.bind ((reads_skip 1).bind reads_pure)
  | cons c s ih =>
      obtain ⟨fuel, rfl⟩ := Nat.exists_eq_succ_of_ne_zero (Nat.ne_zero_of_lt hfuel)
      obtain ⟨⟨hcontrol, hquote, hslash⟩, hs⟩ := List.forall_mem_cons.mp h
      have hrest := ih hs (Nat.lt_of_succ_lt_succ hfuel)
      rw [basicText]
      refine reads_peek.bind ?_
      rw [List.cons_append, List.head?_cons]
      split
      · next heq => cases heq
      · next heq => exact absurd (Option.some.inj heq) hquote
      · next heq => exact absurd (Option.some.inj heq) hslash
      · next c' _ _ heq =>
          obtain rfl := Option.some.inj heq
          simp only [Bool.false_eq_true, if_false, hcontrol]
          exact (reads_skip 1).bind (hrest.bind reads_pure)

theorem reads_lineText {s : List Char} (h : ∀ c ∈ s, isControl c = false ∧ c ≠ '"' ∧ c ≠ '\\') :
    Reads (lineText '"') ('"' :: (s ++ '"' :: rest)) (String.ofList s) rest := by
  refine (reads_skip 1).bind ?_
  rw [if_pos rfl]
  refine reads_get.bind ?_
  exact (reads_basicText h (by simp)).bind reads_pure

/-! ### Numbers

A number is tried as a date, a time and a number in another base first, and is none of those: what
stands behind its digits is the end of the line. -/

theorem head?_digitsOf {n : Nat} (h : n ≠ 0) : (digitsOf n).head? ≠ some '0' := by
  rw [digitsOf]
  induction n using Nat.strongRecOn with
  | ind n ih =>
      by_cases hlt : n < 10
      · have hone : ∀ d < 10, d ≠ 0 → [Nat.digitChar d].head? ≠ some '0' := by decide
        rw [Nat.toDigits_of_lt_base hlt]
        exact hone n hlt h
      · have hpos : n / 10 ≠ 0 := by omega
        rw [Nat.toDigits_of_base_le (by norm_num) (Nat.le_of_not_lt hlt),
          List.head?_append_of_ne_nil _ Nat.toDigits_ne_nil]
        exact ih (n / 10) (by omega) hpos

theorem base?_eq_none {c : Char} (h : c.isDigit = true ∨ c = '\n') : base? c = none := by
  unfold base?
  split <;> first | rfl | simp at h

section Digits

variable {ds : List Char} (h : ∀ c ∈ ds, c.isDigit = true)

include h

theorem digitRun_append :
    digitRun Char.isDigit (ds ++ '\n' :: rest) = (ds, '\n' :: rest) := by
  induction ds with
  | nil => rfl
  | cons d ds ih =>
      obtain ⟨hd, hds⟩ := List.forall_mem_cons.mp h
      have hunderscore : d ≠ '_' := fun heq => absurd hd (by rw [heq]; decide)
      rw [List.cons_append, digitRun.eq_2 _ _ _ fun _ _ heq => absurd heq hunderscore, if_pos hd,
        ih hds]

/-- Behind digits there is no mark of a date or a time. -/
theorem mark?_of_fixedDigits? (c : Char) (hdigit : c.isDigit = false) (hfeed : c ≠ '\n')
    {count low high n : Nat} {after : List Char}
    (hfixed : fixedDigits? count low high (ds ++ '\n' :: rest) = some (n, after)) :
    mark? c after = none := by
  simp only [fixedDigits?] at hfixed
  split at hfixed
  case isFalse => cases hfixed
  next hall =>
    obtain ⟨hlength, hdigits, -⟩ := hall
    obtain rfl := (Prod.mk.inj (Option.some.inj hfixed)).2
    have hle : count ≤ ds.length := by
      by_contra hlt
      have hmem : '\n' ∈ (ds ++ '\n' :: rest).take count := by
        obtain ⟨k, hk⟩ : ∃ k, count - ds.length = k + 1 := ⟨count - ds.length - 1, by omega⟩
        rw [List.take_append, hk]
        exact List.mem_append_right _ List.mem_cons_self
      exact absurd (List.all_eq_true.mp hdigits _ hmem) (by decide)
    rw [List.drop_append_of_le_length hle]
    cases hdrop : ds.drop count with
    | nil => rw [List.nil_append, mark?, if_neg hfeed]
    | cons d more =>
        have hd := h d (List.mem_of_mem_drop (hdrop ▸ List.mem_cons_self))
        rw [List.cons_append, mark?, if_neg]
        rintro rfl
        rw [hdigit] at hd
        cases hd

theorem dateValue?_digits : dateValue? (ds ++ '\n' :: rest) = none := by
  have hdate : date? (ds ++ '\n' :: rest) = none := by
    rw [date?]
    cases hfixed : fixedDigits? 4 0 9999 (ds ++ '\n' :: rest) with
    | none => rfl
    | some p =>
        simp [mark?_of_fixedDigits? h '-' (by decide) (by decide) hfixed]
  rw [dateValue?, hdate]
  rfl

theorem timeOfDay?_digits : timeOfDay? (ds ++ '\n' :: rest) = none := by
  rw [timeOfDay?]
  cases hfixed : fixedDigits? 2 0 23 (ds ++ '\n' :: rest) with
  | none => rfl
  | some p => simp [mark?_of_fixedDigits? h ':' (by decide) (by decide) hfixed]

theorem based?_digits : based? (ds ++ '\n' :: rest) = none := by
  unfold based?
  split
  · next letter cs heq =>
      have hletter : letter.isDigit = true ∨ letter = '\n' := by
        cases ds with
        | nil => simp at heq
        | cons d ds =>
            obtain ⟨-, hds⟩ := List.forall_mem_cons.mp h
            have htail := (List.cons.inj heq).2
            cases ds with
            | nil => exact Or.inr (List.cons.inj htail).1.symm
            | cons d' ds =>
                rw [← (List.cons.inj htail).1]
                exact Or.inl (hds d' List.mem_cons_self)
      rw [base?_eq_none hletter]
      rfl
  · rfl

end Digits

theorem wholeDigits?_digitsOf (n : Nat) :
    wholeDigits? (digitsOf n ++ '\n' :: rest) = some (digitsOf n, '\n' :: rest) := by
  by_cases hn : n = 0
  · subst hn
    rfl
  have hrun : digitRun Char.isDigit (digitsOf n ++ '\n' :: rest) = (digitsOf n, '\n' :: rest) :=
    digitRun_append fun c => isDigit_of_mem_digitsOf
  have hhead := head?_digitsOf hn
  have hall := fun c => isDigit_of_mem_digitsOf (n := n) (c := c)
  cases hds : digitsOf n with
  | nil => exact absurd hds (digitsOf_ne_nil n)
  | cons d ds =>
      rw [hds] at hrun hhead hall
      have hzero : d ≠ '0' := fun heq => hhead (congrArg some heq)
      rw [List.cons_append, wholeDigits?.eq_2 _ fun _ heq => hzero (List.cons.inj heq).1, digits?,
        if_pos (hall d List.mem_cons_self), ← List.cons_append, hrun]

/-- The digits of a number are read as the number. -/
theorem plainValue?_digitsOf {n : Nat} (h : (digitsOf n).length ≤ Value.maxDigits) :
    plainValue? (digitsOf n ++ '\n' :: rest) = some (.ok (.int n), '\n' :: rest) := by
  have hall : ∀ c ∈ digitsOf n, c.isDigit = true := fun c => isDigit_of_mem_digitsOf
  have hsign : takeSign (digitsOf n ++ '\n' :: rest) = (false, digitsOf n ++ '\n' :: rest) := by
    cases hds : digitsOf n with
    | nil => exact absurd hds (digitsOf_ne_nil n)
    | cons d ds => exact takeSign_signText false (hall d (hds ▸ List.mem_cons_self)) _
  have hdecimal : decimal? (digitsOf n ++ '\n' :: rest) = some (.ok (.int n), '\n' :: rest) := by
    rw [decimal?, hsign]
    simp [wholeDigits?_digitsOf, fractionPart, exponentPart, h, digitsValue_digitsOf]
  rw [plainValue?, dateValue?_digits hall, timeOfDay?_digits hall, based?_digits hall, hdecimal]
  rfl

theorem reads_plainValue {n : Nat} (h : (digitsOf n).length ≤ Value.maxDigits) :
    Reads plainValue (digitsOf n ++ '\n' :: rest) (.int n) ('\n' :: rest) := by
  refine reads_get.bind ?_
  rw [plainValue?_digitsOf h]
  rfl

/-! ### All values -/

theorem reads_value_text {s : List Char}
    (h : ∀ c ∈ s, isControl c = false ∧ c ≠ '"' ∧ c ≠ '\\') (fuel : Nat) :
    Reads (value (fuel + 1)) ('"' :: (s ++ '"' :: '\n' :: rest)) (.text (String.ofList s))
      ('\n' :: rest) := by
  have hline : Reads (lineText '"') ('"' :: (s ++ '"' :: '\n' :: rest)) (String.ofList s)
      ('\n' :: rest) := reads_lineText h
  rw [value]
  refine reads_get.bind ?_
  cases s with
  | nil => exact hline.bind reads_pure
  | cons c s =>
      have hc := (h c List.mem_cons_self).2.1
      split
      · next heq => exact absurd (List.cons.inj (List.cons.inj heq).2).1 hc
      · exact hline.bind reads_pure
      case h_8 hquote _ _ _ _ _ heq => exact absurd (List.cons.inj heq).1.symm hquote
      all_goals next heq => simp at heq

theorem reads_value {v : PlainValue} (h : v.IsPlain) (fuel : Nat) :
    Reads (value (fuel + 1)) (v.write ++ '\n' :: rest) v.value ('\n' :: rest) := by
  cases v with
  | flag b => cases b <;> rfl
  | whole n =>
      have hplain : Reads plainValue (digitsOf n ++ '\n' :: rest) (.int n) ('\n' :: rest) :=
        reads_plainValue h
      have hall : ∀ c ∈ digitsOf n, c.isDigit = true := fun c => isDigit_of_mem_digitsOf
      show Reads _ (digitsOf n ++ '\n' :: rest) _ _
      rw [value]
      refine reads_get.bind ?_
      cases hds : digitsOf n with
      | nil => exact absurd hds (digitsOf_ne_nil n)
      | cons d ds =>
          have hd := hall d (hds ▸ List.mem_cons_self)
          rw [hds] at hplain
          split
          case h_8 heq =>
            obtain ⟨rfl, rfl⟩ := List.cons.inj heq
            rw [if_neg fun heq => absurd hd (by rw [heq]; decide)]
            exact hplain
          case h_9 heq => cases heq
          all_goals next heq => exact absurd hd (by rw [(List.cons.inj heq).1]; decide)
  | text s =>
      show Reads _ ('"' :: s ++ ['"'] ++ '\n' :: rest) _ _
      rw [List.append_assoc]
      exact reads_value_text h fuel

end TomlReading

/-! ## Lines -/

/-- A value does not start with a blank. -/
theorem PlainValue.head?_write (v : PlainValue) (rest : List Char) :
    ∀ c ∈ (v.write ++ rest).head?, isSpace c = false := by
  rintro c hc
  cases v with
  | flag b => cases b <;> (obtain rfl := Option.some.inj hc; rfl)
  | text s =>
      obtain rfl := Option.some.inj hc
      rfl
  | whole n =>
      rw [write, List.head?_append_of_ne_nil _ (digitsOf_ne_nil n)] at hc
      have hdigit := isDigit_of_mem_digitsOf (List.mem_of_mem_head? hc)
      rw [isSpace, Bool.or_eq_false_iff, beq_eq_false_iff_ne, beq_eq_false_iff_ne]
      constructor <;> (rintro rfl; cases hdigit)

theorem PlainValue.isNest_value (v : PlainValue) : v.value.isNest = false := by
  cases v <;> rfl

namespace TomlState

variable {s s₁ s' : TomlState} {name : String} {v : PlainValue} {rest : List Char}

/-- A line gives its value in the table of the last header. -/
theorem reads_keyValue {es : Entries} (hname : IsBareName name) (hv : v.IsPlain)
    (hfrozen : s.marks.frozen = [])
    (hput : s.entries.changeAt true (Entries.putNew name v.value) s.header = some es) :
    Reads s.keyValue (name.toList ++ [' ', '=', ' '] ++ v.write ++ '\n' :: rest)
      { s with entries := es } ('\n' :: rest) := by
  have hkey : Reads keyAndEquals (name.toList ++ [' ', '=', ' '] ++ v.write ++ '\n' :: rest) [name]
      (v.write ++ '\n' :: rest) := by
    simp only [List.append_assoc]
    exact reads_keyAndEquals hname (v.head?_write _)
  have hbetween : between s.header [name] = [] := rfl
  have hparent : s.marks.isFrozen s.header = false := by rw [TomlMarks.isFrozen, hfrozen]; rfl
  refine hkey.bind (reads_get.bind ((reads_value hv _).bind ?_))
  simp only [hbetween, List.find?_nil, List.dropLast_singleton, List.append_nil, hparent,
    List.getLast?_singleton, Option.getD_some, hput, v.isNest_value, Bool.false_eq_true, if_false]
  exact reads_pure

/-- Reading all lines, with enough fuel. -/
def ReadsAll (s : TomlState) (before : List Char) (s' : TomlState) : Prop :=
  ∀ fuel, before.length < fuel → Reads (statements fuel s) before s' []

theorem readsAll_nil : ReadsAll s [] s := by
  intro fuel hfuel
  obtain ⟨fuel, rfl⟩ := Nat.exists_eq_succ_of_ne_zero (Nat.ne_zero_of_lt hfuel)
  rfl

/-- A line is read as a statement that starts with its first character. -/
theorem ReadsAll.line {c : Char} (line : List Char) (hspace : isSpace c = false) (hfeed : c ≠ '\n')
    (hstatement : Reads (s.statement c) (c :: (line ++ '\n' :: rest)) s₁ ('\n' :: rest))
    (h : ReadsAll s₁ rest s') : ReadsAll s (c :: (line ++ '\n' :: rest)) s' := by
  intro fuel hfuel
  obtain ⟨fuel, rfl⟩ := Nat.exists_eq_succ_of_ne_zero (Nat.ne_zero_of_lt hfuel)
  have hblanks : ∀ {c : Char} {after : List Char}, isSpace c = false →
      Reads skipSpaces (c :: after) ⟨⟩ (c :: after) := fun hc =>
    reads_skipSpaces (fun _ h => (List.not_mem_nil h).elim) fun _ h => Option.some.inj h ▸ hc
  rw [statements]
  refine (hblanks hspace).bind (reads_peek.bind ?_)
  rw [List.head?_cons]
  split
  · next heq => cases heq
  · next heq => exact absurd (Option.some.inj heq) hfeed
  · next c' _ heq =>
      obtain rfl := Option.some.inj heq
      refine hstatement.bind ((hblanks rfl).bind ((reads_skipComment (by simp)).bind ?_))
      refine reads_peek.bind ((reads_skip 1).bind (h fuel ?_))
      simp only [List.length_cons, List.length_append] at hfuel ⊢
      omega

/-- A line that gives a value. -/
theorem ReadsAll.entry {es : Entries} (hname : IsBareName name) (hv : v.IsPlain)
    (hfrozen : s.marks.frozen = [])
    (hput : s.entries.changeAt true (Entries.putNew name v.value) s.header = some es)
    (h : ReadsAll { s with entries := es } rest s') :
    ReadsAll s (PlainEntries.write [(name, v)] ++ rest) s' := by
  have hstatement : Reads s.keyValue (name.toList ++ [' ', '=', ' '] ++ v.write ++ '\n' :: rest)
      { s with entries := es } ('\n' :: rest) := reads_keyValue hname hv hfrozen hput
  have hline : PlainEntries.write [(name, v)] ++ rest =
      name.toList ++ [' ', '=', ' '] ++ v.write ++ '\n' :: rest := by
    simp [PlainEntries.write]
  rw [hline]
  obtain ⟨hne, hbare⟩ := hname
  obtain ⟨c, cs, hcs⟩ := List.exists_cons_of_ne_nil hne
  rw [hcs] at hstatement hbare ⊢
  have hc := hbare c List.mem_cons_self
  refine ReadsAll.line (cs ++ [' ', '=', ' '] ++ v.write) (isSpace_of_isBareKey hc)
    (fun heq => absurd hc (by rw [heq]; decide)) ?_ h
  rw [statement, if_pos (by rw [hc]; rfl)]
  exact hstatement

/-- The lines of a table. What is read of the table so far is `ts`, and `fill` puts it in its
place. -/
theorem ReadsAll.entries (fill : Entries → Entries) (ts : Entries) {es : PlainEntries}
    {marks : TomlMarks} {header : KeyPath} (hvalues : ∀ e ∈ es, IsBareName e.1 ∧ e.2.IsPlain)
    (hfrozen : marks.frozen = [])
    (hfill : ∀ (f : Entries → Option Entries) (ts : Entries),
      (fill ts).changeAt true f header = (f ts).map fill)
    (hnames : (ts.names ++ es.names).Nodup)
    (h : ReadsAll ⟨fill (ts ++ es.contents), marks, header⟩ rest s') :
    ReadsAll ⟨fill ts, marks, header⟩ (es.write ++ rest) s' := by
  induction es generalizing ts with
  | nil =>
      rw [PlainEntries.contents, List.map_nil, List.append_nil] at h
      exact h
  | cons e es ih =>
      obtain ⟨⟨hname, hv⟩, hes⟩ := List.forall_mem_cons.mp hvalues
      have hnew : e.1 ∉ ts.names := fun hmem =>
        (List.nodup_append.mp hnames).2.2 e.1 hmem e.1 List.mem_cons_self rfl
      have hput : ts.putNew e.1 e.2.value = some (ts ++ [(e.1, e.2.value)]) := by
        rw [Entries.putNew, Entries.get?_eq_none_iff.mpr hnew, Entries.put_of_not_mem _ hnew]
        rfl
      have hwrite : PlainEntries.write (e :: es) ++ rest =
          PlainEntries.write [e] ++ (PlainEntries.write es ++ rest) := by
        simp [PlainEntries.write]
      rw [hwrite]
      refine ReadsAll.entry hname hv hfrozen ?_ (ih (ts ++ [(e.1, e.2.value)]) hes ?_ ?_)
      · show Entries.changeAt true (Entries.putNew e.1 e.2.value) header (fill ts) = _
        rw [hfill, hput]
        rfl
      · simpa [Named.names] using hnames
      · simpa [PlainEntries.contents] using h

/-! ## Sections and files -/

/-- The header of a section that was not there before. -/
theorem ReadsAll.header (hname : IsBareName name) (hfrozen : s.marks.frozen = [])
    (hexplicit : [name] ∉ s.marks.explicit ++ s.marks.pending) (hnew : name ∉ s.entries.names)
    (h : ReadsAll ⟨s.entries ++ [(name, .table [])], s.marks.settle.declare [name], [name]⟩ rest
      s') :
    ReadsAll s ('[' :: name.toList ++ [']', '\n'] ++ rest) s' := by
  have hline : '[' :: name.toList ++ [']', '\n'] ++ rest =
      '[' :: ((name.toList ++ [']']) ++ '\n' :: rest) := by simp
  have hput : s.entries.changeAt true some [name] = some (s.entries ++ [(name, .table [])]) := by
    rw [Entries.changeAt, Entries.get?_eq_none_iff.mpr hnew]
    exact congrArg some (Entries.put_of_not_mem _ hnew)
  have hbracket : ¬['[', '['] <+: '[' :: (name.toList ++ [']'] ++ '\n' :: rest) := by
    obtain ⟨c, cs, hcs⟩ := List.exists_cons_of_ne_nil hname.1
    have hc := hname.2 c (hcs ▸ List.mem_cons_self)
    rw [hcs, List.cons_prefix_cons]
    rintro ⟨-, hprefix⟩
    rw [List.append_assoc, List.cons_append, List.cons_prefix_cons] at hprefix
    exact absurd hc (by rw [← hprefix.1]; decide)
  have hkey : Reads key (name.toList ++ [']'] ++ '\n' :: rest) [name] (']' :: '\n' :: rest) := by
    rw [List.append_assoc]
    refine reads_key hname [] (fun _ hc => (List.not_mem_nil hc).elim) ?_
    rintro c hc
    obtain rfl := Option.some.inj hc
    decide
  rw [hline]
  refine ReadsAll.line (name.toList ++ [']']) rfl (by decide) ?_ h
  rw [statement, if_neg (by decide), if_pos rfl]
  refine (reads_accept_of_not_start hbracket).bind ?_
  rw [if_neg Bool.false_ne_true]
  refine (reads_skip 1).bind ?_
  rw [tableHeader]
  have hblanks : Reads skipSpaces (name.toList ++ [']'] ++ '\n' :: rest) ⟨⟩
      (name.toList ++ [']'] ++ '\n' :: rest) := by
    have hfirst : ∀ c ∈ (name.toList ++ [']'] ++ '\n' :: rest).head?, isSpace c = false := by
      intro c hc
      rw [List.append_assoc, List.head?_append_of_ne_nil _ hname.1] at hc
      exact isSpace_of_isBareKey (hname.2 c (List.mem_of_mem_head? hc))
    exact reads_skipSpaces (fun _ hc => (List.not_mem_nil hc).elim) hfirst
  have hmarks : s.marks.settle.isExplicit [name] = false
      ∧ s.marks.settle.isFrozen [name] = false := by
    constructor
    · rw [TomlMarks.isExplicit, TomlMarks.settle, List.contains_eq_mem, decide_eq_false hexplicit]
    · rw [TomlMarks.isFrozen, TomlMarks.settle, hfrozen]
      rfl
  refine hblanks.bind (hkey.bind ?_)
  simp only [hmarks.1, hmarks.2, Bool.or_self, Bool.false_eq_true, if_false, hput]
  exact (reads_accept [']'] _).bind reads_pure

/-- The sections of a file, one after another. -/
theorem ReadsAll.sections {sections : Named PlainEntries}
    (hvalues : ∀ t ∈ sections, IsBareName t.1 ∧ ∀ e ∈ t.2, IsBareName e.1 ∧ e.2.IsPlain)
    (hnames : (Named.names s.entries ++ Named.names sections).Nodup)
    (hsections : ∀ t ∈ sections, t.2.names.Nodup) (hfrozen : s.marks.frozen = [])
    (hexplicit : ∀ t ∈ sections, [t.1] ∉ s.marks.explicit ++ s.marks.pending) :
    ∃ s', ReadsAll s (PlainFile.writeSections sections) s'
      ∧ s'.entries = s.entries ++ sections.map fun (name, es) => (name, .table es.contents) := by
  induction sections generalizing s with
  | nil => exact ⟨s, readsAll_nil, (List.append_nil _).symm⟩
  | cons t sections ih =>
      obtain ⟨⟨hname, ht⟩, hvalues⟩ := List.forall_mem_cons.mp hvalues
      obtain ⟨hdistinct, hsections⟩ := List.forall_mem_cons.mp hsections
      obtain ⟨hone, hexplicit⟩ := List.forall_mem_cons.mp hexplicit
      let marks := s.marks.settle.declare [t.1]
      have hmarks : marks.frozen = [] := hfrozen
      have hnew : t.1 ∉ s.entries.names := fun hmem =>
        (List.nodup_append.mp hnames).2.2 t.1 hmem t.1 List.mem_cons_self rfl
      have hnames' : (Named.names (s.entries ++ [(t.1, .table t.2.contents)])
          ++ Named.names sections).Nodup := by
        simpa [Named.names] using hnames
      have hexplicit' : ∀ t' ∈ sections, [t'.1] ∉ marks.explicit ++ marks.pending := by
        intro t' ht' hmem
        have hname' : t'.1 ∈ Named.names sections := List.mem_map_of_mem ht'
        have hold := (List.nodup_cons.mp (List.nodup_append.mp hnames).2.1).1
        have hne : t'.1 ≠ t.1 := by
          intro heq
          rw [heq] at hname'
          exact hold hname'
        have hbefore : [t'.1] ∈ s.marks.explicit ++ s.marks.pending := by
          simpa [marks, TomlMarks.declare, TomlMarks.settle, hne] using hmem
        exact hexplicit t' ht' hbefore
      obtain ⟨s', hread, hentries⟩ := ih (s := ⟨s.entries ++ [(t.1, .table t.2.contents)], marks,
        [t.1]⟩) hvalues hnames' hsections hmarks hexplicit'
      refine ⟨s', ?_, ?_⟩
      · have hwrite : PlainFile.writeSections (t :: sections) =
            '[' :: t.1.toList ++ [']', '\n']
              ++ (t.2.write ++ PlainFile.writeSections sections) := by
          simp [PlainFile.writeSections]
        rw [hwrite]
        refine ReadsAll.header hname hfrozen hone hnew ?_
        have hfill : ∀ (f : Entries → Option Entries) (ts : Entries),
            Entries.changeAt true f [t.1] (s.entries ++ [(t.1, .table ts)]) =
              (f ts).map fun ts => s.entries ++ [(t.1, .table ts)] := by
          intro f ts
          have hget : Named.get? (s.entries ++ [(t.1, Value.table ts)]) t.1 = some (.table ts) := by
            rw [Entries.get?_append, Entries.get?_eq_none_iff.mpr hnew, Option.none_or,
              Entries.get?_cons, if_pos rfl]
          simp only [Entries.changeAt, hget, Entries.put_append_of_not_mem _ _ hnew]
        have hlines : ReadsAll ⟨s.entries ++ [(t.1, .table [])], marks, [t.1]⟩
            (PlainEntries.write t.2 ++ PlainFile.writeSections sections) s' :=
          ReadsAll.entries (fun ts => s.entries ++ [(t.1, .table ts)]) [] ht hmarks hfill hdistinct
            hread
        exact hlines
      · rw [hentries]
        simp

end TomlState

/-- A line end of one character is left as it is. -/
theorem tomlCharacters_of_not_mem {cs : List Char} (h : '\r' ∉ cs) : tomlCharacters cs = cs := by
  induction cs with
  | nil => rfl
  | cons c cs ih =>
      obtain ⟨hc, hcs⟩ := not_or.mp (mt List.mem_cons.mpr h)
      rw [tomlCharacters.eq_2 _ _ fun _ heq => absurd heq.symm hc, ih hcs]

namespace PlainFile

variable {d : PlainFile}

theorem return_not_mem_name {name : String} (h : IsBareName name) : '\r' ∉ name.toList :=
  fun hmem => absurd (h.2 '\r' hmem) (by decide)

theorem return_not_mem_write {v : PlainValue} (h : v.IsPlain) : '\r' ∉ v.write := by
  cases v with
  | flag b => cases b <;> simp [PlainValue.write]
  | whole n => exact fun hmem => absurd (isDigit_of_mem_digitsOf hmem) (by decide)
  | text s =>
      have hs : '\r' ∉ s := fun hmem => absurd (h '\r' hmem).1 (by decide)
      simpa [PlainValue.write] using hs

theorem return_not_mem_entries {es : PlainEntries}
    (h : ∀ e ∈ es, IsBareName e.1 ∧ e.2.IsPlain) : '\r' ∉ es.write := by
  intro hmem
  obtain ⟨e, he, hmem⟩ := List.mem_flatMap.mp hmem
  obtain ⟨hname, hv⟩ := h e he
  have hname := return_not_mem_name hname
  have hv := return_not_mem_write hv
  simp [hname, hv] at hmem

theorem return_not_mem_text (h : d.IsPlain) : '\r' ∉ d.text := by
  intro hmem
  rcases List.mem_append.mp hmem with hmem | hmem
  · exact return_not_mem_entries h.values hmem
  · obtain ⟨t, ht, hmem⟩ := List.mem_flatMap.mp hmem
    obtain ⟨hname, ht⟩ := h.sectionValues t ht
    have hname := return_not_mem_name hname
    have ht := return_not_mem_entries ht
    simp [hname, ht] at hmem

/-- A file that is plainly written is read as what it says. -/
theorem parseToml_text (h : d.IsPlain) : parseToml d.text = .ok d.contents := by
  obtain ⟨s, hread, hentries⟩ := TomlState.ReadsAll.sections (s := ⟨d.entries.contents, {}, []⟩)
    h.sectionValues (by simpa [PlainEntries.contents, Named.names, Function.comp_def] using h.names)
    h.sectionNames rfl (fun _ _ => List.not_mem_nil)
  have hfill : ∀ (f : Entries → Option Entries) (ts : Entries),
      Entries.changeAt true f [] ts = (f ts).map id := fun f ts => by
    rw [Entries.changeAt, Option.map_id, id]
  have hlines := TomlState.ReadsAll.entries id [] h.values rfl hfill
    (List.nodup_append.mp h.names).1 hread
  have hrun : (TomlState.statements (d.text.length + 1) {}).run d.text = .ok (s, []) :=
    hlines _ (Nat.lt_succ_self _)
  rw [parseToml, tomlCharacters_of_not_mem (return_not_mem_text h), hrun]
  exact congrArg Except.ok hentries

end PlainFile

end Nesting
