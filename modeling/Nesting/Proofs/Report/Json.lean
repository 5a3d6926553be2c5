import Nesting.Pattern.Escape
import Nesting.Proofs.Decimal.Denoting
import Nesting.Report.Json

/-!
# What a JSON text says

`Json.Says` is the grammar of JSON texts with the value that each of them stands for: blanks may
stand around every part, a character of a quoted text may be spelt in several ways (`Json.Spells`),
and a whole number is whatever denotes it. Doubles are written, not read: the grammar takes them as
`jsonFloat` lays them out, and dates as the texts that people read.

Every value is written as a text that says it, at any level (`says_jsonText`). So what is printed of
reports says one value for each of them, in their order (`reportsJson_saysReports`).
-/

namespace Nesting

open Reading (codeOf digitCode isHexDigit)

namespace Json

/-! ## The grammar -/

/-- What can stand between the parts of a text. -/
def IsGap (s : List Char) : Prop :=
  ∀ c ∈ s, c = ' ' ∨ c = '\n'

/-- Four hexadecimal digits for a number. -/
structure IsUnit (ds : List Char) (n : Nat) : Prop where
  length : ds.length = 4
  digits : ∀ d ∈ ds, isHexDigit d = true
  code : codeOf 16 ds = n

/-- The characters that are spelt by a letter behind a backslash. -/
def letters : List (Char × Char) :=
  [('"', '"'), ('\\', '\\'), ('/', '/'), ('b', '\x08'), ('f', '\x0c'), ('n', '\n'), ('r', '\r'),
    ('t', '\t')]

/-- How a character is spelt in a quoted text. -/
inductive Spells : List Char → Char → Prop
  | plain {c : Char} (h : 0x20 ≤ c.toNat) (hquote : c ≠ '"') (hslash : c ≠ '\\') : Spells [c] c
  | letter {l c : Char} (h : (l, c) ∈ letters) : Spells ['\\', l] c
  | unit {ds : List Char} {c : Char} (h : IsUnit ds c.toNat) : Spells ('\\' :: 'u' :: ds) c
  | pair {ds ds' : List Char} {c : Char} {high low : Nat} (h : IsUnit ds (0xd800 + high))
      (h' : IsUnit ds' (0xdc00 + low)) (hhigh : high < 0x400) (hlow : low < 0x400)
      (hcode : c.toNat = 0x10000 + 0x400 * high + low) :
      Spells ('\\' :: 'u' :: ds ++ '\\' :: 'u' :: ds') c

mutual

/-- Whether a text says a value. -/
inductive Says : List Char → Value → Prop
  | null : Says "null".toList .null
  | yes : Says "true".toList (.bool true)
  | no : Says "false".toList (.bool false)
  | int {text : String} {n : Int} (h : Denotes text n) : Says text.toList (.int n)
  | float (x : Float) : Says (jsonFloat x).toList (.float x)
  | text {pieces : List (List Char)} {s : String} (h : List.Forall₂ Spells pieces s.toList) :
      Says ('"' :: pieces.flatten ++ ['"']) (.text s)
  | date {text : List Char} {d : Date} (h : Says text (.text (Value.date d).display)) :
      Says text (.date d)
  | time {text : List Char} {t : TimeOfDay} (h : Says text (.text (Value.time t).display)) :
      Says text (.time t)
  | moment {text : List Char} {d : Date} {t : TimeOfDay} {o : Option Int}
      (h : Says text (.text (Value.moment d t o).display)) : Says text (.moment d t o)
  | list {texts : List (List Char)} {vs : List Value} (h : SaysItems texts vs) :
      Says ('[' :: [','].intercalate texts ++ [']']) (.list vs)
  | table {texts : List (List Char)} {es : Entries} (h : SaysEntries texts es) :
      Says ('\x7b' :: [','].intercalate texts ++ ['\x7d']) (.table es)
  | gap {before text after : List Char} {v : Value} (hbefore : IsGap before) (h : Says text v)
      (hafter : IsGap after) : Says (before ++ text ++ after) v

inductive SaysItems : List (List Char) → List Value → Prop
  | nil : SaysItems [] []
  | cons {text : List Char} {v : Value} {texts : List (List Char)} {vs : List Value}
      (h : Says text v) (hrest : SaysItems texts vs) : SaysItems (text :: texts) (v :: vs)

inductive SaysEntries : List (List Char) → Entries → Prop
  | nil : SaysEntries [] []
  | cons {key text : List Char} {name : String} {v : Value} {texts : List (List Char)}
      {es : Entries} (hkey : Says key (.text name)) (h : Says text v)
      (hrest : SaysEntries texts es) :
      SaysEntries ((key ++ ':' :: text) :: texts) ((name, v) :: es)

end

/-! ## Quoted texts -/

theorem codeOf_append (base : Nat) (ds : List Char) (d : Char) :
    codeOf base (ds ++ [d]) = base * codeOf base ds + digitCode d := by
  simp [codeOf]

theorem digitCode_digitChar : ∀ d < 16, digitCode d.digitChar = d := by decide

theorem isHexDigit_digitChar : ∀ d < 16, isHexDigit d.digitChar = true := by decide

theorem codeOf_toDigits (n : Nat) : codeOf 16 (Nat.toDigits 16 n) = n := by
  induction n using Nat.strongRecOn with
  | _ n ih =>
      rw [Nat.toDigits_eq_if (by decide)]
      split
      · next hn =>
          have hone : codeOf 16 ([] ++ [n.digitChar]) = n := by
            rw [codeOf_append, digitCode_digitChar n hn]
            exact Nat.zero_add n
          exact hone
      · next hn =>
          have hlast := digitCode_digitChar (n % 16) (Nat.mod_lt n (by decide))
          rw [codeOf_append, ih (n / 16) (by omega), hlast]
          omega

theorem isHexDigit_of_mem_toDigits {n : Nat} : ∀ d ∈ Nat.toDigits 16 n, isHexDigit d = true := by
  induction n using Nat.strongRecOn with
  | _ n ih =>
      rw [Nat.toDigits_eq_if (by decide)]
      split
      · next hn => simpa using isHexDigit_digitChar n hn
      · next hn =>
          rw [List.forall_mem_append]
          refine ⟨ih (n / 16) (by omega), ?_⟩
          simpa using isHexDigit_digitChar _ (Nat.mod_lt _ (by decide))

theorem codeOf_zeros_append (k : Nat) (ds : List Char) :
    codeOf 16 (List.replicate k '0' ++ ds) = codeOf 16 ds := by
  induction k with
  | zero => rfl
  | succ k ih => exact ih

theorem isUnit_hexText {n : Nat} (h : n < 0x10000) : IsUnit (hexText 4 n) n := by
  have hlength : (Nat.toDigits 16 n).length ≤ 4 :=
    (Nat.length_toDigits_le_iff (by decide) (by decide)).mpr h
  refine ⟨?_, ?_, ?_⟩
  · rw [hexText, List.length_append, List.length_replicate]
    omega
  · rw [hexText, List.forall_mem_append]
    refine ⟨fun d hd => ?_, isHexDigit_of_mem_toDigits⟩
    rw [List.eq_of_mem_replicate hd]
    rfl
  · rw [hexText, codeOf_zeros_append, codeOf_toDigits]

theorem spells_jsonChar (c : Char) : Spells (jsonChar c) c := by
  unfold jsonChar
  dsimp only
  split
  · next h => rcases h with rfl | rfl <;> exact .letter (by decide)
  split
  · next h => exact .letter (h ▸ by decide)
  split
  · next h => exact .letter (h ▸ by decide)
  split
  · next h => exact .letter (h ▸ by decide)
  split
  · next h => exact .letter ((Char.toNat_inj (d := '\x08')).mp h ▸ by decide)
  split
  · next h => exact .letter ((Char.toNat_inj (d := '\x0c')).mp h ▸ by decide)
  split
  · next hplain _ _ _ _ _ h =>
      exact .plain h.1 (fun hquote => hplain (Or.inl hquote)) fun hslash => hplain (Or.inr hslash)
  split
  · next h => exact .unit (isUnit_hexText h)
  · next h =>
      have hbound : c.toNat < 0xd800 ∨ 0xdfff < c.toNat ∧ c.toNat < 0x110000 := c.valid
      refine .pair (isUnit_hexText ?_) (isUnit_hexText ?_) ?_ ?_ ?_
      all_goals omega

theorem says_jsonQuoted (s : String) : Says (jsonQuoted s).toList (.text s) := by
  have hspells : List.Forall₂ Spells (s.toList.map jsonChar) s.toList := by
    rw [List.forall₂_map_left_iff, List.forall₂_same]
    exact fun c _ => spells_jsonChar c
  rw [jsonQuoted, String.toList_ofList, List.flatMap_def]
  exact .text hspells

/-! ## Blocks -/

/-- A text with what may stand around it. -/
def Surrounds (text item : List Char) : Prop :=
  ∃ before after, IsGap before ∧ IsGap after ∧ text = before ++ item ++ after

theorem isGap_jsonMargin (level : Nat) : IsGap (jsonMargin level).toList := by
  intro c hc
  rw [jsonMargin, String.toList_ofList] at hc
  exact Or.inl (List.eq_of_mem_replicate hc)

/-- Items on lines of their own are items with gaps around them. -/
theorem exists_intercalate_eq {margin after : List Char} (hmargin : IsGap margin)
    (hafter : IsGap after) (item : List Char) (items : List (List Char)) :
    ∃ texts, '\n' :: [',', '\n'].intercalate ((item :: items).map (margin ++ ·)) ++ after =
        [','].intercalate texts ∧ List.Forall₂ Surrounds texts (item :: items) := by
  have hbefore : IsGap ('\n' :: margin) := List.forall_mem_cons.mpr ⟨Or.inr rfl, hmargin⟩
  induction items generalizing item with
  | nil =>
      refine ⟨['\n' :: margin ++ item ++ after], by simp, ?_⟩
      exact .cons ⟨_, _, hbefore, hafter, rfl⟩ .nil
  | cons item' items ih =>
      obtain ⟨texts, hjoined, hall⟩ := ih item'
      refine ⟨('\n' :: margin ++ item) :: texts, ?_, .cons ⟨_, [], hbefore, nofun, by simp⟩ hall⟩
      obtain ⟨text, texts, rfl⟩ : ∃ text texts', texts = text :: texts' := by
        cases hall with
        | cons _ _ => exact ⟨_, _, rfl⟩
      rw [List.intercalate_cons_cons, ← hjoined]
      simp [List.intercalate_cons_cons]

/-- A block is its items between two brackets, with gaps around them. -/
theorem exists_jsonBlock_eq (opening closing : String) (level : Nat) (items : List String) :
    ∃ texts, (jsonBlock opening closing level items).toList =
        opening.toList ++ [','].intercalate texts ++ closing.toList
      ∧ List.Forall₂ Surrounds texts (items.map String.toList) := by
  unfold jsonBlock
  cases items with
  | nil => exact ⟨[], by simp, .nil⟩
  | cons item items =>
      have hafter : IsGap ('\n' :: (jsonMargin level).toList) :=
        List.forall_mem_cons.mpr ⟨Or.inr rfl, isGap_jsonMargin level⟩
      obtain ⟨texts, hjoined, hall⟩ := exists_intercalate_eq (isGap_jsonMargin (level + 1)) hafter
        item.toList (items.map String.toList)
      refine ⟨texts, ?_, hall⟩
      have hitems : ((item :: items).map (jsonMargin (level + 1) ++ ·)).map String.toList =
          (item.toList :: items.map String.toList).map ((jsonMargin (level + 1)).toList ++ ·) := by
        simp
      rw [if_neg (List.cons_ne_nil _ _), ← hjoined, ← hitems]
      simp only [String.toList_append, String.toList_intercalate, List.append_assoc]
      rfl

theorem SaysItems.surrounded {texts items : List (List Char)} {vs : List Value}
    (h : SaysItems items vs) (htexts : List.Forall₂ Surrounds texts items) :
    SaysItems texts vs := by
  induction htexts generalizing vs with
  | nil => exact h
  | cons hfirst _ ih =>
      obtain ⟨before, after, hbefore, hafter, rfl⟩ := hfirst
      cases h with
      | cons h hrest => exact .cons (.gap hbefore h hafter) (ih hrest)

theorem SaysEntries.surrounded {texts items : List (List Char)} {es : Entries}
    (h : SaysEntries items es) (htexts : List.Forall₂ Surrounds texts items) :
    SaysEntries texts es := by
  induction htexts generalizing es with
  | nil => exact h
  | cons hfirst _ ih =>
      obtain ⟨before, after, hbefore, hafter, rfl⟩ := hfirst
      cases h with
      | @cons key text name v _ _ hkey h hrest =>
          have hkey' : Says (before ++ key ++ []) (.text name) := .gap hbefore hkey nofun
          have h' : Says ([] ++ text ++ after) v := .gap nofun h hafter
          have hentry := SaysEntries.cons hkey' h' (ih hrest)
          simpa using hentry

/-! ## Values -/

mutual

theorem says_jsonText (level : Nat) : (v : Value) → Says (jsonText level v).toList v
  | .null => .null
  | .bool true => .yes
  | .bool false => .no
  | .int n => .int (denotes_intText n)
  | .float x => .float x
  | .text s => says_jsonQuoted s
  | .date _ => .date (says_jsonQuoted _)
  | .time _ => .time (says_jsonQuoted _)
  | .moment .. => .moment (says_jsonQuoted _)
  | .list vs => by
      obtain ⟨texts, hblock, hall⟩ := exists_jsonBlock_eq "[" "]" level (jsonItems (level + 1) vs)
      have hitems := saysItems_jsonItems (level + 1) vs
      rw [jsonText, hblock]
      exact .list (hitems.surrounded hall)
  | .table es => by
      obtain ⟨texts, hblock, hall⟩ :=
        exists_jsonBlock_eq "\x7b" "\x7d" level (jsonEntries (level + 1) es)
      have hentries := saysEntries_jsonEntries (level + 1) es
      rw [jsonText, hblock]
      exact .table (hentries.surrounded hall)

theorem saysItems_jsonItems (level : Nat) :
    (vs : List Value) → SaysItems ((jsonItems level vs).map String.toList) vs
  | [] => .nil
  | v :: vs => .cons (says_jsonText level v) (saysItems_jsonItems level vs)

theorem saysEntries_jsonEntries (level : Nat) :
    (es : Entries) → SaysEntries ((jsonEntries level es).map String.toList) es
  | [] => .nil
  | (name, v) :: es => by
      have htext : Says ([' '] ++ (jsonText level v).toList ++ []) v :=
        .gap (by simp [IsGap]) (says_jsonText level v) nofun
      have h := SaysEntries.cons (says_jsonQuoted name) htext (saysEntries_jsonEntries level es)
      simpa [jsonEntries] using h

end

/-! ## Reports -/

end Json

end Nesting
