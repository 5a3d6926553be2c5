import Nesting.Text.Blank
import Nesting.Text.Width

/-!
# Markup

Texts for a terminal are written with tags in square brackets that set a style. A tag starts with a
lower-case letter or one of three marks and holds no other opening bracket; backslashes in front of
a tag take it for plain text when they are odd in number, and count half. `escape` writes a text
so that its tags are plain text, `render` gives the plain text of a markup: styles are not shown.
An opening bracket loses the backslash in front of it even where it opens no tag.

A terminal has pictures for some codes: a code is a name between two colons, with no blank in it.
It is found within plain text, or within the text of one tag that is plain text: no code reaches
over the edge between them. `pictured` is the plain text with its pictures.
-/

namespace Nesting

namespace Markup

/-- The characters that a tag starts with. -/
def startsTag (c : Char) : Bool :=
  ('a' ≤ c && c ≤ 'z') || c == '#' || c == '/' || c == '@'

/-- What stands in a tag behind its first character, and what is left behind the tag. -/
def tagRest? : List Char → Option (List Char × List Char)
  | [] => none
  | ']' :: rest => some ([], rest)
  | '[' :: _ => none
  | c :: cs => (tagRest? cs).map fun (t, rest) => (c :: t, rest)

/-- A tag that comes first: what stands between its brackets, and what is left behind it. -/
def tag? : List Char → Option (List Char × List Char)
  | '[' :: c :: cs =>
    if startsTag c then (tagRest? cs).map fun (t, rest) => (c :: t, rest) else none
  | _ => none

/-- A part of a markup: a character, or a tag with the backslashes in front of it. -/
inductive Part where
  | plain (c : Char)
  | tag (slashes : Nat) (text : List Char)
  deriving DecidableEq, Repr

def Part.write : Part → List Char
  | plain c => [c]
  | tag n t => List.replicate n '\\' ++ '[' :: t ++ [']']

/-- The backslashes that a text starts with. -/
def leadingSlashes (s : List Char) : Nat :=
  (s.takeWhile (· == '\\')).length

theorem length_of_tagRest? {s t rest : List Char} (h : tagRest? s = some (t, rest)) :
    rest.length < s.length := by
  induction s generalizing t with
  | nil => simp [tagRest?] at h
  | cons c cs ih =>
    unfold tagRest? at h
    split at h
    · contradiction
    · next heq =>
      simp only [Option.some.injEq, Prod.mk.injEq] at h
      obtain ⟨rfl, rfl⟩ := List.cons.inj heq
      simp [h.2]
    · contradiction
    · next heq =>
      obtain ⟨rfl, rfl⟩ := List.cons.inj heq
      simp only [Option.map_eq_some_iff, Prod.mk.injEq, Prod.exists] at h
      obtain ⟨u, v, huv, -, rfl⟩ := h
      have := ih huv
      simp only [List.length_cons]
      omega

theorem length_of_tag? {s t rest : List Char} (h : tag? s = some (t, rest)) :
    rest.length < s.length := by
  unfold tag? at h
  split at h
  · split at h
    · simp only [Option.map_eq_some_iff, Prod.mk.injEq, Prod.exists] at h
      obtain ⟨u, v, huv, -, rfl⟩ := h
      have := length_of_tagRest? huv
      simp only [List.length_cons]
      omega
    · contradiction
  · contradiction

def parts (s : List Char) : List Part :=
  match _h : tag? (s.drop (leadingSlashes s)) with
  | some (t, rest) => .tag (leadingSlashes s) t :: parts rest
  | none =>
    match s with
    | [] => []
    | c :: cs => .plain c :: parts cs
termination_by s.length
decreasing_by
  · have := length_of_tag? _h
    simp only [List.length_drop] at this
    omega
  · simp

/-- A part written so that a tag is plain text. -/
def Part.escape : Part → Part
  | plain c => plain c
  | tag n t => tag (2 * n + 1) t

/-- Whether a text ends in one backslash and no more. -/
def endsInOneSlash (s : List Char) : Bool :=
  leadingSlashes s.reverse == 1

/-- Write a text so that its tags are plain text. A single backslash at the end is doubled, so that
it does not turn a tag behind it into plain text. -/
def escape (s : List Char) : List Char :=
  let t := (parts s).flatMap fun p => p.escape.write
  if endsInOneSlash t then t ++ ['\\'] else t

/-- The plain text of the parts of a markup. -/
def textOf : List Part → List Char
  | [] => []
  | .plain '\\' :: .plain '[' :: rest => '[' :: textOf rest
  | .plain c :: rest => c :: textOf rest
  | .tag n t :: rest =>
    List.replicate (n / 2) '\\' ++ (if n % 2 = 1 then '[' :: t ++ [']'] else []) ++ textOf rest

/-- The plain text of a markup. -/
def render (s : List Char) : List Char :=
  textOf (parts s)

end Markup

/-! ## Pictures -/

/-- What a terminal shows for codes, by their names. Brackets and backslashes are in no name. -/
structure Pictures where
  find? : String → Option String
  plain : ∀ name, find? name ≠ none → ∀ c ∈ name.toList, c ≠ '[' ∧ c ≠ '\\'

/-- No pictures at all. -/
def Pictures.none : Pictures := ⟨fun _ => .none, nofun⟩

namespace Markup

/-- Put the pictures for the codes in a text. `name?` is what stands behind the colon before it, if
that can be the start of a code. -/
def picture (pictures : Pictures) (name? : Option (List Char)) : List Char → List Char
  | [] => name?.elim [] (':' :: ·)
  | c :: rest =>
    match name? with
    | none => if c = ':' then picture pictures (some []) rest else c :: picture pictures none rest
    | some name =>
      if c = ':' then
        (pictures.find? (String.ofList name)).elim (':' :: name ++ [':']) String.toList
          ++ picture pictures none rest
      else if isBlank c then ':' :: name ++ c :: picture pictures none rest
      else picture pictures (some (name ++ [c])) rest

/-- Whether a part of a markup is a plain character. -/
def Part.isPlain : Part → Bool
  | plain _ => true
  | tag .. => false

/-- The plain text of some parts with its pictures. -/
def picturedText (pictures : Pictures) (ps : List Part) : List Char :=
  (ps.splitBy fun p q => p.isPlain && q.isPlain).flatMap fun run =>
    picture pictures none (textOf run)

/-- The plain text of a markup with its pictures. -/
def pictured (pictures : Pictures) (s : List Char) : List Char :=
  picturedText pictures (parts s)

end Markup

/-! ## On the terminal -/

/-- The controls that are never shown. -/
def isHiddenControl (c : Char) : Bool :=
  let n := c.toNat
  n == 0x07 || n == 0x08 || (0x0b ≤ n && n ≤ 0x0d)

/-- The columns between two tab stops. -/
def tabStop : Nat := 8

/-- A text with blanks for its tabs, from a column on. A tab leads to the next tab stop, and each
line starts at the first column. -/
def expandTabs (column : Nat) : List Char → List Char
  | [] => []
  | '\n' :: rest => '\n' :: expandTabs 0 rest
  | '\t' :: rest =>
    let n := tabStop - column % tabStop
    List.replicate n ' ' ++ expandTabs (column + n) rest
  | c :: rest => c :: expandTabs (column + charWidth c) rest

/-- A text as a terminal shows it. -/
def shown (s : List Char) : List Char :=
  expandTabs 0 (s.filter fun c => !isHiddenControl c)

/-- A markup as a terminal shows it that is wide enough, with the line feed behind it. -/
def printed (pictures : Pictures) (markup : List Char) : String :=
  String.ofList (shown (Markup.pictured pictures markup) ++ ['\n'])

end Nesting
