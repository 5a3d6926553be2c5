import Nesting.Pattern.Tree

/-!
# Matching

A tree is matched against the text around a *place*, passing the place behind the match on to what
comes next; when that fails, the next way to match is tried. `Tree.matchAt` is that search, by
recursion on the tree. A repetition ends because a round that takes up no character is the last
one, so that every further round starts at a place with less text ahead.
-/

namespace Nesting

/-- A place in a text, and the texts that groups have captured on the way to it. -/
structure Place where
  /-- The characters before the place, the last one first. -/
  before : List Char
  after : List Char
  captures : List (Nat × List Char)
  deriving DecidableEq, Repr

namespace Place

def start (text : List Char) : Place := ⟨[], text, []⟩

def captured? (p : Place) (group : Nat) : Option (List Char) :=
  (p.captures.find? (·.1 == group)).map (·.2)

/-- The place after the next character. -/
def step (p : Place) (c : Char) (rest : List Char) : Place :=
  { p with before := c :: p.before, after := rest }

/-- The place that is some characters back. -/
def back? (p : Place) (n : Nat) : Option Place :=
  if p.before.length < n then none
  else
    some { p with before := p.before.drop n, after := (p.before.take n).reverse ++ p.after }

/-- The place `q` with the text from `p` to it captured. -/
def capture (p q : Place) (group : Nat) : Place :=
  { q with captures := (group, p.after.take (p.after.length - q.after.length)) :: q.captures }

end Place

namespace Anchor

/-- Whether a character on one side of a place is part of a word. -/
def isWordSide (ascii : Bool) : List Char → Bool
  | [] => false
  | c :: _ => Category.word.holds ascii c

def atBoundary (ascii : Bool) (p : Place) : Bool :=
  isWordSide ascii p.before != isWordSide ascii p.after

/-- Whether the text around a place is empty. -/
def inEmpty (p : Place) : Bool :=
  p.before.isEmpty && p.after.isEmpty

/-- Whether an anchor holds at a place. The end of a line is also in front of the line feed that
ends the text, and an empty text has neither word boundaries nor places without one. -/
def holds (f : Flags) (p : Place) : Anchor → Bool
  | lineStart =>
    match p.before with
    | [] => true
    | c :: _ => f.multiline && c == '\n'
  | lineEnd =>
    match p.after with
    | [] => true
    | c :: rest => c == '\n' && (f.multiline || rest.isEmpty)
  | textStart => p.before.isEmpty
  | textEnd => p.after.isEmpty
  | wordBoundary => !inEmpty p && atBoundary f.ascii p
  | noWordBoundary => !inEmpty p && !atBoundary f.ascii p

end Anchor

/-- What is asked of the place behind a match: a place further on, if all goes well. -/
abbrev Goal := Place → Option Place

namespace Goal

/-- Goals that are met where they are asked. -/
def here : Goal := some

/-- Ask for `step` as if nothing came after it. -/
def once (step : Place → Goal → Option Place) (p : Place) (k : Goal) : Option Place :=
  (step p here).bind k

/-- Ask for `step` a fixed number of times. -/
def times (step : Place → Goal → Option Place) : Nat → Place → Goal → Option Place
  | 0, p, k => k p
  | n + 1, p, k => step p fun q => times step n q k

/-- The number of rounds left after one. -/
def oneLess (limit : Option Nat) : Option Nat :=
  limit.map (· - 1)

/-- Ask for `step` as many times as possible, and for fewer times if the goal is not met then. -/
def greedy (step : Place → Goal → Option Place) (limit : Option Nat) (p : Place) (k : Goal) :
    Option Place :=
  if limit = some 0 then k p
  else
    (step p fun q =>
      if q.after.length < p.after.length then greedy step (oneLess limit) q k else k q)
      <|> k p
termination_by p.after.length

/-- Ask for `step` as few times as possible, and for more times if the goal is not met then. -/
def lazy (step : Place → Goal → Option Place) (limit : Option Nat) (p : Place) (k : Goal) :
    Option Place :=
  k p <|>
    if limit = some 0 then none
    else
      step p fun q =>
        if q.after.length < p.after.length then lazy step (oneLess limit) q k else k q
termination_by p.after.length

/-- Ask for `step` as many times as possible, each time as if nothing came after it. -/
def possessive (step : Place → Goal → Option Place) (limit : Option Nat) (p : Place) : Place :=
  if limit = some 0 then p
  else
    match step p here with
    | none => p
    | some q =>
      if q.after.length < p.after.length then possessive step (oneLess limit) q else q
termination_by p.after.length

end Goal

def sameChar (f : Flags) (a b : Char) : Bool :=
  if f.ignoreCase then foldCode f.ascii a.toNat == foldCode f.ascii b.toNat else a == b

/-- The place behind a text, if the text comes next. -/
def Place.skip? (f : Flags) (p : Place) : List Char → Option Place
  | [] => some p
  | c :: cs =>
    match p.after with
    | [] => none
    | d :: rest => if sameChar f c d then (p.step d rest).skip? f cs else none

/-- Match a tree at a place, and then what is asked of the place behind the match. -/
def Tree.matchAt : Tree → Flags → Place → Goal → Option Place
  | .empty, _, p, k => k p
  | .one set, f, p, k =>
    match p.after with
    | [] => none
    | c :: rest => if set.holds f c then k (p.step c rest) else none
  | .seq a b, f, p, k => a.matchAt f p fun q => b.matchAt f q k
  | .alt a b, f, p, k => a.matchAt f p k <|> b.matchAt f p k
  | .loop greed least most body, f, p, k =>
    let step := body.matchAt f
    let limit := most.map (· - least)
    match greed with
    | .greedy => Goal.times step least p fun q => Goal.greedy step limit q k
    | .lazy => Goal.times step least p fun q => Goal.lazy step limit q k
    | .possessive =>
      Goal.times (Goal.once step) least p fun q => k (Goal.possessive step limit q)
  | .capture group body, f, p, k => body.matchAt f p fun q => k (p.capture q group)
  | .scoped on off unicode body, f, p, k => body.matchAt (f.within on off unicode) p k
  | .backref group, f, p, k =>
    match p.captured? group with
    | none => none
    | some text => (p.skip? f text).bind k
  | .ahead positive body, f, p, k =>
    match body.matchAt f p Goal.here with
    | some q => if positive then k { p with captures := q.captures } else none
    | none => if positive then none else k p
  | .behind positive width body, f, p, k =>
    match (p.back? width).bind fun q => body.matchAt f q Goal.here with
    | some q => if positive then k { p with captures := q.captures } else none
    | none => if positive then none else k p
  | .atomic body, f, p, k => Goal.once (body.matchAt f) p k
  | .anchor a, f, p, k => if a.holds f p then k p else none
  | .choice group yes no, f, p, k =>
    if (p.captured? group).isSome then yes.matchAt f p k else no.matchAt f p k

/-- Whether a tree matches at a place or at a later one. -/
def Tree.matchFrom (t : Tree) (f : Flags) (before : List Char) : List Char → Bool
  | [] => (t.matchAt f ⟨before, [], []⟩ Goal.here).isSome
  | c :: rest =>
    (t.matchAt f ⟨before, c :: rest, []⟩ Goal.here).isSome || t.matchFrom f (c :: before) rest

end Nesting
