import Nesting.Pattern.Escape

/-!
# Reading a pattern

The grammar of patterns: alternatives of sequences, repetitions, groups of all kinds, and flags.
`readPattern` gives the tree, the flags for all of it, and the number of its groups, or the first
fault. Looks behind are measured after all else is read, so their faults come last.
-/

namespace Nesting

namespace Reading

/-! ## Flags -/

def isFlag (c : Char) : Bool :=
  "iLmsxatu".toList.contains c

/-- The letters of the flags that choose character classes. -/
def isClassFlag (c : Char) : Bool :=
  c == 'a' || c == 'u' || c == 'L'

/-- The flags for a list of letters. -/
def flagsOf (letters : List Char) : Flags where
  ignoreCase := letters.contains 'i'
  multiline := letters.contains 'm'
  dotAll := letters.contains 's'
  verbose := letters.contains 'x'
  ascii := letters.contains 'a'

/-- Find a fault at a token that is no flag. -/
def noFlag {α : Type} (expected : String) : Option Token → Reading α
  | none => failHere (.missing expected)
  | some t =>
    match t with
    | .plain c => if isLetter c then fail .unknownFlag 1 else fail (.missing expected) 1
    | .escape _ => fail (.missing expected) 2

/-- Read the flags to turn on, the first of which has been read, up to the mark after them. -/
def flagsOn : (fuel : Nat) → (c : Char) → (done : List Char) → Reading (List Char × Char)
  | 0, c, done => return (done, c)
  | fuel + 1, c, done => do
    if c = 'L' then failHere .localeFlag
    let done := c :: done
    if isClassFlag c ∧ done.any fun d => isClassFlag d && d != c then failHere .clashingFlags
    let t ← next
    match t with
    | some (.plain d) =>
      if d = ')' ∨ d = '-' ∨ d = ':' then return (done, d)
      else if isFlag d then flagsOn fuel d done
      else noFlag "-, : or )" t
    | _ => noFlag "-, : or )" t

/-- Read the flags to turn off, the first of which has been read, up to the colon after them. -/
def flagsOff : (fuel : Nat) → (c : Char) → (done : List Char) → Reading (List Char)
  | 0, _, done => return done
  | fuel + 1, c, done => do
    if isClassFlag c then failHere .classFlagOff
    let done := c :: done
    let t ← next
    match t with
    | some (.plain d) =>
      if d = ':' then return done
      else if isFlag d then flagsOff fuel d done
      else noFlag ":" t
    | _ => noFlag ":" t

/-- What a group of flags is for: all of the pattern, or the group it starts. -/
inductive FlagUse where
  | global (on : List Char)
  | group (on off : List Char)

/-- Read flags, the first character of which has been read. -/
def flagUse (c : Char) : Reading FlagUse := do
  let fuel := (← get).rest.length + 1
  let (on, mark) ← if c = '-' then pure ([], c) else flagsOn fuel c []
  if mark = ')' then return .global on
  if on.contains 't' then fail .globalFlagOn 1
  let off ←
    if mark = '-' then do
      let t ← next
      match t with
      | some (.plain d) => if isFlag d then flagsOff fuel d [] else noFlag "flag" t
      | _ => noFlag "flag" t
    else pure []
  if off.contains 't' then fail .globalFlagOff 1
  if on.any off.contains then fail .flagOnAndOff 1
  return .group on off

/-! ## Repetitions -/

/-- The least repeat count that is refused. -/
def repeatLimit : Nat := Nat.pow 2 32 - 1

/-- The number of a repeat count. -/
def repeatCount (ds : List Char) : Reading Nat := do
  if 4300 < ds.length then throw ⟨.repeatTooLong ds.length, none⟩
  let n := codeOf 10 ds
  if repeatLimit ≤ n then throw ⟨.repeatTooLarge, none⟩
  return n

/-- Read the bounds of a repetition behind its opening brace. What is no bounds is left where it
is: the brace then stands for itself. -/
def bounds? : Reading (Option (Nat × Option Nat)) := do
  let here ← get
  if here.peek = some (.plain '\x7d') then return none
  let low ← digits
  let high ← if ← accept ',' then digits else pure low
  if ← accept '\x7d' then
    let least ← if low = [] then pure 0 else repeatCount low
    if high = [] then return some (least, none)
    let most ← repeatCount high
    if most < least then failAt .crossedRepeat here.position
    return some (least, some most)
  else
    goTo here.rest here.position
    return none

/-- The bounds that a quantifier stands for. -/
def quantifier? (c : Char) : Reading (Option (Nat × Option Nat)) := do
  match c with
  | '?' => return some (0, some 1)
  | '*' => return some (0, none)
  | '+' => return some (1, none)
  | _ => if c = '\x7b' then bounds? else return none

/-- How the repetition chooses, by the mark behind its quantifier. -/
def greed : Reading Greed := do
  if ← accept '?' then return .lazy
  else if ← accept '+' then return .possessive
  else return .greedy

/-- Repeat the item read last. An anchor and a repetition are no items to repeat. -/
def repeatLast (position : Nat) (bounds : Nat × Option Nat) : List Tree → Reading (List Tree)
  | [] => failAt .nothingToRepeat position
  | .anchor _ :: _ => failAt .nothingToRepeat position
  | .loop .. :: _ => failAt .multipleRepeat position
  | item :: items => do
    return .loop (← greed) bounds.1 bounds.2 item :: items

/-! ## Groups -/

/-- Open a group, with the name that has just been read. -/
def openGroup (name? : Option (List Char)) : Reading Nat := do
  let r ← get
  let group := r.groups.length + 1
  match name? with
  | none => set { r with groups := r.groups ++ [none] }
  | some cs =>
    let name := String.ofList cs
    match r.names.find? (·.1 == name) with
    | some (_, earlier) => fail (.groupNameTaken name group earlier) (cs.length + 1)
    | none => set { r with groups := r.groups ++ [none], names := (name, group) :: r.names }
  return group

/-- The width of a tree, given the widths of the groups it refers to. -/
def widthOf (group : Nat → Width) : Tree → Width
  | .empty | .anchor _ | .ahead .. | .behind .. => .zero
  | .one _ => ⟨1, 1⟩
  | .seq a b => (widthOf group a).add (widthOf group b)
  | .alt a b => (widthOf group a).join (widthOf group b)
  | .loop _ least most body => (widthOf group body).times least most
  | .capture _ body | .scoped _ _ _ body | .atomic body => widthOf group body
  | .backref n => group n
  | .choice _ yes no => (widthOf group yes).join (widthOf group no)

def width (t : Tree) : Reading Width := do
  let r ← get
  return widthOf (fun n => (r.groupWidth? n).getD .zero) t

def closeGroup (group : Nat) (body : Tree) : Reading Unit := do
  let w ← width body
  modify fun r => { r with groups := r.groups.set (group - 1) (some w) }

def seqOf : List Tree → Tree
  | [] => .empty
  | [t] => t
  | t :: ts => .seq t (seqOf ts)

/-- The group a name stands for, which has just been read with the character behind it. -/
def namedGroup (name : List Char) : Reading Nat := do
  if !isName name then fail (.badGroupName (String.ofList name)) (name.length + 1)
  match (← get).names.find? (·.1 == String.ofList name) with
  | some (_, group) => return group
  | none => fail (.unknownGroupName (String.ofList name)) (name.length + 1)

/-- The groups that a pattern may have at most. -/
def maxGroups : Nat := Nat.pow 2 30 - 1

/-- The group that a condition asks for, by name or number. A number may be that of a group still
to come. -/
def condition : Reading Nat := do
  let name ← nameUntil ')' "group name"
  let group ←
    if isName name then namedGroup name
    else do
      let back := name.length + 1
      match if name.length ≤ 4300 then readInt? name else none with
      | none => fail (.badGroupName (String.ofList name)) back
      | some n =>
        if n < 0 then fail (.badGroupName (String.ofList name)) back
        let group := n.toNat
        if group = 0 then fail .badGroupNumber back
        if maxGroups ≤ group then fail (.unknownGroup group) back
        modify fun r =>
          if r.conditions.any (·.1 == group) then r
          else { r with conditions := r.conditions ++ [(group, r.position - back)] }
        pure group
  checkBehind group
  return group

def namedReference : Reading Tree := do
  let name ← nameUntil ')' "group name"
  let group ← namedGroup name
  if ((← get).groupWidth? group).isNone then fail .openGroup (name.length + 1)
  checkBehind group
  return .backref group

/-- Turn on flags for all of the pattern. -/
def turnOn (letters : List Char) : Reading Unit :=
  modify fun r =>
    { r with
      flags := r.flags.within (flagsOf letters) .none false
      unicode := r.unicode || letters.contains 'u'
      template := r.template || letters.contains 't' }

/-- What a parenthesis opens, apart from what is in it. -/
inductive Opening where
  | group (name? : Option (List Char))
  | scope (on off : List Char)
  | atomic
  | look (positive forward : Bool)
  | condition (group : Nat)
  | complete (t : Tree)
  | comment
  | flags

/-- Read what follows `(?<`. -/
def lookBehind : Reading Opening := do
  match ← next with
  | none => failHere .endOfPattern
  | some (.plain '=') => return .look true false
  | some (.plain '!') => return .look false false
  | some t => fail (.unknownExtension (String.ofList ('<' :: t.text))) (t.text.length + 2)

/-- Read what follows `(?P`. -/
def named : Reading Opening := do
  if ← accept '<' then
    let name ← nameUntil '>' "group name"
    if !isName name then fail (.badGroupName (String.ofList name)) (name.length + 1)
    return .group (some name)
  else if ← accept '=' then return .complete (← namedReference)
  else
    match ← next with
    | none => failHere .endOfPattern
    | some t => fail (.unknownExtension (String.ofList ('P' :: t.text))) (t.text.length + 2)

/-- Read how a group starts, behind the parenthesis at `start`. Flags for all of the pattern must
be what it starts with. -/
def opening (start : Nat) (atStart : Bool) : Reading Opening := do
  if !(← accept '?') then return .group none
  match ← next with
  | none => failHere .endOfPattern
  | some (.escape c) => fail (.unknownExtension (String.ofList ['\\', c])) 3
  | some (.plain c) =>
    match c with
    | 'P' => named
    | ':' => return .scope [] []
    | '#' =>
      if ← skipPast ')' ((← get).rest.length + 1) then return .comment
      else failAt .unterminatedComment start
    | '=' => return .look true true
    | '!' => return .look false true
    | '<' => lookBehind
    | '(' => return .condition (← condition)
    | '>' => return .atomic
    | _ =>
      if isFlag c || c = '-' then
        match ← flagUse c with
        | .global on =>
          turnOn on
          if atStart then return .flags else failAt .lateFlags start
        | .group on off => return .scope on off
      else fail (.unknownExtension (String.ofList [c])) 2

/-- Read the parenthesis that closes the group opened at `start`. -/
def close (start : Nat) : Reading Unit := do
  if !(← accept ')') then failAt .unterminatedGroup start

/-! ## Sequences and alternatives -/

/-- The blanks that a verbose pattern may hold. -/
def isFiller (t : Token) : Bool :=
  match t with
  | .plain c => isPlainBlank c
  | .escape _ => false

/-- Nothing that is read gives out the fuel, which bounds the tokens and the groups. -/
def outOfFuel {α : Type} : Reading α :=
  failHere .unbalanced

mutual

/-- Read alternatives up to the end or a closing parenthesis. At the top, flags read in one of them
are in force in the next. -/
def alternatives : (fuel : Nat) → (verbose top first : Bool) → Reading Tree
  | 0, _, _, _ => outOfFuel
  | fuel + 1, verbose, top, first => do
    let a ← sequence fuel verbose (top && first) []
    if ← accept '|' then
      let r ← get
      return .alt a (← alternatives fuel (if top then r.flags.verbose else verbose) top false)
    else return a

/-- Read items up to a bar, the end or a closing parenthesis. `done` are the items read so far, the
last one first. -/
def sequence : (fuel : Nat) → (verbose first : Bool) → (done : List Tree) → Reading Tree
  | 0, _, _, _ => outOfFuel
  | fuel + 1, verbose, first, done => do
    let start := (← get).position
    match ← peek with
    | none | some (.plain '|') | some (.plain ')') => return seqOf done.reverse
    | some t =>
      discard next
      if verbose && isFiller t then sequence fuel verbose first done
      else
        match t with
        | .escape c => sequence fuel verbose first ((← escape c) :: done)
        | .plain c =>
          match c with
          | '[' => sequence fuel verbose first ((← charSet) :: done)
          | '.' => sequence fuel verbose first (.one .any :: done)
          | '^' => sequence fuel verbose first (.anchor .lineStart :: done)
          | '$' => sequence fuel verbose first (.anchor .lineEnd :: done)
          | '(' =>
            match ← opening start (first && done.isEmpty) with
            | .comment => sequence fuel verbose first done
            | .flags => sequence fuel (← get).flags.verbose first done
            | .complete t => sequence fuel verbose first (t :: done)
            | o => sequence fuel verbose first ((← groupBody fuel verbose start o) :: done)
          | _ =>
            if verbose && c = '#' then
              discard (skipPast '\n' ((← get).rest.length + 1))
              sequence fuel verbose first done
            else
              match ← quantifier? c with
              | some bounds =>
                sequence fuel verbose first (← repeatLast start bounds done)
              | none => sequence fuel verbose first (.one (.code c.toNat) :: done)

/-- Read what is in a group, and the parenthesis that closes it. -/
def groupBody : (fuel : Nat) → (verbose : Bool) → (start : Nat) → Opening → Reading Tree
  | 0, _, _, _ => outOfFuel
  | fuel + 1, verbose, start, o => do
    match o with
    | .group name? =>
      let group ← openGroup name?
      let body ← alternatives fuel verbose false false
      close start
      closeGroup group body
      return .capture group body
    | .scope on off =>
      let on' := flagsOf on
      let off' := flagsOf off
      let body ← alternatives fuel ((verbose || on'.verbose) && !off'.verbose) false false
      close start
      return .scoped on' off' (on.contains 'u') body
    | .atomic =>
      let body ← alternatives fuel verbose false false
      close start
      return .atomic body
    | .look positive true =>
      let body ← alternatives fuel verbose false false
      close start
      return .ahead positive body
    | .look positive false =>
      let before := (← get).behindFrom
      modify fun r => { r with behindFrom := some (before.getD r.groups.length) }
      let body ← alternatives fuel verbose false false
      modify fun r => { r with behindFrom := before }
      close start
      return .behind positive (← width body).least body
    | .condition group =>
      let yes ← sequence fuel verbose false []
      let no ←
        if ← accept '|' then do
          let no ← sequence fuel verbose false []
          if (← peek) = some (.plain '|') then failHere .tooManyBranches
          pure no
        else pure .empty
      close start
      return .choice group yes no
    | .complete t => return t
    | .comment | .flags => return .empty

end

end Reading

/-! ## Whole patterns -/

/-- How faults name a repetition that is not allowed. -/
def Greed.word : Greed → String
  | .greedy => "MAX_REPEAT"
  | .lazy => "MIN_REPEAT"
  | .possessive => "POSSESSIVE_REPEAT"

/-- The first part of a tree that is well formed but can not be matched: a look behind of no fixed
width, or a repetition where repetitions are forbidden. -/
def Tree.unusable? (width : Tree → Width) (template : Bool) : Tree → Option PatternCause
  | .empty | .one _ | .anchor _ | .backref _ => none
  | .seq a b | .alt a b | .choice _ a b =>
    (a.unusable? width template).or (b.unusable? width template)
  | .loop greed _ _ body =>
    if template then some (.repeatInTemplate greed.word) else body.unusable? width template
  | .capture _ body | .scoped _ _ _ body | .atomic body | .ahead _ body =>
    body.unusable? width template
  | .behind _ _ body =>
    let w := width body
    if Width.lookLimit ≤ w.least then some .deepLookbehind
    else if w.least ≠ w.most then some .variableLookbehind
    else body.unusable? width template

/-- What is asked of a pattern after its last character. -/
def Reader.checkWhole (r : Reader) (t : Tree) : Except PatternFault Unit := do
  if r.flags.ascii && r.unicode then throw ⟨.asciiAndUnicode, none⟩
  if r.peek.isSome then throw ⟨.unbalanced, some r.position⟩
  match r.conditions.find? (r.groups.length < ·.1) with
  | some (group, position) => throw ⟨.unknownGroup group, some position⟩
  | none => pure ()
  match t.unusable? (Reading.widthOf fun n => (r.groupWidth? n).getD .zero) r.template with
  | some cause => throw ⟨cause, none⟩
  | none => pure ()

def readPattern (characters : CharacterNames) (pattern : List Char) :
    Except PatternFault (Tree × Flags) := do
  checkEnd pattern 0
  let (t, r) ← (Reading.alternatives (4 * pattern.length + 4) false true true).run
    { rest := pattern, position := 0, characters }
  r.checkWhole t
  return (t, { r.flags with template := r.template })

end Nesting
