import Nesting.Decimal.Layout
import Nesting.Text.Quoted

/-!
# Reading octets as text

Octets are cut into characters of UTF-8 and into parts that are none. A part that is no character is
as long as it can still be the start of one. `decodeLossy` puts one replacement character for each
such part, `decodeStrict` stops at the first and tells where it is.
-/

namespace Nesting

/-- What is wrong with octets that are no character. -/
inductive OctetCause where
  | badStart
  | badContinuation
  | endOfData
  deriving DecidableEq, Repr

namespace OctetCause

def text : OctetCause → String
  | badStart => "invalid start byte"
  | badContinuation => "invalid continuation byte"
  | endOfData => "unexpected end of data"

end OctetCause

/-- A character, or octets that are none. -/
inductive OctetPart where
  | char (c : Char) (size : Nat)
  | bad (cause : OctetCause) (first : UInt8) (size : Nat)
  deriving DecidableEq, Repr

namespace OctetPart

def size : OctetPart → Nat
  | char _ n => n
  | bad _ _ n => n

end OctetPart

/-- What a first octet asks for: how many octets follow, between which bounds the first of those
is, and what the octet adds to the code point. -/
structure OctetLead where
  tail : Nat
  low : Nat
  high : Nat
  bits : Nat
  deriving DecidableEq, Repr

/-- What a first octet asks for, if it can be a first octet. The bounds leave out longer forms than
needed, surrogates, and code points past the last. -/
def octetLead? (b : Nat) : Option OctetLead :=
  if b < 0x80 then some ⟨0, 0, 0, b⟩
  else if b < 0xc2 then none
  else if b < 0xe0 then some ⟨1, 0x80, 0xbf, b - 0xc0⟩
  else if b < 0xf0 then
    some ⟨2, if b = 0xe0 then 0xa0 else 0x80, if b = 0xed then 0x9f else 0xbf, b - 0xe0⟩
  else if b < 0xf5 then
    some ⟨3, if b = 0xf0 then 0x90 else 0x80, if b = 0xf4 then 0x8f else 0xbf, b - 0xf0⟩
  else none

/-- The octets, at most as many as wanted, that continue a character. -/
def continuations (low high : Nat) : (wanted : Nat) → List UInt8 → List Nat
  | 0, _ | _, [] => []
  | wanted + 1, b :: rest =>
    if low ≤ b.toNat && b.toNat ≤ high then b.toNat :: continuations 0x80 0xbf wanted rest else []

/-- The part that octets start with. -/
def firstPart (b : UInt8) (rest : List UInt8) : OctetPart :=
  match octetLead? b.toNat with
  | none => .bad .badStart b 1
  | some l =>
    let tail := continuations l.low l.high l.tail rest
    if tail.length = l.tail then
      .char (Char.ofNat (tail.foldl (fun n t => n * 64 + (t - 0x80)) l.bits)) (tail.length + 1)
    else if tail.length = rest.length then .bad .endOfData b (tail.length + 1)
    else .bad .badContinuation b (tail.length + 1)

def octetParts : List UInt8 → List OctetPart
  | [] => []
  | b :: rest =>
    let p := firstPart b rest
    p :: octetParts (rest.drop (p.size - 1))
termination_by bytes => bytes.length
decreasing_by
  simp only [List.length_drop, List.length_cons]
  omega

/-- The character that stands for octets that are none. -/
def replacement : Char := '\ufffd'

/-- Read octets, with a replacement for each part that is no character. -/
def decodeLossy (bytes : List UInt8) : List Char :=
  (octetParts bytes).map fun
    | .char c _ => c
    | .bad .. => replacement

/-- Where octets are no text, and why. -/
structure OctetFault where
  cause : OctetCause
  first : UInt8
  position : Nat
  size : Nat
  deriving DecidableEq, Repr

namespace OctetFault

def message (f : OctetFault) : String :=
  "'utf-8' codec can't decode " ++
    (if f.size = 1 then
      "byte 0x" ++ String.ofList (hexText 2 f.first.toNat) ++ " in position " ++ intText f.position
    else
      "bytes in position " ++ intText f.position ++ "-" ++ intText (f.position + f.size - 1)) ++
    ": " ++ f.cause.text

end OctetFault

/-- The characters of parts that start at a position, if all of them are characters. -/
def partChars (position : Nat) : List OctetPart → Except OctetFault (List Char)
  | [] => .ok []
  | .char c n :: rest => (partChars (position + n) rest).map (c :: ·)
  | .bad cause first n :: _ => .error ⟨cause, first, position, n⟩

/-- Read octets that are text. -/
def decodeStrict (bytes : List UInt8) : Except OctetFault (List Char) :=
  partChars 0 (octetParts bytes)

/-- A text with all line ends written as line feeds. -/
def plainLineEnds : List Char → List Char
  | [] => []
  | '\r' :: '\n' :: rest => '\n' :: plainLineEnds rest
  | c :: rest => (if c = '\r' then '\n' else c) :: plainLineEnds rest

end Nesting
