import Nesting.Text.Printable

/-!
# Quoted text

Text as messages quote it: between single quotes, or between double quotes when it holds a single
quote and no double one; the quote and the backslash behind a backslash, the line breaks and the tab
by their letters, and every unprintable character by its code point in hexadecimal.
-/

namespace Nesting

/-- A number in lower-case hexadecimal with at least `width` digits. -/
def hexText (width : Nat) (n : Nat) : List Char :=
  let ds := Nat.toDigits 16 n
  List.replicate (width - ds.length) '0' ++ ds

/-- The quote that a text is put between. -/
def quoteOf (s : List Char) : Char :=
  if s.contains '\'' && !s.contains '"' then '"' else '\''

/-- A character as it stands between quotes. -/
def quotedChar (quote c : Char) : List Char :=
  if c = quote ∨ c = '\\' then ['\\', c]
  else if c = '\t' then ['\\', 't']
  else if c = '\n' then ['\\', 'n']
  else if c = '\r' then ['\\', 'r']
  else if isPrintable c then [c]
  else if c.toNat ≤ 0xff then '\\' :: 'x' :: hexText 2 c.toNat
  else if c.toNat ≤ 0xffff then '\\' :: 'u' :: hexText 4 c.toNat
  else '\\' :: 'U' :: hexText 8 c.toNat

def quoted (s : String) : String :=
  let cs := s.toList
  let q := quoteOf cs
  String.ofList (q :: cs.flatMap (quotedChar q) ++ [q])

end Nesting
