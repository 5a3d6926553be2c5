import Nesting.Binary64

/-!
# Arithmetic for averages

The averages of a listing are computed in doubles, and the laws about them are stated for exact
quotients. Both are number systems with the four operations in which every whole number has a
value.
-/

namespace Nesting

class Arithmetic (α : Type) extends Add α, Sub α, Mul α, Div α where
  ofInt : Int → α

/-- Doubles: a whole number stands for the double nearest to it. -/
instance : Arithmetic Float where
  ofInt := Binary64.nearestInt

instance : Arithmetic Rat where
  ofInt n := n

end Nesting
