/-!
# Rounding a quotient

The nearest whole number to a quotient of naturals, with the rule for a quotient that lies half way
between two whole numbers as a parameter. `roundDiv` never leaves the nearest whole number:
`roundDiv_den_le` and `le_roundDiv_den` bound it by half a unit on either side.
-/

namespace Nesting

/-- Where a quotient goes that is half way between two whole numbers. -/
inductive Tie where
  | toEven
  | awayFromZero
  deriving DecidableEq, Repr

/-- The whole number nearest to `num / den`. -/
def roundDiv (tie : Tie) (num den : Nat) : Nat :=
  let q := num / den
  let r := num % den
  if 2 * r < den then q
  else if den < 2 * r then q + 1
  else match tie with
    | .toEven => q + q % 2
    | .awayFromZero => q + 1

theorem roundDiv_den_le (tie : Tie) (num : Nat) {den : Nat} (h : 0 < den) :
    2 * (roundDiv tie num den * den) ≤ 2 * num + den := by
  have hq := Nat.div_add_mod num den
  have hr := Nat.mod_lt num h
  have hp := Nat.mod_lt (num / den) (y := 2) (by omega)
  have hc := Nat.mul_comm den (num / den)
  have hs : (num / den + 1) * den = num / den * den + den := by rw [Nat.add_mul, Nat.one_mul]
  simp only [roundDiv]
  split
  · omega
  · split
    · omega
    · cases tie
      · have : num / den % 2 = 0 ∨ num / den % 2 = 1 := by omega
        rcases this with e | e <;> rw [e] <;> simp only [Nat.add_zero] <;> omega
      · dsimp only
        omega

theorem le_roundDiv_den (tie : Tie) (num : Nat) {den : Nat} (h : 0 < den) :
    2 * num ≤ 2 * (roundDiv tie num den * den) + den := by
  have hq := Nat.div_add_mod num den
  have hr := Nat.mod_lt num h
  have hc := Nat.mul_comm den (num / den)
  have hs : (num / den + 1) * den = num / den * den + den := by rw [Nat.add_mul, Nat.one_mul]
  simp only [roundDiv]
  split
  · omega
  · split
    · omega
    · cases tie
      · have : num / den % 2 = 0 ∨ num / den % 2 = 1 := by omega
        rcases this with e | e <;> rw [e] <;> simp only [Nat.add_zero] <;> omega
      · dsimp only
        omega

/-- A tie that goes away from zero does not go downwards. -/
theorem lt_roundDiv_den (num : Nat) {den : Nat} (h : 0 < den) :
    2 * num < 2 * (roundDiv .awayFromZero num den * den) + den := by
  have hq := Nat.div_add_mod' num den
  have hr := Nat.mod_lt num h
  have hs : (num / den + 1) * den = num / den * den + den := Nat.succ_mul _ _
  simp only [roundDiv]
  split
  · omega
  · split <;> omega

theorem roundDiv_one (tie : Tie) (n : Nat) : roundDiv tie n 1 = n := by
  simp [roundDiv, Nat.mod_one]

theorem roundDiv_pos (tie : Tie) {num den : Nat} (hden : 0 < den) (h : den ≤ num) :
    0 < roundDiv tie num den := by
  have hle := le_roundDiv_den tie num hden
  refine Nat.pos_of_ne_zero fun hzero => ?_
  rw [hzero, Nat.zero_mul] at hle
  omega

theorem roundDiv_le_of_le (tie : Tie) {num den c : Nat} (hden : 0 < den) (h : num ≤ c * den) :
    roundDiv tie num den ≤ c := by
  have hround := roundDiv_den_le tie num hden
  refine Nat.le_of_not_lt fun hmore => ?_
  have hmul := Nat.mul_le_mul_right den hmore
  rw [Nat.succ_mul] at hmul
  omega

end Nesting
