import LinearProgram.Number.Scalar

namespace LinearProgram

structure Fraction64 where
  value : Rat
  num_lt : value.num.natAbs < Nat.pow 2 64
  den_lt : value.den < Nat.pow 2 64
deriving DecidableEq

namespace Fraction64

def ofRat? (value : Rat) : Option Fraction64 :=
  if fits : value.num.natAbs < Nat.pow 2 64 ∧ value.den < Nat.pow 2 64 then
    some ⟨value, fits.1, fits.2⟩
  else none

def fit (value : Rat) : Except Overflow Fraction64 :=
  match ofRat? value with
  | some fraction => .ok fraction
  | none => .error .multiply

def neg (a : Fraction64) : Fraction64 :=
  ⟨-a.value, by simpa using a.num_lt, by simpa using a.den_lt⟩

/-- A quotient is formed after cancelling common factors, so it fails only if it has no room in
lowest terms. -/
def divide (a b : Fraction64) : Except Overflow Fraction64 :=
  fit (a.value / b.value)

/-- A difference is formed over the least common denominator. Both numerators over it, their sum if
the signs differ, and the denominator itself need room before anything is cancelled. -/
def subtract (a b : Fraction64) : Except Overflow Fraction64 :=
  let common := a.value.den.gcd b.value.den
  let left := a.value.num.natAbs * (b.value.den / common)
  let right := b.value.num.natAbs * (a.value.den / common)
  if Nat.pow 2 64 ≤ left ∨ Nat.pow 2 64 ≤ right then .error .multiply
  else if a.value.num * b.value.num < 0 ∧ Nat.pow 2 64 ≤ left + right then .error .add
  else if Nat.pow 2 64 ≤ a.value.den / common * b.value.den then .error .multiply
  else fit (a.value - b.value)

instance : Scalar Fraction64 where
  zero := ⟨0, by decide, by decide⟩
  one := ⟨1, by decide, by decide⟩
  neg := neg
  eq a b := a.value == b.value
  lt a b := decide (a.value < b.value)
  le a b := decide (a.value ≤ b.value)
  divide := divide
  subtract := subtract
  render a := Rational.render a.value
  parse? text := (Rational.parse? text).bind ofRat?

theorem natAbs_num_mkRat_le (n : Int) (d : Nat) : (mkRat n d).num.natAbs ≤ n.natAbs := by
  rw [Rat.num_mkRat]
  split
  · simp
  · exact Int.natAbs_ediv_le_natAbs _ _

theorem den_mkRat_le (n : Int) {d : Nat} (hd : 0 < d) : (mkRat n d).den ≤ d := by
  rw [Rat.den_mkRat]
  split
  · omega
  · exact Nat.div_le_self _ _

def ofDecimal (decimal : Decimal) : Fraction64 where
  value := decimal.value
  num_lt := by
    refine Nat.lt_of_le_of_lt (natAbs_num_mkRat_le _ _) ?_
    rw [decimal.natAbs_numerator]
    exact Nat.lt_of_le_of_lt decimal.digits_le (by decide)
  den_lt := Nat.lt_of_le_of_lt (den_mkRat_le _ decimal.denominator_pos) decimal.denominator_lt

instance : Literal Fraction64 where
  read text := (Decimal.read text).map ofDecimal

end Fraction64

end LinearProgram
