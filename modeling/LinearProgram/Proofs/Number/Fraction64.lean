import LinearProgram.Number.Fraction64
import LinearProgram.Proofs.Outcome
import LinearProgram.Proofs.Number.Scalar
import Mathlib.Algebra.Order.Ring.Int
import Mathlib.Data.Nat.Cast.Field
import Mathlib.Tactic.Ring

namespace LinearProgram.Fraction64

def Fits (value : Rat) : Prop :=
  value.num.natAbs < Nat.pow 2 64 ∧ value.den < Nat.pow 2 64

instance (value : Rat) : Decidable (Fits value) :=
  inferInstanceAs (Decidable (_ ∧ _))

theorem fit_eq_ok {value : Rat} {fraction : Fraction64} :
    fit value = .ok fraction ↔ fraction.value = value := by
  unfold fit ofRat?
  by_cases room : value.num.natAbs < Nat.pow 2 64 ∧ value.den < Nat.pow 2 64
  · simp only [room, and_self, ↓reduceDIte, Except.ok.injEq]
    constructor
    · intro same
      rw [← same]
    · intro same
      cases fraction
      subst same
      rfl
  · simp only [room, ↓reduceDIte, reduceCtorEq, false_iff]
    intro same
    rw [← same] at room
    exact room ⟨fraction.num_lt, fraction.den_lt⟩

theorem exists_value_iff {value : Rat} :
    (∃ fraction : Fraction64, fraction.value = value) ↔ Fits value := by
  constructor
  · intro existing
    obtain ⟨fraction, rfl⟩ := existing
    exact ⟨fraction.num_lt, fraction.den_lt⟩
  · intro fits
    exact ⟨⟨value, fits.1, fits.2⟩, rfl⟩

variable {a b c : Fraction64}

theorem divide_eq_ok : divide a b = .ok c ↔ c.value = a.value / b.value :=
  fit_eq_ok

def numeratorOver (a : Fraction64) (denominator : Nat) : Nat :=
  a.value.num.natAbs * (denominator / a.value.den)

def commonDenominator (a b : Fraction64) : Nat :=
  a.value.den.lcm b.value.den

/-- Whether the least common denominator of two fractions, the numerators of both over it and, if
their signs differ, the sum of these have room in 64 bits. -/
structure HaveDifference (a b : Fraction64) : Prop where
  denominator : commonDenominator a b < Nat.pow 2 64
  upper : a.numeratorOver (commonDenominator a b) < Nat.pow 2 64
  lower : b.numeratorOver (commonDenominator a b) < Nat.pow 2 64
  total : a.value.num * b.value.num < 0 →
    a.numeratorOver (commonDenominator a b) + b.numeratorOver (commonDenominator a b) < Nat.pow 2 64

theorem commonDenominator_div_left (a b : Fraction64) :
    commonDenominator a b / a.value.den = b.value.den / a.value.den.gcd b.value.den := by
  unfold commonDenominator Nat.lcm
  rw [Nat.mul_div_assoc _ (Nat.gcd_dvd_right _ _), Nat.mul_div_cancel_left _ a.value.den_pos]

theorem commonDenominator_div_right (a b : Fraction64) :
    commonDenominator a b / b.value.den = a.value.den / a.value.den.gcd b.value.den := by
  unfold commonDenominator
  rw [Nat.lcm_comm, Nat.gcd_comm]
  exact commonDenominator_div_left b a

theorem commonDenominator_eq (a b : Fraction64) :
    commonDenominator a b = a.value.den / a.value.den.gcd b.value.den * b.value.den := by
  unfold commonDenominator Nat.lcm
  rw [Nat.mul_comm, Nat.mul_div_assoc _ (Nat.gcd_dvd_left _ _), Nat.mul_comm]

/-- The difference as a fraction over the common denominator, before anything is cancelled. -/
theorem sub_eq_mkRat (a b : Fraction64) :
    a.value - b.value = mkRat
      (a.value.num * (commonDenominator a b / a.value.den : Nat) -
        b.value.num * (commonDenominator a b / b.value.den : Nat)) (commonDenominator a b) := by
  have positive : (0 : Rat) < commonDenominator a b := by
    exact_mod_cast Nat.lcm_pos a.value.den_pos b.value.den_pos
  have scaled (x : Fraction64) (divides : x.value.den ∣ commonDenominator a b) :
      x.value * commonDenominator a b =
        x.value.num * ((commonDenominator a b / x.value.den : Nat) : Rat) := by
    have nonzero : (x.value.den : Rat) ≠ 0 := Nat.cast_ne_zero.mpr x.value.den_nz
    rw [Nat.cast_div divides nonzero]
    conv_lhs => rw [← Rat.num_div_den x.value]
    ring
  have left := scaled a (Nat.dvd_lcm_left _ _)
  have right := scaled b (Nat.dvd_lcm_right _ _)
  rw [Rat.mkRat_eq_div, eq_div_iff positive.ne', sub_mul, left, right, Int.cast_sub, Int.cast_mul,
    Int.cast_mul, Int.cast_natCast, Int.cast_natCast]

theorem HaveDifference.fits (room : HaveDifference a b) : Fits (a.value - b.value) := by
  rw [sub_eq_mkRat]
  have positive : 0 < commonDenominator a b := Nat.lcm_pos a.value.den_pos b.value.den_pos
  constructor
  · refine Nat.lt_of_le_of_lt (natAbs_num_mkRat_le _ _) ?_
    have upper := room.upper
    have lower := room.lower
    have total := room.total
    unfold numeratorOver at upper lower total
    rw [← Int.natAbs_natCast (commonDenominator a b / a.value.den), ← Int.natAbs_mul]
      at upper total
    rw [← Int.natAbs_natCast (commonDenominator a b / b.value.den), ← Int.natAbs_mul]
      at lower total
    by_cases differ : a.value.num * b.value.num < 0
    · have sum := total differ
      omega
    · -- Numbers of one sign differ by no more than the larger of them.
      have sameSign : 0 ≤ a.value.num * (commonDenominator a b / a.value.den : Nat) *
          (b.value.num * (commonDenominator a b / b.value.den : Nat)) := by
        have product : 0 ≤ a.value.num * b.value.num := by omega
        calc (0 : Int)
          _ ≤ a.value.num * b.value.num * ((commonDenominator a b / a.value.den : Nat) *
              (commonDenominator a b / b.value.den : Nat)) :=
            Int.mul_nonneg product (Int.mul_nonneg (Int.natCast_nonneg _) (Int.natCast_nonneg _))
          _ = _ := by ring
      rcases Int.mul_nonneg_iff.mp sameSign with both | both
      · omega
      · omega
  · exact Nat.lt_of_le_of_lt (den_mkRat_le _ positive) room.denominator

theorem subtract_eq_ok :
    subtract a b = .ok c ↔ HaveDifference a b ∧ c.value = a.value - b.value := by
  have left : a.value.num.natAbs * (b.value.den / a.value.den.gcd b.value.den) =
      a.numeratorOver (commonDenominator a b) := by
    rw [numeratorOver, commonDenominator_div_left]
  have right : b.value.num.natAbs * (a.value.den / a.value.den.gcd b.value.den) =
      b.numeratorOver (commonDenominator a b) := by
    rw [numeratorOver, commonDenominator_div_right]
  simp only [subtract, left, right, ← commonDenominator_eq]
  constructor
  · intro subtracted
    split at subtracted
    · cases subtracted
    · rename_i numerators
      split at subtracted
      · cases subtracted
      · rename_i total
        split at subtracted
        · cases subtracted
        · rename_i denominator
          refine ⟨⟨by omega, by omega, by omega, ?_⟩, fit_eq_ok.mp subtracted⟩
          intro differ
          by_contra large
          exact total ⟨differ, by omega⟩
  · intro given
    obtain ⟨room, value⟩ := given
    have upper := room.upper
    have lower := room.lower
    have denominator := room.denominator
    have total : ¬ (a.value.num * b.value.num < 0 ∧ Nat.pow 2 64 ≤
        a.numeratorOver (commonDenominator a b) + b.numeratorOver (commonDenominator a b)) := by
      intro large
      have sum := room.total large.1
      omega
    rw [if_neg (by omega), if_neg total, if_neg (by omega)]
    exact fit_eq_ok.mpr value

theorem exists_divide_iff : (∃ c, divide a b = .ok c) ↔ Fits (a.value / b.value) := by
  simp only [divide_eq_ok, exists_value_iff]

theorem exists_subtract_iff : (∃ c, subtract a b = .ok c) ↔ HaveDifference a b := by
  simp only [subtract_eq_ok, exists_and_left, exists_value_iff]
  constructor
  · intro given
    exact given.1
  · intro room
    exact ⟨room, room.fits⟩

theorem isEmbedding_value : Scalar.IsEmbedding value where
  zero := rfl
  one := rfl
  neg _ := rfl
  eq _ _ := rfl
  lt _ _ := rfl
  le _ _ := rfl
  render _ := rfl
  divide fits := by
    rw [divide_eq_ok.mp fits]
    rfl
  subtract fits := by
    rw [(subtract_eq_ok.mp fits).2]
    rfl

theorem readsThrough_value : Literal.ReadsThrough value := by
  intro text
  change (Decimal.read text).map Decimal.value = ((Decimal.read text).map ofDecimal).map value
  cases Decimal.read text <;> rfl

end LinearProgram.Fraction64
