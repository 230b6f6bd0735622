import LinearProgram.Compile.Model
import LinearProgram.Proofs.Model.Meaning

namespace LinearProgram

variable {F : Type} [Field F] [LinearOrder F] {interval : Interval F} {factor : F}

/-- The interval of a variable whose multiple is kept in the given one. A negative factor exchanges
the ends. -/
def Interval.unscale (interval : Interval F) (factor : F) : Interval F :=
  if factor = 1 then interval
  else
    let divided : Interval F := ⟨interval.lower.map (· / factor), interval.upper.map (· / factor)⟩
    if factor < 0 then divided.swap else divided

namespace Interval

theorem unscale_one (interval : Interval F) : interval.unscale 1 = interval :=
  if_pos rfl

theorem unscale_eq_whole : interval.unscale factor = whole ↔ interval = whole := by
  unfold unscale
  split
  · rfl
  · rcases interval with ⟨_ | lower, _ | upper⟩ <;> split <;> simp [swap, whole]

theorem contains_unscale [IsStrictOrderedRing F] {x : F} (nonzero : factor ≠ 0) :
    (interval.unscale factor).Contains x ↔ interval.Contains (factor * x) := by
  unfold unscale
  split
  · rename_i one
    rw [one, one_mul]
  · rcases lt_or_gt_of_ne nonzero with negative | positive
    · rw [if_pos negative]
      exact contains_swap_map_div negative
    · rw [if_neg (not_lt_of_gt positive)]
      exact contains_map_div positive

end Interval

theorem columnInterval_eq_ok [Scalar F] [ExactScalar F] {name : String}
    {restriction : Restriction F} {term : Monomial F} (form : restriction.form = [term]) :
    columnInterval name restriction = .ok interval ↔
      term.coefficient ≠ 0 ∧ interval = restriction.interval.unscale term.coefficient := by
  simp only [columnInterval, form, ExactScalar.eq_iff, ExactScalar.lt_iff, isZero_iff,
    ExactScalar.one_eq, ExactScalar.zero_eq, Interval.unscale]
  by_cases one : term.coefficient = 1
  · simp [one, eq_comm]
  · by_cases zero : term.coefficient = 0
    · simp [zero]
    · rw [Interval.divide_eq_ok zero]
      simp [one, zero, Except.mapError, bind, Except.bind, pure, Except.pure, eq_comm]

end LinearProgram
