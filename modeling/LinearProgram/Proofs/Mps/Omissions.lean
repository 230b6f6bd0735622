import LinearProgram.Proofs.Events
import LinearProgram.Proofs.Model.Crossing
import LinearProgram.Proofs.Mps.Ranges

namespace LinearProgram

variable {F : Type}

namespace Mps

section Rows

variable [LinearOrder F]

def rangedRows (model : Model F) : List (Band F × String) :=
  (writtenRows model).filter fun row => row.1.kind = .double ∧ ¬ row.1.IsCrossed

end Rows

def width [Sub F] (row : Band F × String) : String × F :=
  (row.2, row.1.upper - row.1.lower)

variable [Field F] [LinearOrder F] [Scalar F] [ExactScalar F]

theorem hasRange_iff (row : Band F) :
    hasRange row ↔ row.kind = .double ∧ ¬ row.IsCrossed := by
  rw [hasRange, Bool.and_eq_true, decide_eq_true_iff, ExactScalar.le_iff, Band.isCrossed_iff,
    not_and, not_lt]
  apply and_congr_right
  intro double
  simp only [double, forall_true_left]

theorem widths_eq (model : Model F) : widths model = .ok ((rangedRows model).map width) := by
  have ranged : ((writtenRows model).filter fun row => hasRange row.1) = rangedRows model := by
    unfold rangedRows
    congr 1
    funext row
    rw [Bool.eq_iff_iff, hasRange_iff, decide_eq_true_iff]
  rw [widths, ranged, mapM_eq_ok, List.forall₂_map_right_iff, List.forall₂_same]
  intro row _
  rw [range, ExactScalar.subtract_eq]
  rfl

end Mps

variable [Field F] [LinearOrder F] [Scalar F]

namespace Mps

end Mps

variable [ExactScalar F]

theorem Model.outcome_mps (model : Model F) (name : String) : (model.mps name).outcome =
    .ok (Mps.Document.withRanges model name ((Mps.rangedRows model).map Mps.width)).text := by
  rw [Mps.outcome_mps_eq_map, Mps.widths_eq]
  rfl

end LinearProgram
