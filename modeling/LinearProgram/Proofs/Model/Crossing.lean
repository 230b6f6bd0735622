import LinearProgram.Compile.Model
import LinearProgram.Proofs.Model.Canonical

namespace LinearProgram

variable {F : Type}

def Interval.IsCrossed [LT F] (interval : Interval F) : Prop :=
  ∃ lower ∈ interval.lower, ∃ upper ∈ interval.upper, upper < lower

def Band.IsCrossed [LT F] (band : Band F) : Prop :=
  band.interval.IsCrossed

instance [LinearOrder F] (band : Band F) : Decidable band.IsCrossed :=
  inferInstanceAs (Decidable (∃ lower ∈ band.interval.lower, ∃ upper ∈ band.interval.upper,
    upper < lower))

theorem Band.isCrossed_iff [LinearOrder F] {band : Band F} :
    band.IsCrossed ↔ band.kind = .double ∧ band.upper < band.lower := by
  rcases band with ⟨_, kind, lower, upper⟩
  cases kind <;> simp [IsCrossed, Interval.IsCrossed, interval, Interval.whole]

section Reports

variable [Scalar F]

variable [Field F] [LinearOrder F] [ExactScalar F]

end Reports

section Tallies

end Tallies

end LinearProgram
