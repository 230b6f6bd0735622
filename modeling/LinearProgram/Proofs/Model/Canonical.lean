import LinearProgram.Proofs.Model.Meaning

namespace LinearProgram

variable {F : Type}

def Band.interval (band : Band F) : Interval F :=
  match band.kind with
  | .free => .whole
  | .lower => ⟨some band.lower, none⟩
  | .upper => ⟨none, some band.upper⟩
  | .double => ⟨some band.lower, some band.upper⟩
  | .fixed => ⟨some band.lower, some band.lower⟩

def Band.IsCanonical [Zero F] (band : Band F) : Prop :=
  match band.kind with
  | .free => band.lower = 0 ∧ band.upper = 0
  | .lower => band.upper = 0
  | .upper => band.lower = 0
  | .double => band.lower ≠ band.upper
  | .fixed => band.lower = band.upper

instance [Zero F] [DecidableEq F] : (band : Band F) → Decidable band.IsCanonical
  | ⟨_, .free, lower, upper⟩ => inferInstanceAs (Decidable (lower = 0 ∧ upper = 0))
  | ⟨_, .lower, _, upper⟩ => inferInstanceAs (Decidable (upper = 0))
  | ⟨_, .upper, lower, _⟩ => inferInstanceAs (Decidable (lower = 0))
  | ⟨_, .double, lower, upper⟩ => inferInstanceAs (Decidable (lower ≠ upper))
  | ⟨_, .fixed, lower, upper⟩ => inferInstanceAs (Decidable (lower = upper))

theorem Interval.kind_eq_free [Scalar F] {interval : Interval F} :
    interval.kind = .free ↔ interval = whole := by
  rcases interval with ⟨_ | lower, _ | upper⟩ <;> simp [kind, whole]
  split <;> simp

variable [Field F] [LinearOrder F] [Scalar F] [ExactScalar F]

theorem Band.band_interval {band : Band F} (canonical : band.IsCanonical) (name : String) :
    band.interval.band name = { band with name := name } := by
  rcases band with ⟨_, kind, lower, upper⟩
  cases kind with
  | free =>
    obtain ⟨noLower, noUpper⟩ : lower = 0 ∧ upper = 0 := canonical
    simp [Band.interval, Interval.band, Interval.kind, Interval.whole, noLower, noUpper]
  | lower =>
    have noUpper : upper = 0 := canonical
    simp [Band.interval, Interval.band, Interval.kind, noUpper]
  | upper =>
    have noLower : lower = 0 := canonical
    simp [Band.interval, Interval.band, Interval.kind, noLower]
  | double =>
    have different : lower ≠ upper := canonical
    simp [Band.interval, Interval.band, Interval.kind, different]
  | fixed =>
    have same : lower = upper := canonical
    simp [Band.interval, Interval.band, Interval.kind, same]

theorem Interval.interval_band (interval : Interval F) (name : String) :
    (interval.band name).interval = interval := by
  rcases interval with ⟨_ | lower, _ | upper⟩
  · rfl
  · rfl
  · rfl
  · rw [band, kind_some_some]
    split
    · rename_i same
      simp [Band.interval, same]
    · rfl

theorem Interval.band_isCanonical (interval : Interval F) (name : String) :
    (interval.band name).IsCanonical := by
  rcases interval with ⟨_ | lower, _ | upper⟩
  · simp [band, kind, Band.IsCanonical]
  · simp [band, kind, Band.IsCanonical]
  · simp [band, kind, Band.IsCanonical]
  · rw [band, kind_some_some]
    split
    · rename_i same
      exact same
    · rename_i different
      exact different

end LinearProgram
