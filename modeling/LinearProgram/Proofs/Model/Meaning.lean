import LinearProgram.Model.Basic
import LinearProgram.Proofs.Number.Scalar

namespace LinearProgram

variable {F : Type}

namespace Interval

variable [Field F] [LinearOrder F]

def Contains (interval : Interval F) (x : F) : Prop :=
  (∀ lower ∈ interval.lower, lower ≤ x) ∧ ∀ upper ∈ interval.upper, x ≤ upper

theorem divide_eq_ok [Scalar F] [ExactScalar F] {interval : Interval F} {divisor : F}
    (nonzero : divisor ≠ 0) :
    interval.divide divisor =
      .ok ⟨interval.lower.map (· / divisor), interval.upper.map (· / divisor)⟩ := by
  rcases interval with ⟨_ | lower, _ | upper⟩ <;>
    simp [divide, ExactScalar.divide_eq _ _ nonzero, bind, Except.bind, pure, Except.pure,
      Functor.map, Except.map]

variable [IsStrictOrderedRing F] {interval : Interval F} {divisor x : F}

theorem contains_map_div (positive : 0 < divisor) :
    (⟨interval.lower.map (· / divisor), interval.upper.map (· / divisor)⟩ : Interval F).Contains x ↔
      interval.Contains (divisor * x) := by
  rcases interval with ⟨_ | lower, _ | upper⟩ <;>
    simp [Contains, div_le_iff₀' positive, le_div_iff₀' positive]

theorem contains_swap_map_div (negative : divisor < 0) :
    (⟨interval.upper.map (· / divisor), interval.lower.map (· / divisor)⟩ : Interval F).Contains x ↔
      interval.Contains (divisor * x) := by
  rcases interval with ⟨_ | lower, _ | upper⟩ <;>
    simp [Contains, div_le_iff_of_neg' negative, le_div_iff_of_neg' negative, and_comm]

end Interval

/-- Whether a value is allowed by a row or a column; only the ends that the kind uses count. -/
def Band.Contains [LE F] (band : Band F) (x : F) : Prop :=
  match band.kind with
  | .free => True
  | .lower => band.lower ≤ x
  | .upper => x ≤ band.upper
  | .double => band.lower ≤ x ∧ x ≤ band.upper
  | .fixed => x = band.lower

section Bands

variable [Field F] [LinearOrder F] [Scalar F] [ExactScalar F]

theorem Interval.kind_some_some (lower upper : F) :
    (⟨some lower, some upper⟩ : Interval F).kind = if lower = upper then .fixed else .double := by
  simp [kind]

/-- Naming an interval and filling its absent ends with zeros keeps what it contains. -/
theorem Interval.contains_band {interval : Interval F} {name : String} {x : F} :
    (interval.band name).Contains x ↔ interval.Contains x := by
  rcases interval with ⟨_ | lower, _ | upper⟩
  · simp [band, kind, Band.Contains, Contains]
  · simp [band, kind, Band.Contains, Contains]
  · simp [band, kind, Band.Contains, Contains]
  · rw [band, Band.Contains, kind_some_some]
    by_cases same : lower = upper
    · simp only [Contains, same, ↓reduceIte, Option.mem_some, forall_eq', Option.getD_some]
      rw [le_antisymm_iff, and_comm]
    · simp [Contains, same]

end Bands

section Rows

variable [Field F]

def Entry.value (columns : List (Band F)) (values : String → F) (entry : Entry F) : F :=
  entry.coefficient * (columns[entry.column - 1]?).elim 0 fun column => values column.name

namespace Model

def rowValue (values : String → F) (model : Model F) (row : Nat) : F :=
  ((model.entries.filter fun entry => entry.row = row).map
    (Entry.value model.columns values)).sum

def cost (values : String → F) (model : Model F) : F :=
  (model.objective.zipWith (fun coefficient column => coefficient * values column.name)
    model.columns).sum

def Feasible [LE F] (values : String → F) (model : Model F) : Prop :=
  (∀ (place : Nat) (row : Band F), model.rows[place]? = some row →
    row.Contains (model.rowValue values (place + 1))) ∧
    ∀ column ∈ model.columns, column.Contains (values column.name)

end Model

end Rows

end LinearProgram
