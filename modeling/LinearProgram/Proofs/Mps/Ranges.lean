import LinearProgram.Mps.Writer
import LinearProgram.Proofs.Mps.Names
import LinearProgram.Proofs.Outcome

namespace LinearProgram.Mps

variable {F : Type}

def writtenRows (model : Model F) : List (Band F × String) :=
  model.rows.zip (distinctNames (model.rows.map Band.name))

theorem map_fst_writtenRows (model : Model F) : (writtenRows model).map Prod.fst = model.rows := by
  have lengths : (distinctNames (model.rows.map Band.name)).length = model.rows.length := by
    rw [length_distinctNames, List.length_map]
  exact List.map_fst_zip (Nat.le_of_eq lengths.symm)

variable [Scalar F]

def widths (model : Model F) : Except Overflow (List (String × F)) :=
  ((writtenRows model).filter fun row => hasRange row.1).mapM fun row => range row.1 row.2

def Document.withRanges (model : Model F) (name : String) (ranges : List (String × F)) :
    Document F where
  name := name
  sense := model.sense
  cost := costName (model.rows.map Band.name)
  rows := (writtenRows model).map fun row => (rowType row.1.kind, row.2)
  cells := (model.columns.zip (model.objective.zip model.byColumn)).flatMap fun column =>
    columnCells (costName (model.rows.map Band.name))
      (distinctNames (model.rows.map Band.name)).toArray column.1 column.2.1 column.2.2
  rightHandSides := (writtenRows model).filterMap fun row =>
    (rightHandSide? row.1).map fun value => (row.2, value)
  ranges := ranges
  bounds := model.columns.flatMap columnBounds

theorem outcome_ofModel_eq_map (model : Model F) (name : String) :
    (Document.ofModel model name).outcome =
      (widths model).map (Document.withRanges model name) := by
  unfold Document.ofModel
  simp only [Traced.outcome_bind, Traced.outcome_emitAll, Traced.outcome_ofExcept]
  change (widths model >>= fun ranges => Except.ok (Document.withRanges model name ranges)) = _
  cases widths model <;> rfl

theorem outcome_mps_eq_map (model : Model F) (name : String) :
    (model.mps name).outcome =
      (widths model).map fun ranges => (Document.withRanges model name ranges).text := by
  unfold Model.mps
  rw [Traced.outcome_bind, outcome_ofModel_eq_map]
  cases widths model <;> rfl

/-- A model is written just when each row with a range has a width. -/
theorem exists_mps_iff (model : Model F) (name : String) :
    (∃ text, (model.mps name).outcome = .ok text) ↔
      ∀ row ∈ model.rows, hasRange row → ∃ width, Scalar.subtract row.upper row.lower = .ok width := by
  have widths_iff : (∃ ranges, widths model = .ok ranges) ↔
      ∀ row ∈ writtenRows model, hasRange row.1 →
        ∃ width, Scalar.subtract row.1.upper row.1.lower = .ok width := by
    have each (row : Band F × String) : failure? (range row.1 row.2) =
        failure? (Scalar.subtract row.1.upper row.1.lower) := failure?_map _ _
    unfold widths
    rw [← failure?_eq_none, failure?_mapM, List.head?_eq_none_iff, List.filterMap_eq_nil_iff]
    simp only [List.mem_filter, each, failure?_eq_none, and_imp]
  rw [outcome_mps_eq_map]
  simp only [map_eq_ok, exists_comm, exists_and_left, exists_eq', and_true, widths_iff]
  conv_rhs => rw [← map_fst_writtenRows model]
  simp only [List.forall_mem_map]

end LinearProgram.Mps
