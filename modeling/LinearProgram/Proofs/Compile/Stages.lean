import LinearProgram.Compile.Model
import LinearProgram.Proofs.Compile.Outline

namespace LinearProgram

variable {F ε : Type}

section Bands

variable [Scalar F]

@[simp] theorem outcome_announce (interval : Interval F) (name : String) :
    (interval.announce name : Traced ε (Band F)).outcome = .ok (interval.band name) := rfl

theorem outcome_rowBands (source : NameSource) (rows : List (Restriction F)) :
    (rowBands source rows : Traced ε (List (Band F))).outcome =
      .ok ((source.nameRows rows).zipWith (fun name row => row.interval.band name) rows) := by
  rw [rowBands, Traced.outcome_mapM, mapM_eq_ok, List.forall₂_iff_get]
  simp

end Bands

theorem outcome_matrixEntries (columns : Columns) (number : Nat) (rows : List (Restriction F)) :
    (matrixEntries columns number rows).outcome =
      ((rows.zipIdx number).mapM fun row => rowEntries columns row.2 row.1).map List.flatten := by
  induction rows generalizing number with
  | nil => rfl
  | cons row rows ih =>
    rw [matrixEntries, List.zipIdx_cons, List.mapM_cons]
    simp only [Traced.outcome_bind, Traced.outcome_ofExcept, Traced.outcome_emit, ih]
    cases rowEntries columns number row with
    | error e => rfl
    | ok entries =>
      cases (rows.zipIdx (number + 1)).mapM fun row => rowEntries columns row.2 row.1 <;> rfl

variable [Scalar F]

def boundedInterval (name : String) (bound : Option (Restriction F)) :
    Except CompileFailure (Interval F) :=
  match bound with
  | none => .ok Interval.whole
  | some restriction => columnInterval name restriction

theorem outcome_columnBand (name : String) (bound : Option (Restriction F)) :
    (columnBand name bound).outcome =
      (boundedInterval name bound).map fun interval => interval.band name := by
  cases bound with
  | none => rfl
  | some restriction =>
    rw [columnBand, Traced.outcome_bind, Traced.outcome_ofExcept, boundedInterval]
    cases columnInterval name restriction <;> rfl

namespace Problem

theorem outcome_compile (stem : String) (problem : Problem F) :
    (problem.compile stem).outcome = (do
      let outline ← problem.outline.mapError CompileFailure.rejected
      let entries ← ((matrixEntries outline.columns 1 outline.rows).outcome).mapError
        CompileFailure.rejected
      let columns ← outline.columns.names.toList.mapM fun name =>
        (boundedInterval name outline.bounds[name]?).map fun interval => interval.band name
      let names := (NameSource.numbered stem outline.columns 0).nameRows outline.rows
      .ok ⟨names.zipWith (fun name row => row.interval.band name) outline.rows, columns, entries,
        problem.objective.form.map Monomial.coefficient, problem.sense⟩) := by
  simp only [compile, Traced.outcome_bind, Traced.outcome_mapError, Traced.outcome_ofExcept,
    outcome_rowBands, Traced.outcome_mapM, outcome_columnBand, Traced.outcome_emit,
    Traced.outcome_pure]
  rfl

theorem compile_eq_ok {stem : String} {problem : Problem F} {model : Model F} :
    (problem.compile stem).outcome = .ok model ↔
      ∃ outline, problem.outline = .ok outline ∧
        (matrixEntries outline.columns 1 outline.rows).outcome = .ok model.entries ∧
        List.Forall₂ (fun name column => ∃ interval,
            boundedInterval name outline.bounds[name]? = .ok interval ∧
              interval.band name = column)
          outline.columns.names.toList model.columns ∧
        model.rows = ((NameSource.numbered stem outline.columns 0).nameRows outline.rows).zipWith
          (fun name row => row.interval.band name) outline.rows ∧
        model.objective = problem.objective.form.map Monomial.coefficient ∧
        model.sense = problem.sense := by
  simp only [outcome_compile, bind_eq_ok, mapError_eq_ok, mapM_eq_ok, map_eq_ok]
  constructor
  · intro compiled
    obtain ⟨outline, outlined, entries, placed, columns, bounded, made⟩ := compiled
    cases made
    exact ⟨outline, outlined, placed, bounded, rfl, rfl, rfl⟩
  · intro stages
    obtain ⟨outline, outlined, placed, bounded, rows, objective, sense⟩ := stages
    refine ⟨outline, outlined, model.entries, placed, model.columns, bounded, ?_⟩
    rw [← rows, ← objective, ← sense]

end Problem

end LinearProgram
