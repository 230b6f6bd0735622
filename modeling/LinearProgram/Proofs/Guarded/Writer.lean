import LinearProgram.Proofs.Guarded.Model
import LinearProgram.Proofs.Mps.Ranges

namespace LinearProgram.Mps

section Definitions

variable {F ε : Type}

def cellGuarded (rowNames : Array String) (column : Band F) (entry : Nat × F) :
    Guarded ε (Cell F) := do
  let place ← Guarded.demand (Word.checkedSub entry.1 1) .overflow
  let rowName ← Guarded.demand rowNames[place]? .index
  .ok ⟨column.name, rowName, entry.2⟩

def columnCellsGuarded (cost : String) (rowNames : Array String) (column : Band F) (value : F)
    (entries : List (Nat × F)) : Guarded ε (List (Cell F)) := do
  let cells ← entries.mapM (cellGuarded rowNames column)
  .ok (⟨column.name, cost, value⟩ :: cells)

def writeGuarded [Scalar F] (model : Model F) (name : String) : Guarded Overflow String := do
  let columns ← model.byColumnGuarded
  let cells ← (model.columns.zip (model.objective.zip columns)).mapM fun column =>
    columnCellsGuarded (costName (model.rows.map Band.name))
      (distinctNames (model.rows.map Band.name)).toArray column.1 column.2.1 column.2.2
  let ranges ← Guarded.sound (widths model)
  .ok { Document.withRanges model name ranges with cells := cells.flatten }.text

end Definitions

variable {F ε : Type}

theorem columnCellsGuarded_eq {rowNames : Array String} {entries : List (Nat × F)}
    (named : ∀ entry ∈ entries, 1 ≤ entry.1 ∧ entry.1 ≤ rowNames.size) (cost : String)
    (column : Band F) (value : F) :
    (columnCellsGuarded cost rowNames column value entries : Guarded ε (List (Cell F))) =
      .ok (columnCells cost rowNames column value entries) := by
  have each (entry : Nat × F) (member : entry ∈ entries) :
      (cellGuarded rowNames column entry : Guarded ε (Cell F)) =
        .ok ⟨column.name, rowNames[entry.1 - 1]?.getD "", entry.2⟩ := by
    obtain ⟨positive, within⟩ := named entry member
    have inside : entry.1 - 1 < rowNames.size := by omega
    rw [cellGuarded, Word.checkedSub, if_pos positive, Guarded.demand_some, Guarded.ok_bind,
      Array.getElem?_eq_getElem inside]
    rfl
  rw [columnCellsGuarded, Guarded.mapM_ok each, Guarded.ok_bind]
  rfl

/-- The entries of a column stand in rows of the model. -/
theorem row_of_mem_byColumn {model : Model F} (fit : model.IndicesFit)
    {column : List (Nat × F)} (listed : column ∈ model.byColumn) {entry : Nat × F}
    (member : entry ∈ column) : 1 ≤ entry.1 ∧ entry.1 ≤ model.rows.length := by
  rw [Model.byColumn_eq, List.mem_map] at listed
  obtain ⟨place, _, rfl⟩ := listed
  obtain ⟨original, kept, rfl⟩ := List.mem_map.mp member
  exact (fit original (List.mem_filter.mp kept).1).1

theorem writeGuarded_eq [Scalar F] {model : Model F} (fit : model.IndicesFit) (name : String) :
    writeGuarded model name = Guarded.sound (model.mps name).outcome := by
  have named (column : Band F × F × List (Nat × F))
      (member : column ∈ model.columns.zip (model.objective.zip model.byColumn)) :
      ∀ entry ∈ column.2.2, 1 ≤ entry.1 ∧
        entry.1 ≤ (distinctNames (model.rows.map Band.name)).toArray.size := by
    intro entry inside
    have listed : column.2.2 ∈ model.byColumn :=
      (List.of_mem_zip (List.of_mem_zip member).2).2
    rw [List.size_toArray, length_distinctNames, List.length_map]
    exact row_of_mem_byColumn fit listed inside
  rw [writeGuarded, Model.byColumnGuarded_eq fit, Guarded.ok_bind,
    Guarded.mapM_ok fun column member => columnCellsGuarded_eq (named column member) _ _ _,
    Guarded.ok_bind, outcome_mps_eq_map, ← List.flatMap_def]
  cases widths model <;> rfl

end LinearProgram.Mps
