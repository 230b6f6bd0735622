import LinearProgram.Proofs.Model.ColumnMajor
import LinearProgram.Proofs.Model.Map
import LinearProgram.Proofs.Mps.Ranges
import LinearProgram.Proofs.Transfer

namespace LinearProgram

variable {F G : Type}

theorem Model.byColumn_map (f : F → G) (model : Model F) :
    (model.map f).byColumn = model.byColumn.map (List.map (Prod.map id f)) := by
  have entries (place : Nat) :
      (model.map f).columnEntries place = (model.columnEntries place).map (Entry.map f) := by
    unfold columnEntries map
    rw [List.filter_map]
    rfl
  have columns : (model.map f).columns.length = model.columns.length := List.length_map _
  rw [byColumn_eq, byColumn_eq, List.map_map, columns]
  apply List.map_congr_left
  intro place _
  rw [entries, Function.comp_apply, List.map_map, List.map_map]
  rfl

namespace Mps

section Definitions

variable (f : F → G)

def Bound.map : Bound F → Bound G
  | .free column => .free column
  | .atLeast column value => .atLeast column (f value)
  | .unlimitedBelow column => .unlimitedBelow column
  | .atMost column value => .atMost column (f value)
  | .fixed column value => .fixed column (f value)

def Cell.map (cell : Cell F) : Cell G :=
  ⟨cell.column, cell.row, f cell.value⟩

def Document.map (document : Document F) : Document G where
  name := document.name
  sense := document.sense
  cost := document.cost
  rows := document.rows
  cells := document.cells.map (Cell.map f)
  rightHandSides := document.rightHandSides.map (Prod.map id f)
  ranges := document.ranges.map (Prod.map id f)
  bounds := document.bounds.map (Bound.map f)

end Definitions

section Names

variable (f : F → G)

theorem writtenRows_map (model : Model F) :
    writtenRows (model.map f) = (writtenRows model).map (Prod.map (Band.map f) id) := by
  unfold writtenRows
  have names : (model.map f).rows.map Band.name = model.rows.map Band.name := List.map_map
  rw [names, Model.map, List.zip_map_left]

theorem columnCells_map (cost : String) (names : Array String) (column : Band F) (value : F)
    (entries : List (Nat × F)) :
    columnCells cost names (column.map f) (f value) (entries.map (Prod.map id f)) =
      (columnCells cost names column value entries).map (Cell.map f) := by
  unfold columnCells
  rw [List.map_cons, List.map_map, List.map_map]
  rfl

end Names

variable [Scalar F] [Scalar G] {f : F → G} (embedding : Scalar.IsEmbedding f)

include embedding

theorem rightHandSide?_map (row : Band F) :
    rightHandSide? (row.map f) = (rightHandSide? row).map f := by
  have side (value : F) : (some (f value)).filter (fun value => !Scalar.isZero value) =
      ((some value).filter fun value => !Scalar.isZero value).map f := by
    simp only [Option.filter, embedding.isZero]
    split <;> rfl
  obtain ⟨name, kind, lower, upper⟩ := row
  cases kind with
  | free => rfl
  | lower | fixed => exact side lower
  | upper | double => exact side upper

theorem columnBounds_map (column : Band F) :
    columnBounds (column.map f) = (columnBounds column).map (Bound.map f) := by
  obtain ⟨name, kind, lower, upper⟩ := column
  cases kind with
  | lower =>
    simp only [columnBounds, Band.map, embedding.isZero]
    split <;> rfl
  | free | upper | double | fixed => rfl

theorem hasRange_map (row : Band F) : hasRange (row.map f) = hasRange row := by
  unfold hasRange
  have order : Scalar.le (row.map f).lower (row.map f).upper = Scalar.le row.lower row.upper :=
    embedding.le row.lower row.upper
  rw [order]
  rfl

theorem range_transfers (row : Band F) (name : String) :
    Transfers (fun _ => True) (fun written image => image = Prod.map id f written) (range row name)
      (range (row.map f) name) := by
  unfold range
  cases width : Scalar.subtract row.upper row.lower with
  | error cause => exact .inl trivial
  | ok value =>
    have same : Scalar.subtract (row.map f).upper (row.map f).lower = .ok (f value) :=
      embedding.subtract width
    rw [same]
    exact .of_ok rfl

theorem widths_transfers (model : Model F) :
    Transfers (fun _ => True) (fun ranges image => image = ranges.map (Prod.map id f))
      (widths model) (widths (model.map f)) := by
  have ranged : ((fun row : Band G × String => hasRange row.1) ∘ Prod.map (Band.map f) id) =
      fun row : Band F × String => hasRange row.1 := by
    funext row
    exact hasRange_map embedding row.1
  unfold widths
  rw [writtenRows_map, List.filter_map, List.mapM_map, ranged]
  apply Transfers.mapM
  intro row
  exact range_transfers embedding row.1 row.2

theorem Document.withRanges_map (model : Model F) (name : String) (ranges : List (String × F)) :
    withRanges (model.map f) name (ranges.map (Prod.map id f)) =
      (withRanges model name ranges).map f := by
  have names : (model.map f).rows.map Band.name = model.rows.map Band.name := List.map_map
  have rightHandSides (rows : List (Band F × String)) :
      ((rows.map (Prod.map (Band.map f) id)).filterMap fun row : Band G × String =>
          (rightHandSide? row.1).map fun value => (row.2, value)) =
        (rows.filterMap fun row =>
          (rightHandSide? row.1).map fun value => (row.2, value)).map (Prod.map id f) := by
    rw [List.filterMap_map, List.map_filterMap]
    congr 1
    funext row
    rw [Function.comp_apply, Prod.map, rightHandSide?_map embedding, Option.map_map, Option.map_map]
    rfl
  have cells (cost : String) (names : Array String) :
      (((model.map f).columns.zip ((model.map f).objective.zip (model.map f).byColumn)).flatMap
        fun column => columnCells cost names column.1 column.2.1 column.2.2) =
      ((model.columns.zip (model.objective.zip model.byColumn)).flatMap
        fun column => columnCells cost names column.1 column.2.1 column.2.2).map (Cell.map f) := by
    rw [Model.byColumn_map]
    simp only [Model.map, List.zip_map, List.flatMap_map, List.map_flatMap, Prod.map,
      columnCells_map]
  have bounds : (model.map f).columns.flatMap columnBounds =
      (model.columns.flatMap columnBounds).map (Bound.map f) := by
    rw [Model.map, List.flatMap_map, List.map_flatMap]
    congr 1
    funext column
    exact columnBounds_map embedding column
  unfold withRanges
  rw [names, writtenRows_map, rightHandSides, cells, bounds, List.map_map]
  rfl

/-- Equal numbers are written alike, so the image of a document has the same lines. -/
theorem Document.lines_map (document : Document F) : (document.map f).lines = document.lines := by
  have line (first second : String) (value : F) :
      valueLine first second (f value) = valueLine first second value := by
    unfold valueLine
    rw [embedding.render]
  have cells : ((document.map f).cells.map fun cell => valueLine cell.column cell.row cell.value) =
      document.cells.map fun cell => valueLine cell.column cell.row cell.value := by
    rw [map, List.map_map]
    apply List.map_congr_left
    intro cell _
    exact line cell.column cell.row cell.value
  have bounds : (document.map f).bounds.map Bound.line = document.bounds.map Bound.line := by
    rw [map, List.map_map]
    apply List.map_congr_left
    intro bound _
    cases bound <;>
      simp only [Function.comp_apply, Bound.map, Bound.line, boundValueLine, embedding.render]
  unfold lines
  rw [cells, bounds]
  simp only [map, List.map_map, Function.comp_def, Prod.map, id, line]

/-- Unless a width has no room, a model and its image are written alike. -/
theorem mps_transfers (model : Model F) (name : String) :
    Transfers (fun _ => True) (fun text image => image = text) (model.mps name).outcome
      ((model.map f).mps name).outcome := by
  rw [outcome_mps_eq_map, outcome_mps_eq_map]
  apply Transfers.map (widths_transfers embedding model)
  intro ranges _ mapped
  subst mapped
  rw [Document.withRanges_map embedding, Document.text, Document.text,
    Document.lines_map embedding]

end Mps

end LinearProgram
