import LinearProgram.Proofs.Mps.Interpretation
import LinearProgram.Proofs.Mps.Names
import LinearProgram.Proofs.Mps.Reading
import LinearProgram.Proofs.Number.Rational
import Mathlib.Algebra.Order.Ring.Rat
import Mathlib.Logic.Function.Basic

namespace LinearProgram

variable {F : Type}

structure Model.Expressible [Field F] [LinearOrder F] (model : Model F) : Prop where
  costs : model.objective.length = model.columns.length
  placed : ∀ entry ∈ model.entries, (1 ≤ entry.row ∧ entry.row ≤ model.rows.length) ∧
    1 ≤ entry.column ∧ entry.column ≤ model.columns.length
  distinct : (model.columns.map Band.name).Nodup
  words : ∀ band ∈ model.rows ++ model.columns, IsWord band.name
  canonical : ∀ band ∈ model.rows ++ model.columns, band.IsCanonical
  ordered : ∀ row ∈ model.rows, row.kind = .double → row.lower ≤ row.upper

namespace Mps

def namedRows (model : Model F) : List (Band F × String) :=
  model.rows.zip (distinctNames (model.rows.map Band.name))

theorem map_snd_namedRows (model : Model F) :
    (namedRows model).map Prod.snd = distinctNames (model.rows.map Band.name) := by
  rw [namedRows, List.map_snd_zip]
  rw [length_distinctNames, List.length_map]

theorem map_name_zipIdx (columns : List (Band F)) :
    (columns.zipIdx.map fun placed => placed.1.name) = columns.map Band.name := by
  conv_rhs => rw [← List.zipIdx_map_fst 0 columns, List.map_map]
  rfl

def entryCell (names : Array String) (column : Band F) (entry : Entry F) : Cell F :=
  ⟨column.name, names[entry.row - 1]?.getD "", entry.coefficient⟩

def placedCells [Zero F] (cost : String) (names : Array String) (model : Model F)
    (placed : Band F × Nat) : List (Cell F) :=
  ⟨placed.1.name, cost, model.objective[placed.2]?.getD 0⟩ ::
    (model.columnEntries placed.2).map (entryCell names placed.1)

theorem map_column_placedCells [Zero F] (cost : String) (names : Array String) (model : Model F)
    (placed : Band F × Nat) :
    (placedCells cost names model placed).map Cell.column =
      List.replicate ((model.columnEntries placed.2).length + 1) placed.1.name := by
  rw [placedCells, List.map_cons, List.map_map, List.replicate_succ]
  exact congrArg _ List.map_const'

theorem column_of_mem_placedCells [Zero F] (cost : String) (names : Array String)
    (model : Model F) (placed : Band F × Nat) :
    ∀ cell ∈ placedCells cost names model placed, cell.column = placed.1.name := by
  intro cell member
  have column : cell.column ∈ (placedCells cost names model placed).map Cell.column :=
    List.mem_map_of_mem member
  rw [map_column_placedCells] at column
  exact List.eq_of_mem_replicate column

theorem idxOf?_of_getElem? {xs : List String} (distinct : xs.Nodup) {place : Nat} {x : String}
    (found : xs[place]? = some x) : xs.idxOf? x = some place := by
  obtain ⟨inside, rfl⟩ := List.getElem?_eq_some_iff.mp found
  rw [List.idxOf?_eq_some_iff]
  have first : ∀ earlier (before : earlier < place), xs[earlier] ≠ xs[place] := by
    intro earlier before same
    have equal := (distinct.getElem_inj_iff).mp same
    omega
  exact ⟨inside, by simp, by simpa using first⟩

section Cells

variable [Field F] [LinearOrder F] {model : Model F} (expressible : model.Expressible)

include expressible

theorem cells_eq (cost : String) (names : Array String) :
    ((model.columns.zip (model.objective.zip model.byColumn)).flatMap
      fun (column, value, entries) => columnCells cost names column value entries) =
        model.columns.zipIdx.flatMap (placedCells cost names model) := by
  have costs := expressible.costs
  have zipped : model.columns.zip (model.objective.zip model.byColumn) =
      model.columns.zipIdx.map fun placed => (placed.1, model.objective[placed.2]?.getD 0,
        (model.columnEntries placed.2).map fun entry => (entry.row, entry.coefficient)) := by
    rw [Model.byColumn_eq]
    apply List.ext_getElem (by simp [costs])
    intro place inside _
    simp only [List.length_zip, List.length_map, List.length_range] at inside
    have known : place < model.objective.length := by omega
    simp [List.getElem?_eq_getElem known]
  rw [zipped, List.flatMap_map]
  simp only [columnCells, List.map_map]
  rfl

theorem eraseDups_columns (cost : String) (names : Array String) :
    ((model.columns.zipIdx.flatMap (placedCells cost names model)).map Cell.column).eraseDups =
      model.columns.map Band.name := by
  have distinct := expressible.distinct
  rw [← map_name_zipIdx] at distinct
  simp only [List.map_flatMap, map_column_placedCells]
  rw [eraseDups_flatMap (fun placed => (model.columnEntries placed.2).length) distinct,
    map_name_zipIdx]

theorem cellValue_cost (cost : String) (names : Array String) {placed : Band F × Nat}
    (member : placed ∈ model.columns.zipIdx) :
    cellValue (model.columns.zipIdx.flatMap (placedCells cost names model)) cost placed.1.name =
      model.objective[placed.2]?.getD 0 := by
  have distinct := expressible.distinct
  rw [← map_name_zipIdx] at distinct
  have column :=
    filter_flatMap_of_nodup (column_of_mem_placedCells cost names model) distinct member
  rw [cellValue_eq, column, placedCells, List.find?_cons_of_pos (by simp)]
  rfl

theorem objective_eq (cost : String) (names : Array String) :
    (model.columns.map Band.name).map
      (cellValue (model.columns.zipIdx.flatMap (placedCells cost names model)) cost) =
        model.objective := by
  have costs := expressible.costs
  rw [← map_name_zipIdx, List.map_map]
  refine (List.map_congr_left fun placed member =>
    cellValue_cost expressible cost names member).trans ?_
  apply List.ext_getElem (by simp [costs])
  intro place _ inside
  simp [List.getElem?_eq_getElem inside]

theorem readEntry_entryCell {names : List String} (distinct : names.Nodup)
    (length : names.length = model.rows.length) {placed : Band F × Nat}
    (member : placed ∈ model.columns.zipIdx) {entry : Entry F}
    (inside : entry ∈ model.columnEntries placed.2) :
    readEntry names (model.columns.map Band.name) (entryCell names.toArray placed.1 entry) =
      some entry := by
  obtain ⟨known, here⟩ := List.mem_filter.mp inside
  obtain ⟨⟨positiveRow, lastRow⟩, positiveColumn, lastColumn⟩ := expressible.placed entry known
  have here := of_decide_eq_true here
  have rowPlace : entry.row - 1 < names.length := by omega
  have row := idxOf?_of_getElem? distinct (List.getElem?_eq_getElem rowPlace)
  have columnPlace := List.mem_zipIdx_iff_getElem?.mp member
  have column : (model.columns.map Band.name).idxOf? placed.1.name = some placed.2 := by
    refine idxOf?_of_getElem? expressible.distinct ?_
    rw [List.getElem?_map, columnPlace]
    rfl
  have sameRow : entry.row - 1 + 1 = entry.row := by omega
  have sameColumn : placed.2 + 1 = entry.column := by omega
  simp only [readEntry, entryCell, column, List.getElem?_toArray, List.getElem?_eq_getElem rowPlace,
    Option.getD_some, row, Option.bind_eq_bind, Option.bind_some, sameRow, sameColumn]
  rfl

theorem readEntries_eq {cost : String} {names : List String} (fresh : cost ∉ names)
    (distinct : names.Nodup) (length : names.length = model.rows.length) :
    ((model.columns.zipIdx.flatMap (placedCells cost names.toArray model)).filter
      fun cell => cell.row ≠ cost).mapM (readEntry names (model.columns.map Band.name)) =
        some ((List.range model.columns.length).flatMap model.columnEntries) := by
  have others : ∀ placed ∈ model.columns.zipIdx,
      ((placedCells cost names.toArray model placed).filter fun cell => cell.row ≠ cost).mapM
        (readEntry names (model.columns.map Band.name)) = some (model.columnEntries placed.2) := by
    intro placed member
    have kept : (placedCells cost names.toArray model placed).filter (fun cell => cell.row ≠ cost) =
        (model.columnEntries placed.2).map (entryCell names.toArray placed.1) := by
      rw [placedCells, List.filter_cons_of_neg (by simp), List.filter_eq_self]
      intro cell inside
      obtain ⟨entry, listed, rfl⟩ := List.mem_map.mp inside
      obtain ⟨⟨positive, last⟩, _⟩ := expressible.placed entry (List.mem_filter.mp listed).1
      have rowPlace : entry.row - 1 < names.length := by omega
      have different : names[entry.row - 1] ≠ cost := by
        intro same
        exact fresh (same ▸ List.getElem_mem rowPlace)
      simpa [entryCell, List.getElem?_eq_getElem rowPlace] using different
    have read := mapM_eq_some fun entry inside =>
      readEntry_entryCell expressible distinct length member inside
    rw [kept, List.mapM_map]
    exact read.trans (congrArg some (List.map_id _))
  rw [List.filter_flatMap, mapM_flatMap_eq_some others]
  have places : model.columns.zipIdx.map Prod.snd = List.range model.columns.length := by
    rw [List.zipIdx_map_snd, List.range_eq_range']
  rw [← places, List.flatMap_map]

end Cells

section Bands

variable [Field F] [LinearOrder F] [Scalar F] [ExactScalar F] {model : Model F} {program : String}
  (expressible : model.Expressible)

include expressible

theorem columns_eq :
    (model.columns.map Band.name).map
      (fun column => (columnInterval (model.columns.flatMap columnBounds) column).band column) =
        model.columns := by
  rw [List.map_map]
  refine (List.map_congr_left fun column member => ?_).trans (List.map_id _)
  have own := filter_flatMap_of_nodup column_of_mem_columnBounds expressible.distinct member
  have canonical := expressible.canonical column (List.mem_append_right _ member)
  rw [Function.comp_apply, columnInterval, own, interval_of_column, Band.band_interval canonical]
  rfl

theorem rows_eq [IsStrictOrderedRing F] :
    ((Document.exact model program).rows.map fun row =>
      (row.1.interval (((Document.exact model program).rightHandSides.lookup row.2).getD 0)
        ((Document.exact model program).ranges.lookup row.2)).band row.2) =
          (namedRows model).map fun row => { row.1 with name := row.2 } := by
  have distinct : ((namedRows model).map Prod.snd).Nodup := by
    rw [map_snd_namedRows]
    exact distinctNames_nodup _
  have rows : (Document.exact model program).rows =
      (namedRows model).map fun row => (rowType row.1.kind, row.2) := rfl
  rw [rows, List.map_map]
  apply List.map_congr_left
  rintro ⟨row, name⟩ member
  have known : row ∈ model.rows := (List.of_mem_zip member).1
  have canonical := expressible.canonical row (List.mem_append_left _ known)
  have side : (Document.exact model program).rightHandSides.lookup name = rightHandSide? row :=
    lookup_filterMap_of_nodup distinct member
  have width : (Document.exact model program).ranges.lookup name =
      if hasRange row then some (row.upper - row.lower) else none :=
    lookup_filterMap_of_nodup
      (g := fun row => if hasRange row then some (row.upper - row.lower) else none) distinct member
  have interval := interval_of_row (expressible.ordered row known)
  show ((rowType row.kind).interval
    (((Document.exact model program).rightHandSides.lookup name).getD 0)
    ((Document.exact model program).ranges.lookup name)).band name = { row with name := name }
  rw [side, width, interval, Band.band_interval canonical]

omit [ExactScalar F] in
theorem legible (oneLine : IsOneLine program) : (Document.exact model program).Legible := by
  have named : ∀ written ∈ distinctNames (model.rows.map Band.name), IsWord written := by
    apply distinctNamesFrom_isWord
    rw [List.forall_mem_map]
    intro row member
    exact expressible.words row (List.mem_append_left _ member)
  have rowNames : ∀ row ∈ namedRows model, IsWord row.2 := by
    intro row member
    exact named row.2 (List.of_mem_zip member).2
  have columnNames : ∀ column ∈ model.columns, IsWord column.name := by
    intro column member
    exact expressible.words column (List.mem_append_right _ member)
  have cost := costName_isWord (model.rows.map Band.name)
  constructor
  case name => exact oneLine
  case cost => exact cost
  case rows => exact List.forall_mem_map.mpr rowNames
  case cells =>
    intro cell member
    rw [Document.exact, cells_eq expressible] at member
    obtain ⟨placed, inside, written⟩ := List.mem_flatMap.mp member
    have known : placed.1 ∈ model.columns :=
      List.mem_of_getElem? (List.mem_zipIdx_iff_getElem?.mp inside)
    rw [column_of_mem_placedCells _ _ _ _ cell written]
    refine ⟨columnNames placed.1 known, ?_⟩
    rcases List.mem_cons.mp written with rfl | written
    · exact cost
    · obtain ⟨entry, listed, rfl⟩ := List.mem_map.mp written
      obtain ⟨⟨positive, last⟩, _⟩ := expressible.placed entry (List.mem_filter.mp listed).1
      have rowPlace : entry.row - 1 < (distinctNames (model.rows.map Band.name)).length := by
        rw [length_distinctNames, List.length_map]
        omega
      simpa [entryCell, List.getElem?_eq_getElem rowPlace] using named _ (List.getElem_mem rowPlace)
  case rightHandSides =>
    intro side member
    obtain ⟨row, inside, written⟩ := List.mem_filterMap.mp member
    obtain ⟨value, _, rfl⟩ := Option.map_eq_some_iff.mp written
    exact rowNames row inside
  case ranges =>
    intro width member
    obtain ⟨row, inside, written⟩ := List.mem_filterMap.mp member
    obtain ⟨value, _, rfl⟩ := Option.map_eq_some_iff.mp written
    exact rowNames row inside
  case bounds =>
    intro bound member
    obtain ⟨column, inside, written⟩ := List.mem_flatMap.mp member
    rw [column_of_mem_columnBounds column bound written]
    exact columnNames column inside

/-- Reading what is written about a model gives back the model with its rows' distinct names and
with its entries column by column. -/
theorem read?_text [IsStrictOrderedRing F] {number? : String → Option F}
    (reads : ∀ value, number? (Scalar.render value) = some value)
    (solid : ∀ value : F, IsSolid (Scalar.render value)) (oneLine : IsOneLine program) :
    read? number? (Document.exact model program).text = some {
      rows := (namedRows model).map fun row => { row.1 with name := row.2 }
      columns := model.columns
      entries := (List.range model.columns.length).flatMap model.columnEntries
      objective := model.objective
      sense := model.sense } := by
  have records := readRecords_text reads solid (legible expressible oneLine)
  have cells : (Document.exact model program).cells = model.columns.zipIdx.flatMap
      (placedCells (costName (model.rows.map Band.name))
        (distinctNames (model.rows.map Band.name)).toArray model) := cells_eq expressible _ _
  have names : (Document.exact model program).rows.map Prod.snd =
      distinctNames (model.rows.map Band.name) :=
    List.map_map.trans (map_snd_namedRows model)
  have length : (distinctNames (model.rows.map Band.name)).length = model.rows.length := by
    rw [length_distinctNames, List.length_map]
  have entries := readEntries_eq expressible (costName_not_mem_distinctNames _)
    (distinctNames_nodup _) length
  have first : (Document.exact model program).allRows.find? (fun row => row.1 = .free) =
      some (.free, costName (model.rows.map Band.name)) := rfl
  have others : (Document.exact model program).allRows.eraseP (fun row => row.1 = .free) =
      (Document.exact model program).rows := rfl
  rw [read?, records, Option.bind_some, Records.model?]
  simp only [first, others, names, cells, eraseDups_columns expressible, Option.bind_eq_bind,
    Option.bind_some]
  rw [entries, Option.bind_some, rows_eq expressible, objective_eq expressible]
  exact congrArg (fun columns => some (Model.mk _ columns _ _ _)) (columns_eq expressible)

end Bands

end Mps

theorem Model.mps_reads_back [Field F] [LinearOrder F] [IsStrictOrderedRing F] [Scalar F]
    [ExactScalar F] {model : Model F} {program : String} (expressible : model.Expressible)
    (oneLine : IsOneLine program)
    (injective : Function.Injective (Scalar.render : F → String))
    (solid : ∀ value : F, IsSolid (Scalar.render value)) :
    ∃ text decoded, (model.mps program).outcome = .ok text ∧
      Mps.read? (Function.partialInv Scalar.render) text = some decoded ∧
      decoded.sense = model.sense ∧ decoded.columns = model.columns ∧
      decoded.objective = model.objective ∧
      decoded.rows = (Mps.namedRows model).map (fun row => { row.1 with name := row.2 }) ∧
      (decoded.rows.map Band.name).Nodup ∧ decoded.entries.Perm model.entries := by
  have reads (value : F) : Function.partialInv Scalar.render (Scalar.render value) = some value :=
    Function.partialInv_left injective value
  refine ⟨_, _, Mps.outcome_mps model program, Mps.read?_text expressible reads solid oneLine,
    rfl, rfl, rfl, rfl, ?_, ?_⟩
  · have names := Mps.distinctNames_nodup (model.rows.map Band.name)
    rw [← Mps.map_snd_namedRows] at names
    rw [List.map_map]
    exact names
  · refine flatMap_filter_perm (fun entry : Entry F => entry.column - 1) List.nodup_range ?_
    intro entry member
    obtain ⟨_, positive, last⟩ := expressible.placed entry member
    rw [List.mem_range]
    omega

def Model.mixed : Model Rat where
  rows := [⟨"x", .upper, 0, 4⟩, ⟨"x", .lower, 1, 0⟩, ⟨"COST", .double, -1, 2⟩, ⟨"R2", .fixed, 3, 3⟩,
    ⟨"x", .free, 0, 0⟩]
  columns := [⟨"x", .upper, 0, -5⟩, ⟨"y", .double, 2, 1⟩, ⟨"z", .fixed, 1 / 2, 1 / 2⟩,
    ⟨"w", .lower, 0, 0⟩, ⟨"v", .free, 0, 0⟩]
  entries := [⟨1, 1, 1⟩, ⟨2, 1, 1⟩, ⟨3, 3, -1 / 3⟩, ⟨3, 2, 1⟩, ⟨4, 2, 0⟩, ⟨5, 1, 7⟩]
  objective := [1, 2, 3, 0, 1]
  sense := .maximize

theorem Model.mixed_reads_back :
    Model.mixed.Expressible ∧ ∃ text decoded, (Model.mixed.mps "all kinds").outcome = .ok text ∧
      Mps.read? (Function.partialInv Scalar.render) text = some decoded ∧
      decoded.sense = .maximize ∧ decoded.columns = Model.mixed.columns ∧
      decoded.objective = [1, 2, 3, 0, 1] ∧ decoded.entries.Perm Model.mixed.entries := by
  have expressible : Model.mixed.Expressible :=
    ⟨rfl, by decide, by decide, by decide, by decide +kernel, by decide +kernel⟩
  have oneLine : IsOneLine "all kinds" := by decide
  obtain ⟨text, decoded, written, read, sense, columns, objective, _, _, entries⟩ :=
    mps_reads_back expressible oneLine Rational.render_injective Rational.isSolid_render
  exact ⟨expressible, text, decoded, written, read, sense, columns, objective, entries⟩

end LinearProgram
