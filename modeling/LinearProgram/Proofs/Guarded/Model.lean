import LinearProgram.Model.Table
import LinearProgram.Proofs.Guarded.Number
import LinearProgram.Proofs.Model.ColumnMajor

namespace LinearProgram

variable {F ε : Type}

def Model.IndicesFit (model : Model F) : Prop :=
  ∀ entry ∈ model.entries, (1 ≤ entry.row ∧ entry.row ≤ model.rows.length) ∧
    1 ≤ entry.column ∧ entry.column ≤ model.columns.length

def placeGuarded (number size : Nat) : Guarded ε Nat := do
  let place ← Guarded.demand (Word.checkedSub number 1) .overflow
  Guarded.require (place < size) .index
  .ok place

theorem placeGuarded_eq {number size : Nat} (positive : 1 ≤ number) (within : number ≤ size) :
    (placeGuarded number size : Guarded ε Nat) = .ok (number - 1) := by
  have inside : number - 1 < size := by omega
  rw [placeGuarded, Word.checkedSub, if_pos positive, Guarded.demand_some, Guarded.ok_bind,
    Guarded.require_of inside]
  rfl

namespace Model

def addEntryGuarded (count : Nat) (columns : Array (List (Nat × F))) (entry : Entry F) :
    Guarded ε (Array (List (Nat × F))) := do
  Guarded.require (1 ≤ entry.column ∧ entry.column ≤ count) .assertion
  let place ← placeGuarded entry.column columns.size
  .ok (columns.modify place (· ++ [(entry.row, entry.coefficient)]))

def byColumnGuarded (model : Model F) : Guarded ε (List (List (Nat × F))) := do
  let columns ← model.entries.foldlM (addEntryGuarded model.columns.length)
    (Array.replicate model.columns.length [])
  .ok columns.toList

def Spread (count : Nat) (entries : List (Entry F)) (columns : Array (List (Nat × F))) : Prop :=
  columns.toList = (List.range count).map fun place =>
    (entries.filter fun entry => entry.column - 1 = place).map fun entry =>
      (entry.row, entry.coefficient)

theorem Spread.empty (count : Nat) :
    Spread count ([] : List (Entry F)) (Array.replicate count []) := by
  simp [Spread, List.map_const']

theorem Spread.size_eq {count : Nat} {entries : List (Entry F)}
    {columns : Array (List (Nat × F))} (spread : Spread count entries columns) :
    columns.size = count := by
  rw [← Array.length_toList, spread, List.length_map, List.length_range]

theorem Spread.add {count : Nat} {before : List (Entry F)} {columns : Array (List (Nat × F))}
    (spread : Spread count before columns) (entry : Entry F) :
    Spread count (before ++ [entry])
      (columns.modify (entry.column - 1) (· ++ [(entry.row, entry.coefficient)])) := by
  rw [Spread, Array.toList_modify, spread]
  apply List.ext_getElem?
  intro place
  rw [List.getElem?_modify, List.getElem?_map, List.getElem?_map]
  rcases Nat.lt_or_ge place count with inside | outside
  · rw [List.getElem?_range inside]
    by_cases here : entry.column - 1 = place <;> simp [here]
  · simp [outside]

theorem foldlM_addEntryGuarded {count : Nat} {entries before : List (Entry F)}
    {columns : Array (List (Nat × F))} (spread : Spread count before columns)
    (placed : ∀ entry ∈ entries, 1 ≤ entry.column ∧ entry.column ≤ count) :
    ∃ final, entries.foldlM (addEntryGuarded count) columns =
        (.ok final : Guarded ε (Array (List (Nat × F)))) ∧
      Spread count (before ++ entries) final := by
  induction entries generalizing before columns with
  | nil => exact ⟨columns, rfl, by rwa [List.append_nil]⟩
  | cons entry entries ih =>
    obtain ⟨here, later⟩ := List.forall_mem_cons.mp placed
    -- There are as many columns as at the start, so that the one asserted to exist does.
    have inside : entry.column ≤ columns.size := here.2.trans_eq spread.size_eq.symm
    rw [List.foldlM_cons, addEntryGuarded, Guarded.require_of here, Guarded.ok_bind,
      placeGuarded_eq here.1 inside, Guarded.ok_bind, Guarded.ok_bind]
    simpa using ih (spread.add entry) later

theorem byColumnGuarded_eq {model : Model F} (fit : model.IndicesFit) :
    (model.byColumnGuarded : Guarded ε (List (List (Nat × F)))) = .ok model.byColumn := by
  obtain ⟨columns, folded, spread⟩ := foldlM_addEntryGuarded (ε := ε)
    (Spread.empty model.columns.length) fun entry member => (fit entry member).2
  rw [byColumnGuarded, folded, Guarded.ok_bind, byColumn_eq]
  exact congrArg Except.ok spread

variable [Scalar F]

def setCellGuarded (cells : List String) (entry : Entry F) : Guarded ε (List String) := do
  let place ← placeGuarded entry.column cells.length
  .ok (cells.set place (Scalar.render entry.coefficient))

def cellRowsGuarded (columns : Nat) :
    Nat → List (Band F) → List (Entry F) → Guarded ε (List (List String))
  | _, [], _ => .ok []
  | number, _ :: rows, entries => do
    let first ← (entries.takeWhile (·.row == number)).foldlM setCellGuarded
      (List.replicate columns "")
    let others ← cellRowsGuarded columns (number + 1) rows
      (entries.dropWhile (·.row == number))
    .ok (first :: others)

def tableOf (model : Model F) (rows : List (List String)) : String :=
  Text.unlines ([model.sense.abbreviation, tableLine "" (model.columns.map Band.name),
    model.ruler '=', tableLine "cost" (model.objective.map Scalar.render), model.ruler '-'] ++
    ((model.rows.zip rows).map fun row => tableLine row.1.name row.2 ++ "  " ++ row.1.kind.label) ++
    [model.ruler '-'] ++ (model.rows ++ model.columns).map Band.text)

def tableGuarded (model : Model F) : Guarded ε String := do
  let rows ← cellRowsGuarded model.columns.length 1 model.rows model.entries
  .ok (model.tableOf rows)

theorem foldlM_setCellGuarded {entries : List (Entry F)} {cells : List String}
    (placed : ∀ entry ∈ entries, 1 ≤ entry.column ∧ entry.column ≤ cells.length) :
    (entries.foldlM setCellGuarded cells : Guarded ε (List String)) =
      .ok (entries.foldl (fun cells entry =>
        cells.set (entry.column - 1) (Scalar.render entry.coefficient)) cells) := by
  induction entries generalizing cells with
  | nil => rfl
  | cons entry entries ih =>
    obtain ⟨here, later⟩ := List.forall_mem_cons.mp placed
    rw [List.foldlM_cons, setCellGuarded, placeGuarded_eq here.1 here.2, Guarded.ok_bind,
      Guarded.ok_bind, List.foldl_cons]
    apply ih
    rwa [List.length_set]

theorem cellRowsGuarded_eq {columns : Nat} {entries : List (Entry F)}
    (placed : ∀ entry ∈ entries, 1 ≤ entry.column ∧ entry.column ≤ columns) (number : Nat)
    (rows : List (Band F)) :
    (cellRowsGuarded columns number rows entries : Guarded ε (List (List String))) =
      .ok (cellRows columns number rows entries) := by
  induction rows generalizing number entries with
  | nil => rfl
  | cons row rows ih =>
    have first (entry : Entry F) (member : entry ∈ entries.takeWhile (·.row == number)) :
        1 ≤ entry.column ∧ entry.column ≤ (List.replicate columns "").length := by
      rw [List.length_replicate]
      exact placed entry (List.takeWhile_subset _ member)
    have others (entry : Entry F) (member : entry ∈ entries.dropWhile (·.row == number)) :
        1 ≤ entry.column ∧ entry.column ≤ columns :=
      placed entry (List.dropWhile_subset _ member)
    rw [cellRowsGuarded, foldlM_setCellGuarded first, Guarded.ok_bind, ih others, Guarded.ok_bind]
    rfl

theorem tableGuarded_eq {model : Model F} (fit : model.IndicesFit) :
    (model.tableGuarded : Guarded ε String) = .ok model.table := by
  rw [tableGuarded, cellRowsGuarded_eq fun entry member => (fit entry member).2, Guarded.ok_bind]
  rfl

end Model

end LinearProgram
