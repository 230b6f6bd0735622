import LinearProgram.Proofs.Compile.Representation
import LinearProgram.Proofs.Guarded.Pipeline
import LinearProgram.Proofs.Number.Visible

namespace LinearProgram

variable {F : Type}

namespace Model

structure IsRowMajor (model : Model F) : Prop where
  sorted : model.entries.Pairwise fun earlier later => earlier.row ≤ later.row
  fit : model.IndicesFit

/-- The entry for a place in the matrix, the last one if there are several. -/
def entryAt? (entries : List (Entry F)) (row column : Nat) : Option (Entry F) :=
  (entries.filter fun entry => entry.row = row ∧ entry.column = column).getLast?

theorem entryAt?_eq_none {entries : List (Entry F)} {row column : Nat} :
    entryAt? entries row column = none ↔
      ∀ entry ∈ entries, ¬ (entry.row = row ∧ entry.column = column) := by
  rw [entryAt?, List.getLast?_eq_none_iff, List.filter_eq_nil_iff]
  simp only [decide_eq_true_eq]

theorem entryAt?_of_last {before after : List (Entry F)} {entry : Entry F}
    (last : ∀ other ∈ after, ¬ (other.row = entry.row ∧ other.column = entry.column)) :
    entryAt? (before ++ entry :: after) entry.row entry.column = some entry := by
  have nothing : (after.filter fun other =>
      other.row = entry.row ∧ other.column = entry.column) = [] := by
    rw [List.filter_eq_nil_iff]
    intro other member
    simpa using last other member
  rw [entryAt?, List.filter_append, List.filter_cons_of_pos (by simp), nothing]
  exact List.getLast?_concat

/-- A pass that takes the entries of a row off the front leaves those of later rows. -/
theorem takeWhile_dropWhile_row {entries : List (Entry F)} {number : Nat}
    (sorted : entries.Pairwise fun earlier later => earlier.row ≤ later.row)
    (ahead : ∀ entry ∈ entries, number ≤ entry.row) :
    (entries.takeWhile (·.row == number) = entries.filter fun entry => entry.row = number) ∧
      entries.dropWhile (·.row == number) = entries.filter fun entry => number < entry.row := by
  induction entries with
  | nil => exact ⟨rfl, rfl⟩
  | cons entry entries ih =>
    obtain ⟨first, sorted⟩ := List.pairwise_cons.mp sorted
    obtain ⟨here, later⟩ := List.forall_mem_cons.mp ahead
    obtain ⟨taken, left⟩ := ih sorted later
    by_cases same : entry.row = number
    · simp [same, taken, left]
    · have beyond : ∀ other ∈ entry :: entries, number < other.row := by
        intro other member
        rcases List.mem_cons.mp member with rfl | member
        · omega
        · have after := first other member
          omega
      have nothing : ((entry :: entries).filter fun entry => entry.row = number) = [] := by
        rw [List.filter_eq_nil_iff]
        intro other member
        have after := beyond other member
        simp only [decide_eq_true_eq]
        omega
      have all : ((entry :: entries).filter fun entry => number < entry.row) =
          entry :: entries := by
        rw [List.filter_eq_self]
        intro other member
        exact decide_eq_true (beyond other member)
      rw [nothing, all]
      simp [same]

/-! A table as it is drawn, in cells of eight characters. -/

def blanks (n : Nat) : String :=
  String.ofList (List.replicate n ' ')

def flushRight (head : String) : String :=
  blanks (8 - head.length) ++ head

/-- Half of the blanks stand before a text, and the odd one behind it. -/
def centered (text : String) : String :=
  blanks ((8 - text.length) / 2) ++ text ++ blanks ((9 - text.length) / 2)

def drawnRow (head : String) (cells : List String) : String :=
  flushRight head ++ String.join (cells.map centered)

def kindWord : Kind → String
  | .free => "free"
  | .lower => "lower"
  | .upper => "upper"
  | .double => "double"
  | .fixed => "fixed"

def drawnRule (model : Model F) (c : Char) : String :=
  String.ofList (List.replicate (8 * (1 + model.columns.length) + 2) c)

theorem spaces_eq_blanks (n : Nat) : Text.spaces n = blanks n :=
  Text.spaces_eq n

theorem center_eq_centered : Text.center cellWidth = centered := by
  funext text
  have behind : 8 - text.length - (8 - text.length) / 2 = (9 - text.length) / 2 := by omega
  rw [Text.center, cellWidth, spaces_eq_blanks, spaces_eq_blanks, behind]
  rfl

theorem tableLine_eq_drawnRow (head : String) (cells : List String) :
    tableLine head cells = drawnRow head cells := by
  rw [tableLine, center_eq_centered, Text.padLeft, spaces_eq_blanks]
  rfl

theorem ruler_eq_drawnRule (model : Model F) (c : Char) : model.ruler c = model.drawnRule c := by
  rw [← String.toList_inj, ruler, drawnRule, Text.toList_pushn, String.toList_ofList, cellWidth,
    Nat.mul_comm]

theorem label_eq_kindWord (kind : Kind) : kind.label = kindWord kind := by
  cases kind <;> rfl

theorem isVisible_centered (text : String) : IsVisible (centered text) ↔ IsVisible text := by
  rw [← center_eq_centered, isVisible_center]

variable [Scalar F]

def shown (found : Option (Entry F)) : String :=
  (found.map fun entry => Scalar.render entry.coefficient).getD ""

theorem cells_eq (columns : Nat) (entries : List (Entry F)) :
    cells columns entries = (List.range columns).map fun place =>
      shown (entries.filter fun entry => entry.column - 1 = place).getLast? := by
  induction entries using List.reverseRecOn with
  | nil => simp [cells, shown, List.map_const']
  | append_singleton entries entry ih =>
    rw [cells] at ih ⊢
    rw [List.foldl_append, ih, List.foldl_cons, List.foldl_nil]
    apply List.ext_getElem
    · simp
    · intro place first second
      rw [List.getElem_set, List.getElem_map, List.getElem_map, List.getElem_range,
        List.filter_append]
      by_cases here : entry.column - 1 = place <;> simp [here, shown]

def lookUpRows (columns number rows : Nat) (entries : List (Entry F)) : List (List String) :=
  (List.range' number rows).map fun row =>
    (List.range' 1 columns).map fun column => shown (entryAt? entries row column)

/-- The pass over the entries fills each row like looking its cells up, as long as the entries that
are left belong to the rows that are left. -/
theorem cellRows_eq {columns number : Nat} {rows : List (Band F)} {entries : List (Entry F)}
    (sorted : entries.Pairwise fun earlier later => earlier.row ≤ later.row)
    (ahead : ∀ entry ∈ entries, number ≤ entry.row)
    (counted : ∀ entry ∈ entries, 1 ≤ entry.column) :
    cellRows columns number rows entries = lookUpRows columns number rows.length entries := by
  induction rows generalizing number entries with
  | nil => rfl
  | cons row rows ih =>
    obtain ⟨taken, left⟩ := takeWhile_dropWhile_row sorted ahead
    rw [cellRows, taken, left, cells_eq, lookUpRows, List.length_cons, List.range'_succ,
      List.map_cons]
    congr 1
    · rw [List.range'_eq_map_range, List.map_map]
      apply List.map_congr_left
      intro place _
      rw [List.filter_filter, Function.comp_apply, entryAt?]
      congr 2
      apply List.filter_congr
      intro entry member
      have positive := counted entry member
      rw [← Bool.decide_and, decide_eq_decide]
      omega
    · rw [ih (sorted.filter _), lookUpRows]
      · apply List.map_congr_left
        intro later member
        have beyond := (List.mem_range'_1.mp member).1
        apply List.map_congr_left
        intro column _
        rw [entryAt?, entryAt?, List.filter_filter]
        congr 2
        apply List.filter_congr
        intro entry _
        rw [← Bool.decide_and, decide_eq_decide]
        omega
      · intro entry member
        exact of_decide_eq_true (List.mem_filter.mp member).2
      · intro entry member
        exact counted entry (List.mem_filter.mp member).1

theorem cellRows_model {model : Model F} (rowMajor : model.IsRowMajor) :
    cellRows model.columns.length 1 model.rows model.entries =
      lookUpRows model.columns.length 1 model.rows.length model.entries :=
  cellRows_eq rowMajor.sorted (fun entry member => (rowMajor.fit entry member).1.1)
    (fun entry member => (rowMajor.fit entry member).2.1)

def drawnLine (model : Model F) (number : Nat) (row : Band F) : String :=
  drawnRow row.name ((List.range' 1 model.columns.length).map fun column =>
    shown (entryAt? model.entries number column)) ++ "  " ++ kindWord row.kind

def drawnLines (model : Model F) : List String :=
  [if model.sense = .minimize then "min" else "max",
    drawnRow "" (model.columns.map Band.name),
    model.drawnRule '=',
    drawnRow "cost" (model.objective.map Scalar.render),
    model.drawnRule '-'] ++
  model.rows.mapIdx (fun place row => model.drawnLine (place + 1) row) ++
  [model.drawnRule '-'] ++ (model.rows ++ model.columns).map Band.text

theorem rowLines_eq {model : Model F} (rowMajor : model.IsRowMajor) :
    model.rowLines = model.rows.mapIdx fun place row => model.drawnLine (place + 1) row := by
  rw [rowLines, cellRows_model rowMajor, lookUpRows]
  apply List.ext_getElem
  · simp
  · intro place first second
    simp [drawnLine, tableLine_eq_drawnRow, label_eq_kindWord, Nat.add_comm]

theorem tableLines_eq {model : Model F} (rowMajor : model.IsRowMajor) :
    model.tableLines = model.drawnLines := by
  have sense : model.sense.abbreviation = if model.sense = .minimize then "min" else "max" := by
    cases model.sense <;> rfl
  rw [tableLines, drawnLines, rowLines_eq rowMajor, sense, tableLine_eq_drawnRow,
    tableLine_eq_drawnRow, ruler_eq_drawnRule, ruler_eq_drawnRule]

theorem getElem?_tableLines {model : Model F} (rowMajor : model.IsRowMajor) {place : Nat}
    {row : Band F} (found : model.rows[place]? = some row) :
    model.tableLines[place + 5]? = some (model.drawnLine (place + 1) row) := by
  have line : (model.rows.mapIdx fun place row => model.drawnLine (place + 1) row)[place]? =
      some (model.drawnLine (place + 1) row) := by
    rw [List.getElem?_mapIdx, found, Option.map_some]
  have within := (List.getElem?_eq_some_iff.mp line).1
  rw [tableLines_eq rowMajor, drawnLines, List.append_assoc, List.append_assoc,
    List.getElem?_append_right (by simp), List.getElem?_append_left (by simpa using within)]
  exact line

theorem isVisible_shown {entries : List (Entry F)}
    (visible : ∀ entry ∈ entries, IsVisible (Scalar.render entry.coefficient)) (row column : Nat) :
    IsVisible (shown (entryAt? entries row column)) ↔
      ∃ entry ∈ entries, entry.row = row ∧ entry.column = column := by
  cases found : entryAt? entries row column with
  | none =>
    have nothing := entryAt?_eq_none.mp found
    constructor
    · intro visible
      have empty : ¬ IsVisible "" := by decide
      exact absurd visible empty
    · rintro ⟨entry, member, here⟩
      exact absurd here (nothing entry member)
  | some entry =>
    obtain ⟨member, here⟩ := List.mem_filter.mp (List.mem_of_getLast? found)
    constructor
    · intro _
      exact ⟨entry, member, of_decide_eq_true here⟩
    · intro _
      exact visible entry member

structure ShowsCells (model : Model F) : Prop where
  table : model.table = String.join (model.drawnLines.map (· ++ "\n"))
  line : ∀ (place : Nat) (row : Band F), model.rows[place]? = some row →
    model.tableLines[place + 5]? = some (model.drawnLine (place + 1) row)
  last : ∀ before entry after, model.entries = before ++ entry :: after →
    (∀ other ∈ after, ¬ (other.row = entry.row ∧ other.column = entry.column)) →
      shown (entryAt? model.entries entry.row entry.column) = Scalar.render entry.coefficient
  blank_iff : (∀ entry ∈ model.entries, IsVisible (Scalar.render entry.coefficient)) →
    ∀ row column, ¬ IsVisible (centered (shown (entryAt? model.entries row column))) ↔
      ∀ entry ∈ model.entries, ¬ (entry.row = row ∧ entry.column = column)

/-- The table of a model that stands row by row shows what looking up each cell by itself gives. All
compiled models stand so, and a number is never shown by blanks only. -/
theorem table_shows_cells :
    (∀ (stem : String) (problem : Problem F) (model : Model F),
      (problem.compile stem).outcome = .ok model → model.IsRowMajor) ∧
    (∀ model : Model F, model.IsRowMajor → model.ShowsCells) ∧
    (∀ value : Rat, IsVisible (Scalar.render value)) ∧
    (∀ value : Fraction64, IsVisible (Scalar.render value)) ∧
    ∀ value : Float, IsVisible (Scalar.render value) := by
  refine ⟨?_, ?_, Rational.isVisible_render, fun value => Rational.isVisible_render value.value,
    Binary64.isVisible_render⟩
  · intro stem problem model compiled
    have made := Problem.compilesTo_of_ok compiled
    exact ⟨made.entries ▸ pairwise_formsEntries _ _, made.indicesFit⟩
  · intro model rowMajor
    exact {
      table := by
        rw [table, tableLines_eq rowMajor]
        rfl
      line := fun place row found => getElem?_tableLines rowMajor found
      last := by
        intro before entry after split last
        rw [split, entryAt?_of_last last]
        rfl
      blank_iff := by
        intro visible row column
        rw [isVisible_centered, isVisible_shown visible]
        simp only [not_exists, not_and] }

theorem scattered_shows_cells :
    (Problem.scattered.compile "R").outcome = .ok Model.scattered ∧ Model.scattered.ShowsCells ∧
      Model.scattered.tableLines[5]? =
        some "      R1   1               0      upper" ∧
      Model.scattered.tableLines[6]? =
        some "      R2                          lower" ∧
      ¬ IsVisible (centered (shown (entryAt? Model.scattered.entries 1 2))) := by
  have compiled : (Problem.scattered.compile "R").outcome = .ok Model.scattered := by
    decide +kernel
  obtain ⟨rowMajor, shows, visible, _⟩ := table_shows_cells (F := Rat)
  have cells := shows Model.scattered (rowMajor "R" Problem.scattered Model.scattered compiled)
  refine ⟨compiled, cells, ?_, ?_, ?_⟩
  · rw [cells.line 0 ⟨"R1", .upper, 0, 4⟩ rfl]
    decide +kernel
  · rw [cells.line 1 ⟨"R2", .lower, -1, 0⟩ rfl]
    decide +kernel
  · rw [cells.blank_iff fun entry _ => visible entry.coefficient]
    decide +kernel

end Model

end LinearProgram
