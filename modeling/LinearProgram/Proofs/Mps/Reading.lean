import LinearProgram.Proofs.Mps.Lines
import LinearProgram.Proofs.Mps.Reader
import LinearProgram.Proofs.Text.Lines
import Mathlib.Data.List.Basic

namespace LinearProgram.Mps

open Text

theorem splitOn_unlines {lines : List String} (whole : ∀ line ∈ lines, IsOneLine line) :
    (Text.unlines lines).toList.splitOn '\n' = lines.map String.toList ++ [[]] := by
  induction lines with
  | nil => rfl
  | cons line lines ih =>
    obtain ⟨first, others⟩ := List.forall_mem_cons.mp whole
    rw [toList_unlines_cons, List.splitOn_append_cons_self_of_not_mem first, ih others]
    rfl

theorem mapM_eq_some {α β : Type} {f : α → Option β} {g : α → β} {xs : List α}
    (each : ∀ x ∈ xs, f x = some (g x)) : xs.mapM f = some (xs.map g) := by
  induction xs with
  | nil => rfl
  | cons x xs ih =>
    obtain ⟨first, others⟩ := List.forall_mem_cons.mp each
    rw [List.mapM_cons, first, ih others]
    rfl

theorem mapM_flatMap_eq_some {α β γ : Type} {f : β → Option γ} {g : α → List β} {h : α → List γ}
    {xs : List α} (each : ∀ x ∈ xs, (g x).mapM f = some (h x)) :
    (xs.flatMap g).mapM f = some (xs.flatMap h) := by
  induction xs with
  | nil => rfl
  | cons x xs ih =>
    obtain ⟨first, others⟩ := List.forall_mem_cons.mp each
    rw [List.flatMap_cons, List.mapM_append, first, ih others]
    rfl

theorem sections_title {title : String} {line : List Char} {fields : List String} {c : Char}
    {lines : List (List Char)} {later : List (String × List (List String))}
    {data : List (List String)} (start : line.head? = some c) (plain : c ≠ '*')
    (solid : Text.isBlank c = false) (named : words line = title :: fields)
    (after : sections lines = (data, later)) :
    sections (line :: lines) = ([], (title, data) :: later) := by
  simp [sections, after, named, start, plain, solid]

theorem sections_data {line : List Char} {lines : List (List Char)} (start : line.head? = some ' ')
    (filled : words line ≠ []) :
    sections (line :: lines) = (words line :: (sections lines).1, (sections lines).2) := by
  cases named : words line with
  | nil => exact absurd named filled
  | cons first fields =>
    have blank : Text.isBlank ' ' := by decide
    simp [sections, named, start, blank]

section Blocks

variable {α : Type} {line : α → String} {fields : α → List String} {xs : List α}
  {lines : List (List Char)} {later : List (String × List (List String))}

def Indented (line : α → String) (fields : α → List String) (xs : List α) : Prop :=
  ∀ x ∈ xs, (line x).toList.head? = some ' ' ∧ words (line x).toList = fields x ∧ fields x ≠ []

theorem sections_indented (indented : Indented line fields xs) :
    sections ((xs.map line).map String.toList ++ lines) =
      (xs.map fields ++ (sections lines).1, (sections lines).2) := by
  induction xs with
  | nil => rfl
  | cons x xs ih =>
    obtain ⟨⟨start, named, filled⟩, others⟩ := List.forall_mem_cons.mp indented
    rw [← named] at filled
    rw [List.map_cons, List.map_cons, List.cons_append, sections_data start filled, ih others,
      named]
    rfl

theorem sections_block (title : String) (word : IsWord title)
    (plain : title.toList.head? ≠ some '*') (indented : Indented line fields xs)
    (after : sections lines = ([], later)) :
    sections ((title :: xs.map line).map String.toList ++ lines) =
      ([], (title, xs.map fields) :: later) := by
  have inside : sections ((xs.map line).map String.toList ++ lines) = (xs.map fields, later) := by
    rw [sections_indented indented, after, List.append_nil]
  cases start : title.toList with
  | nil => exact absurd (String.toList_eq_nil_iff.mp start) word.nonempty
  | cons c rest =>
    have solid := word.solid c (by simp [start])
    have unstarred : c ≠ '*' := by simpa [start] using plain
    exact sections_title (by rw [start]; rfl) unstarred solid (words_of_isWord word) inside

def optionalBlock (title : String) (lines : List (List String)) :
    List (String × List (List String)) :=
  if lines = [] then [] else [(title, lines)]

theorem sections_optionalSection (title : String) (word : IsWord title)
    (plain : title.toList.head? ≠ some '*') (indented : Indented line fields xs)
    (after : sections lines = ([], later)) :
    sections ((optionalSection title (xs.map line)).map String.toList ++ lines) =
      ([], optionalBlock title (xs.map fields) ++ later) := by
  unfold optionalSection optionalBlock
  by_cases empty : xs = []
  · simp [empty, after]
  · simp only [List.map_eq_nil_iff, empty, ↓reduceIte]
    exact sections_block title word plain indented after

end Blocks

section Lines

variable {F : Type} [Scalar F]

theorem isOneLine_optionalSection {title : String} {lines : List String}
    (titleWhole : IsOneLine title) (whole : ∀ line ∈ lines, IsOneLine line) :
    ∀ line ∈ optionalSection title lines, IsOneLine line := by
  unfold optionalSection
  split
  · simp
  · exact List.forall_mem_cons.mpr ⟨titleWhole, whole⟩

def rowFields (row : RowType × String) : List String :=
  [row.1.letter, row.2]

def cellFields (cell : Cell F) : List String :=
  [cell.column, cell.row] ++ words (Scalar.render cell.value).toList

def valueFields (set : String) (value : String × F) : List String :=
  [set, value.1] ++ words (Scalar.render value.2).toList

def Bound.fields : Bound F → List String
  | .free column => ["FR", "BND", column]
  | .atLeast column value => ["LO", "BND", column] ++ words (Scalar.render value).toList
  | .unlimitedBelow column => ["MI", "BND", column]
  | .atMost column value => ["UP", "BND", column] ++ words (Scalar.render value).toList
  | .fixed column value => ["FX", "BND", column] ++ words (Scalar.render value).toList

theorem indented_rows {rows : List (RowType × String)} (legible : ∀ row ∈ rows, IsWord row.2) :
    Indented (fun row => " " ++ row.1.letter ++ "  " ++ row.2) rowFields rows := by
  intro row member
  have letterWord : IsWord row.1.letter := by
    cases row.1 <;> exact ⟨by decide, by decide⟩
  have indented : words (" " ++ row.1.letter).toList = [row.1.letter] := by
    rw [String.toList_append, words_blanks_append (by decide), words_of_isWord letterWord]
  have name : words (" " ++ row.2).toList = [row.2] := by
    rw [String.toList_append, words_blanks_append (by decide), words_of_isWord (legible row member)]
  have apart : (" " ++ row.1.letter ++ "  " ++ row.2) =
      " " ++ row.1.letter ++ " " ++ (" " ++ row.2) := by
    simp [← String.toList_inj]
  refine ⟨by simp, ?_, List.cons_ne_nil _ _⟩
  show words (" " ++ row.1.letter ++ "  " ++ row.2).toList = [row.1.letter, row.2]
  rw [apart, words_join, indented, name]
  rfl

theorem indented_cells {cells : List (Cell F)}
    (legible : ∀ cell ∈ cells, IsWord cell.column ∧ IsWord cell.row) :
    Indented (fun cell => valueLine cell.column cell.row cell.value) cellFields cells := by
  intro cell member
  obtain ⟨column, row⟩ := legible cell member
  exact ⟨by simp [valueLine], words_valueLine column row cell.value, List.cons_ne_nil _ _⟩

theorem indented_values (set : String) (setWord : IsWord set) {values : List (String × F)}
    (legible : ∀ value ∈ values, IsWord value.1) :
    Indented (fun value => valueLine set value.1 value.2) (valueFields set) values := by
  intro value member
  have named := words_valueLine setWord (legible value member) value.2
  exact ⟨by simp [valueLine], named, List.cons_ne_nil _ _⟩

theorem indented_bounds {bounds : List (Bound F)}
    (legible : ∀ bound ∈ bounds, IsWord bound.column) :
    Indented Bound.line Bound.fields bounds := by
  intro bound member
  have word := legible bound member
  cases bound with
  | free column | unlimitedBelow column =>
    have named := words_of_isWord word
    refine ⟨by simp [Bound.line, boundLine], ?_, by simp [Bound.fields]⟩
    rw [Bound.line, words_boundLine ⟨by decide, by decide⟩]
    exact congrArg (List.append _) named
  | atLeast column value | atMost column value | fixed column value =>
    refine ⟨by simp [Bound.line, boundValueLine, boundLine], ?_, by simp [Bound.fields]⟩
    exact words_boundValueLine ⟨by decide, by decide⟩ word value

end Lines

namespace Document

variable {F : Type} [Scalar F]

structure Legible (document : Document F) : Prop where
  name : IsOneLine document.name
  cost : IsWord document.cost
  rows : ∀ row ∈ document.rows, IsWord row.2
  cells : ∀ cell ∈ document.cells, IsWord cell.column ∧ IsWord cell.row
  rightHandSides : ∀ side ∈ document.rightHandSides, IsWord side.1
  ranges : ∀ range ∈ document.ranges, IsWord range.1
  bounds : ∀ bound ∈ document.bounds, IsWord bound.column

def allRows (document : Document F) : List (RowType × String) :=
  (.free, document.cost) :: document.rows

omit [Scalar F] in
theorem Legible.allRows {document : Document F} (legible : document.Legible) :
    ∀ row ∈ document.allRows, IsWord row.2 :=
  List.forall_mem_cons.mpr ⟨legible.cost, legible.rows⟩

def senseFields : Sense → List (List String)
  | .minimize => []
  | .maximize => [["MAX"]]

def blocks (document : Document F) : List (String × List (List String)) :=
  ("NAME", []) :: (optionalBlock "OBJSENSE" (senseFields document.sense) ++
    ("ROWS", document.allRows.map rowFields) ::
    ("COLUMNS", document.cells.map cellFields) ::
    (optionalBlock "RHS" (document.rightHandSides.map (valueFields "RHS")) ++
    (optionalBlock "RANGES" (document.ranges.map (valueFields "RNG")) ++
    (optionalBlock "BOUNDS" (document.bounds.map Bound.fields) ++ [("ENDATA", [])]))))

theorem sections_nameLine (name : String) {lines : List (List Char)}
    {later : List (String × List (List String))} (after : sections lines = ([], later)) :
    sections ((Text.padRight 14 "NAME" ++ name).toList :: lines) = ([], ("NAME", []) :: later) := by
  have blank : (Text.padRight 14 "NAME" ++ name).toList =
      "NAME".toList ++ ' ' :: (List.replicate 9 ' ' ++ name.toList) := by
    rw [String.toList_append, toList_padRight]
    rfl
  have named := words_append_cons (c := ' ') (by decide) "NAME".toList
    (List.replicate 9 ' ' ++ name.toList)
  rw [words_of_isWord ⟨by decide, by decide⟩, ← blank] at named
  exact sections_title (by rw [blank]; rfl) (by decide) (by decide) named after

theorem sections_senseLines (sense : Sense) {lines : List (List Char)}
    {later : List (String × List (List String))} (after : sections lines = ([], later)) :
    sections ((senseLines sense).map String.toList ++ lines) =
      ([], optionalBlock "OBJSENSE" (senseFields sense) ++ later) := by
  cases sense with
  | minimize => exact after
  | maximize =>
    have indented : Indented (fun _ => "    MAX") (fun _ => ["MAX"]) [()] := by
      intro _ _
      have word : IsWord "MAX" := ⟨by decide, by decide⟩
      have blank : "    ".toList.all Text.isBlank := by decide
      have cut : "    MAX".toList = "    ".toList ++ "MAX".toList := by decide
      have named : words "    MAX".toList = ["MAX"] := by
        rw [cut, words_blanks_append blank, words_of_isWord word]
      have start : "    MAX".toList.head? = some ' ' := by decide
      exact ⟨start, named, List.cons_ne_nil _ _⟩
    exact sections_block "OBJSENSE" ⟨by decide, by decide⟩ (by decide) indented after

theorem lines_eq (document : Document F) :
    document.lines =
      [Text.padRight 14 "NAME" ++ document.name] ++ (senseLines document.sense ++
      ("ROWS" :: document.allRows.map fun row => " " ++ row.1.letter ++ "  " ++ row.2) ++
      ("COLUMNS" :: document.cells.map fun cell => valueLine cell.column cell.row cell.value) ++
      optionalSection "RHS"
        (document.rightHandSides.map fun side => valueLine "RHS" side.1 side.2) ++
      optionalSection "RANGES" (document.ranges.map fun range => valueLine "RNG" range.1 range.2) ++
      optionalSection "BOUNDS" (document.bounds.map Bound.line) ++ ["ENDATA"]) := by
  have cost : " " ++ RowType.letter .free ++ "  " = " N  " := by decide
  simp [lines, allRows, cost]

/-- The sections are read from the last one on, each above those that stand behind it. -/
theorem sections_lines {document : Document F} (legible : document.Legible) :
    sections (document.lines.map String.toList ++ [[]]) = ([], document.blocks) := by
  have ending : sections (["ENDATA"].map String.toList ++ [[]]) = ([], [("ENDATA", [])]) :=
    sections_title rfl (by decide) (by decide) (words_of_isWord ⟨by decide, by decide⟩) rfl
  have bounds := sections_optionalSection "BOUNDS" ⟨by decide, by decide⟩ (by decide)
    (indented_bounds legible.bounds) ending
  have ranges := sections_optionalSection "RANGES" ⟨by decide, by decide⟩ (by decide)
    (indented_values "RNG" ⟨by decide, by decide⟩ legible.ranges) bounds
  have rightHandSides := sections_optionalSection "RHS" ⟨by decide, by decide⟩ (by decide)
    (indented_values "RHS" ⟨by decide, by decide⟩ legible.rightHandSides) ranges
  have cells := sections_block "COLUMNS" ⟨by decide, by decide⟩ (by decide)
    (indented_cells legible.cells) rightHandSides
  have rows := sections_block "ROWS" ⟨by decide, by decide⟩ (by decide)
    (indented_rows legible.allRows) cells
  have written := sections_nameLine document.name (sections_senseLines document.sense rows)
  simpa [lines_eq, blocks] using written

end Document

theorem linesUnder_append (title : String) (first second : List (String × List (List String))) :
    linesUnder title (first ++ second) = linesUnder title first ++ linesUnder title second := by
  rw [linesUnder, List.filter_append, List.flatMap_append]
  rfl

theorem linesUnder_cons (title other : String) (lines : List (List String))
    (rest : List (String × List (List String))) :
    linesUnder title ((other, lines) :: rest) =
      (if other = title then lines else []) ++ linesUnder title rest := by
  by_cases same : other = title <;> simp [linesUnder, same]

theorem linesUnder_optionalBlock (title other : String) (lines : List (List String)) :
    linesUnder title (optionalBlock other lines) = if other = title then lines else [] := by
  unfold optionalBlock
  by_cases empty : lines = []
  · simp [linesUnder, empty]
  · rw [if_neg empty, linesUnder_cons]
    exact List.append_nil _

theorem titles_optionalBlock (title : String) (lines : List (List String)) :
    ((optionalBlock title lines).map Prod.fst).Sublist [title] := by
  unfold optionalBlock
  split
  · exact List.nil_sublist _
  · exact List.Sublist.refl _

namespace Document

variable {F : Type} [Scalar F]

theorem blocks_sublist (document : Document F) :
    (document.blocks.map Prod.fst).Sublist titles := by
  have optional := titles_optionalBlock
  simp only [blocks, List.map_cons, List.map_append, List.map_nil]
  show List.Sublist _ ("NAME" :: (["OBJSENSE"] ++ "ROWS" :: "COLUMNS" ::
    (["RHS"] ++ (["RANGES"] ++ (["BOUNDS"] ++ ["ENDATA"])))))
  refine .cons_cons _ ((optional _ _).append (.cons_cons _ (.cons_cons _ ?_)))
  exact (optional _ _).append ((optional _ _).append ((optional _ _).append (.refl _)))

theorem getLast?_blocks (document : Document F) :
    (document.blocks.map Prod.fst).getLast? = some "ENDATA" := by
  simp [blocks, List.getLast?_cons, List.getLast?_append]

theorem linesUnder_blocks (document : Document F) :
    linesUnder "OBJSENSE" document.blocks = senseFields document.sense ∧
    linesUnder "ROWS" document.blocks = document.allRows.map rowFields ∧
    linesUnder "COLUMNS" document.blocks = document.cells.map cellFields ∧
    linesUnder "RHS" document.blocks = document.rightHandSides.map (valueFields "RHS") ∧
    linesUnder "RANGES" document.blocks = document.ranges.map (valueFields "RNG") ∧
    linesUnder "BOUNDS" document.blocks = document.bounds.map Bound.fields := by
  have nothing (title : String) : linesUnder title [] = [] := rfl
  simp [blocks, linesUnder_cons, linesUnder_append, linesUnder_optionalBlock, nothing]

end Document

section Fields

variable {F : Type} [Scalar F] {number? : String → Option F}

theorem readSense_senseFields (sense : Sense) :
    readSense (Document.senseFields sense) = some sense := by
  cases sense <;> rfl

theorem readRow_rowFields (row : RowType × String) : readRow (rowFields row) = some row := by
  rcases row with ⟨type, name⟩
  cases type <;> rfl

variable (reads : ∀ value, number? (Scalar.render value) = some value)
  (solid : ∀ value : F, IsSolid (Scalar.render value))

include reads solid

theorem readPairs_value (name : String) (value : F) :
    readPairs number? (name :: words (Scalar.render value).toList) = some [(name, value)] := by
  have read := reads value
  rw [words_of_isSolid (solid value)]
  split
  · rename_i empty
    rw [empty] at read
    simp [readPairs, read]
  · simp [readPairs, read]

theorem readCells_cellFields (cell : Cell F) :
    readCells number? (cellFields cell) = some [cell] := by
  have pairs := readPairs_value reads solid cell.row cell.value
  simp only [readCells, cellFields, List.cons_append, List.nil_append, pairs, Option.map_some]
  rfl

theorem readValues_valueFields (set : String) (value : String × F) :
    readValues number? (valueFields set value) = some [value] :=
  readPairs_value reads solid value.1 value.2

theorem readBound_fields (bound : Bound F) : readBound number? bound.fields = some bound := by
  cases bound with
  | free column | unlimitedBelow column => rfl
  | atLeast column value | atMost column value | fixed column value =>
    have pairs := readPairs_value reads solid column value
    simp [readBound, Bound.fields, pairs]

omit reads in
theorem isOneLine_boundLines (bound : Bound F) (word : IsWord bound.column) :
    IsOneLine bound.line := by
  cases bound with
  | free column | unlimitedBelow column =>
    exact isOneLine_boundLine (by decide) (isOneLine_of_isSolid word.solid)
  | atLeast column value | atMost column value | fixed column value =>
    exact isOneLine_boundValueLine (by decide) word.solid (solid value)

omit reads in
theorem isOneLine_lines {document : Document F} (legible : document.Legible) :
    ∀ line ∈ document.lines, IsOneLine line := by
  have head : IsOneLine (Text.padRight 14 "NAME" ++ document.name) :=
    IsOneLine.append (by decide) legible.name
  have senses : ∀ line ∈ Document.senseLines document.sense, IsOneLine line := by
    cases document.sense <;> decide
  have rows : ∀ row ∈ document.allRows, IsOneLine (" " ++ row.1.letter ++ "  " ++ row.2) := by
    intro row member
    have word := legible.allRows row member
    have start : IsOneLine (" " ++ row.1.letter ++ "  ") := by cases row.1 <;> decide
    exact start.append (isOneLine_of_isSolid word.solid)
  have cells : ∀ cell ∈ document.cells, IsOneLine (valueLine cell.column cell.row cell.value) := by
    intro cell member
    obtain ⟨column, row⟩ := legible.cells cell member
    exact isOneLine_valueLine column.solid row.solid (solid cell.value)
  have rightHandSides : ∀ side ∈ document.rightHandSides,
      IsOneLine (valueLine "RHS" side.1 side.2) := by
    intro side member
    have word := legible.rightHandSides side member
    exact isOneLine_valueLine (by decide) word.solid (solid side.2)
  have ranges : ∀ range ∈ document.ranges, IsOneLine (valueLine "RNG" range.1 range.2) := by
    intro range member
    have word := legible.ranges range member
    exact isOneLine_valueLine (by decide) word.solid (solid range.2)
  have bounds : ∀ bound ∈ document.bounds, IsOneLine bound.line := by
    intro bound member
    exact isOneLine_boundLines solid bound (legible.bounds bound member)
  have sides := isOneLine_optionalSection (by decide : IsOneLine "RHS")
    (List.forall_mem_map.mpr rightHandSides)
  have widths := isOneLine_optionalSection (by decide : IsOneLine "RANGES")
    (List.forall_mem_map.mpr ranges)
  have limits := isOneLine_optionalSection (by decide : IsOneLine "BOUNDS")
    (List.forall_mem_map.mpr bounds)
  have noLines : ∀ line ∈ ([] : List String), IsOneLine line := List.forall_mem_nil _
  rw [Document.lines_eq]
  simp only [List.forall_mem_append, List.forall_mem_cons, List.forall_mem_map]
  exact ⟨⟨head, noLines⟩, ⟨⟨⟨⟨⟨senses, by decide, rows⟩, by decide, cells⟩, sides⟩, widths⟩,
    limits⟩, by decide, noLines⟩

/-- Reading a written document gives back all that it says. -/
theorem readRecords_text {document : Document F} (legible : document.Legible) :
    readRecords number? document.text =
      some ⟨document.sense, document.allRows, document.cells, document.rightHandSides,
        document.ranges, document.bounds⟩ := by
  have cut : document.text.toList.splitOn '\n' = document.lines.map String.toList ++ [[]] :=
    splitOn_unlines (isOneLine_lines solid legible)
  obtain ⟨sense, rows, cells, rightHandSides, ranges, bounds⟩ :=
    Document.linesUnder_blocks document
  have readRows : document.allRows.mapM (readRow ∘ rowFields) = some (document.allRows.map id) :=
    mapM_eq_some fun row _ => readRow_rowFields row
  have readBounds : document.bounds.mapM (readBound number? ∘ Bound.fields) =
      some (document.bounds.map id) :=
    mapM_eq_some fun bound _ => readBound_fields reads solid bound
  have readColumns : document.cells.mapM (readCells number? ∘ cellFields) =
      some (document.cells.map fun cell => [cell]) :=
    mapM_eq_some fun cell _ => readCells_cellFields reads solid cell
  have readSides (set : String) (values : List (String × F)) :
      values.mapM (readValues number? ∘ valueFields set) = some (values.map fun value => [value]) :=
    mapM_eq_some fun value _ => readValues_valueFields reads solid set value
  simp only [readRecords, cut, Document.sections_lines legible, sense, rows, cells, rightHandSides,
    ranges, bounds, List.isSublist_iff_sublist, Document.blocks_sublist, Document.getLast?_blocks,
    List.mapM_map, readSense_senseFields, readRows, readColumns, readSides, readBounds]
  simp [← List.flatMap_def]

end Fields

end LinearProgram.Mps
