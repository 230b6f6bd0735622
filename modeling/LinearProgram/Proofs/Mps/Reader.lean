import LinearProgram.Mps.Document
import LinearProgram.Proofs.Text.Words
import Mathlib.Algebra.Order.Group.Abs
import Mathlib.Algebra.Order.Field.Basic

namespace LinearProgram.Mps

variable {F : Type}

structure Records (F : Type) where
  sense : Sense
  rows : List (RowType × String)
  cells : List (Cell F)
  rightHandSides : List (String × F)
  ranges : List (String × F)
  bounds : List (Bound F)
deriving DecidableEq

/-- Lines cut into words, under the titles of their sections; those before the first title come by
themselves. A title stands at the start of a line and a star there makes a comment of it. -/
def sections : List (List Char) → List (List String) × List (String × List (List String))
  | [] => ([], [])
  | line :: lines =>
    let (data, later) := sections lines
    match Text.words line with
    | [] => (data, later)
    | first :: fields =>
      if line.head? = some '*' then (data, later)
      else if line.head?.any Text.isBlank then ((first :: fields) :: data, later)
      else ([], (first, data) :: later)

def titles : List String :=
  ["NAME", "OBJSENSE", "ROWS", "COLUMNS", "RHS", "RANGES", "BOUNDS", "ENDATA"]

def linesUnder (title : String) (sections : List (String × List (List String))) :
    List (List String) :=
  (sections.filter fun entry => entry.1 = title).flatMap Prod.snd

def readSense : List (List String) → Option Sense
  | [] => some .minimize
  | [["MIN"]] => some .minimize
  | [["MAX"]] => some .maximize
  | _ => none

def readRow : List String → Option (RowType × String)
  | ["N", name] => some (.free, name)
  | ["G", name] => some (.atLeast, name)
  | ["L", name] => some (.atMost, name)
  | ["E", name] => some (.equal, name)
  | _ => none

section Numbers

variable (number? : String → Option F)

def readPairs : List String → Option (List (String × F))
  | [] => some []
  | [name] => (number? "").map fun value => [(name, value)]
  | name :: text :: fields => do
    let value ← number? text
    let others ← readPairs fields
    return (name, value) :: others

def readCells : List String → Option (List (Cell F))
  | [] => none
  | column :: fields => (readPairs number? fields).map fun pairs =>
    pairs.map fun (row, value) => ⟨column, row, value⟩

def readValues : List String → Option (List (String × F))
  | [] => none
  | _ :: fields => readPairs number? fields

def readBound : List String → Option (Bound F)
  | ["FR", _, column] => some (.free column)
  | ["MI", _, column] => some (.unlimitedBelow column)
  | mark :: _ :: fields => do
    let [(column, value)] ← readPairs number? fields | none
    match mark with
    | "LO" => some (.atLeast column value)
    | "UP" => some (.atMost column value)
    | "FX" => some (.fixed column value)
    | _ => none
  | _ => none

def readRecords (text : String) : Option (Records F) := do
  let (_, found) := sections (text.toList.splitOn '\n')
  let present := found.map Prod.fst
  if present.isSublist titles ∧ present.getLast? = some "ENDATA" then
    let sense ← readSense (linesUnder "OBJSENSE" found)
    let rows ← (linesUnder "ROWS" found).mapM readRow
    let cells ← (linesUnder "COLUMNS" found).mapM (readCells number?)
    let rightHandSides ← (linesUnder "RHS" found).mapM (readValues number?)
    let ranges ← (linesUnder "RANGES" found).mapM (readValues number?)
    let bounds ← (linesUnder "BOUNDS" found).mapM (readBound number?)
    return ⟨sense, rows, cells.flatten, rightHandSides.flatten, ranges.flatten, bounds⟩
  else none

end Numbers

def Bound.column : Bound F → String
  | .free column | .atLeast column _ | .unlimitedBelow column | .atMost column _
  | .fixed column _ => column

def Bound.limit (interval : Interval F) : Bound F → Interval F
  | .free _ => .whole
  | .atLeast _ value => ⟨some value, interval.upper⟩
  | .unlimitedBelow _ => ⟨none, interval.upper⟩
  | .atMost _ value => ⟨interval.lower, some value⟩
  | .fixed _ value => ⟨some value, some value⟩

section Meaning

variable [Field F] [LinearOrder F]

/-- The interval of a row with a right hand side and perhaps a range, which goes away from the
right hand side in the direction that the type has, or else that the sign of the range has. -/
def RowType.interval (side : F) : RowType → Option F → Interval F
  | .free, _ => .whole
  | .atLeast, range => ⟨some side, range.map fun width => side + |width|⟩
  | .atMost, range => ⟨range.map fun width => side - |width|, some side⟩
  | .equal, none => ⟨some side, some side⟩
  | .equal, some width => ⟨some (side + min width 0), some (side + max width 0)⟩

def columnInterval (bounds : List (Bound F)) (column : String) : Interval F :=
  (bounds.filter fun bound => bound.column = column).foldl Bound.limit ⟨some 0, none⟩

def readEntry (rows columns : List String) (cell : Cell F) : Option (Entry F) := do
  let row ← rows.idxOf? cell.row
  let column ← columns.idxOf? cell.column
  return ⟨row + 1, column + 1, cell.value⟩

def cellValue (cells : List (Cell F)) (row column : String) : F :=
  ((cells.find? fun cell => cell.column = column ∧ cell.row = row).map Cell.value).getD 0

omit [LinearOrder F] in
theorem cellValue_eq (cells : List (Cell F)) (row column : String) :
    cellValue cells row column =
      (((cells.filter fun cell => cell.column = column).find? fun cell => cell.row = row).map
        Cell.value).getD 0 := by
  rw [cellValue, List.find?_filter]
  simp

variable [Scalar F]

/-- The model that records describe. The first free row is the cost, columns come in the order in
which they are first given a value, and each right hand side is zero until it is given. -/
def Records.model? (records : Records F) : Option (Model F) := do
  let (_, cost) ← records.rows.find? fun row => row.1 = .free
  let rows := records.rows.eraseP fun row => row.1 = .free
  let columns := (records.cells.map Cell.column).eraseDups
  let entries ← (records.cells.filter fun cell => cell.row ≠ cost).mapM
    (readEntry (rows.map Prod.snd) columns)
  return {
    rows := rows.map fun (type, name) =>
      (type.interval ((records.rightHandSides.lookup name).getD 0)
        (records.ranges.lookup name)).band name
    columns := columns.map fun column => (columnInterval records.bounds column).band column
    entries := entries
    objective := columns.map (cellValue records.cells cost)
    sense := records.sense }

def read? (number? : String → Option F) (text : String) : Option (Model F) :=
  (readRecords number? text).bind Records.model?

end Meaning

end LinearProgram.Mps
