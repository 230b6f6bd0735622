import LinearProgram.Mps.Document
import LinearProgram.Text.Basic

namespace LinearProgram.Mps

variable {F : Type} [Scalar F]

def RowType.letter : RowType → String
  | .free => "N"
  | .atLeast => "G"
  | .atMost => "L"
  | .equal => "E"

def field (text : String) : String :=
  Text.padRight 9 text

def valueLine (first second : String) (value : F) : String :=
  "    " ++ field first ++ " " ++ field second ++ " " ++ Scalar.render value

def boundLine (mark column : String) : String :=
  " " ++ mark ++ " " ++ field "BND" ++ " " ++ column

def boundValueLine (mark column : String) (value : F) : String :=
  boundLine mark (field column) ++ " " ++ Scalar.render value

def Bound.line : Bound F → String
  | .free column => boundLine "FR" column
  | .atLeast column value => boundValueLine "LO" column value
  | .unlimitedBelow column => boundLine "MI" column
  | .atMost column value => boundValueLine "UP" column value
  | .fixed column value => boundValueLine "FX" column value

def optionalSection (title : String) (lines : List String) : List String :=
  if lines = [] then [] else title :: lines

namespace Document

def senseLines (sense : Sense) : List String :=
  match sense with
  | .minimize => []
  | .maximize => ["OBJSENSE", "    MAX"]

def lines (document : Document F) : List String :=
  [Text.padRight 14 "NAME" ++ document.name] ++
  senseLines document.sense ++
  ["ROWS", " N  " ++ document.cost] ++
  document.rows.map (fun (type, name) => " " ++ type.letter ++ "  " ++ name) ++
  ["COLUMNS"] ++
  document.cells.map (fun cell => valueLine cell.column cell.row cell.value) ++
  optionalSection "RHS" (document.rightHandSides.map fun (row, value) =>
    valueLine "RHS" row value) ++
  optionalSection "RANGES" (document.ranges.map fun (row, width) => valueLine "RNG" row width) ++
  optionalSection "BOUNDS" (document.bounds.map Bound.line) ++
  ["ENDATA"]

def text (document : Document F) : String :=
  Text.unlines document.lines

end Document

end LinearProgram.Mps

namespace LinearProgram.Model

variable {F : Type} [Scalar F]

def mps (model : Model F) (name : String) : Traced Overflow String := do
  let document ← Mps.Document.ofModel model name
  Traced.emit (.wroteMps name model.rows.length model.columns.length model.entries.length)
  return document.text

end LinearProgram.Model
