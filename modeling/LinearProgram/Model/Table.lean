import LinearProgram.Model.Basic
import LinearProgram.Problem.Text

namespace LinearProgram

def Band.text {F : Type} [Scalar F] (band : Band F) : String :=
  let lower := Scalar.render band.lower
  let upper := Scalar.render band.upper
  match band.kind with
  | .free => band.name ++ " free"
  | .lower => band.name ++ " >= " ++ lower
  | .upper => band.name ++ " <= " ++ upper
  | .double => lower ++ " <= " ++ band.name ++ " <= " ++ upper
  | .fixed => band.name ++ " = " ++ lower

namespace Model

variable {F : Type} [Scalar F]

def cellWidth : Nat :=
  8

def cells (columns : Nat) (entries : List (Entry F)) : List String :=
  entries.foldl (fun cells entry => cells.set (entry.column - 1) (Scalar.render entry.coefficient))
    (List.replicate columns "")

/-- The rows of the matrix from a row number on, taking each row's entries off the front of those
that are left. -/
def cellRows (columns : Nat) : Nat → List (Band F) → List (Entry F) → List (List String)
  | _, [], _ => []
  | number, _ :: rows, entries =>
    cells columns (entries.takeWhile (·.row == number)) ::
      cellRows columns (number + 1) rows (entries.dropWhile (·.row == number))

def tableLine (head : String) (cells : List String) : String :=
  Text.padLeft cellWidth head ++ String.join (cells.map (Text.center cellWidth))

def ruler (model : Model F) (c : Char) : String :=
  "".pushn c ((1 + model.columns.length) * cellWidth + 2)

def rowLines (model : Model F) : List String :=
  let rows := cellRows model.columns.length 1 model.rows model.entries
  (model.rows.zip rows).map fun (band, cells) =>
    tableLine band.name cells ++ "  " ++ band.kind.label

def tableLines (model : Model F) : List String :=
  [model.sense.abbreviation, tableLine "" (model.columns.map Band.name), model.ruler '=',
    tableLine "cost" (model.objective.map Scalar.render), model.ruler '-'] ++
  model.rowLines ++ [model.ruler '-'] ++ (model.rows ++ model.columns).map Band.text

def table (model : Model F) : String :=
  Text.unlines model.tableLines

end Model

end LinearProgram
