import LinearProgram.Model.Basic
import Std.Data.TreeSet
import LinearProgram.Traced

namespace LinearProgram.Mps

inductive RowType where
  | free
  | atLeast
  | atMost
  | equal
deriving DecidableEq

inductive Bound (F : Type) where
  | free (column : String)
  | atLeast (column : String) (value : F)
  | unlimitedBelow (column : String)
  | atMost (column : String) (value : F)
  | fixed (column : String) (value : F)
deriving DecidableEq

structure Cell (F : Type) where
  column : String
  row : String
  value : F
deriving DecidableEq

structure Document (F : Type) where
  name : String
  sense : Sense
  cost : String
  rows : List (RowType × String)
  cells : List (Cell F)
  rightHandSides : List (String × F)
  ranges : List (String × F)
  bounds : List (Bound F)
deriving DecidableEq

def extendToFree (isTaken : String → Bool) (suffix : String) : Nat → String → String
  | 0, name => name
  | tries + 1, name =>
    if isTaken name then extendToFree isTaken suffix tries (name ++ suffix) else name

def costName (names : List String) : String :=
  extendToFree names.contains "_" names.length "COST"

def distinctNamesFrom : Nat → Std.TreeSet String → List String → List String
  | _, _, [] => []
  | number, used, name :: names =>
    let free := extendToFree used.contains ("_" ++ Nat.repr number) used.size name
    free :: distinctNamesFrom (number + 1) (used.insert free) names

def distinctNames (names : List String) : List String :=
  distinctNamesFrom 1 (Std.TreeSet.empty.insert (costName names)) names

/-- A double row is an upper one with a range. -/
def rowType : Kind → RowType
  | .free => .free
  | .lower => .atLeast
  | .upper => .atMost
  | .double => .atMost
  | .fixed => .equal

variable {F : Type} [Scalar F]

def rightHandSide? (row : Band F) : Option F :=
  let value? := match row.kind with
    | .free => none
    | .lower => some row.lower
    | .fixed => some row.lower
    | .upper => some row.upper
    | .double => some row.upper
  value?.filter fun value => !Scalar.isZero value

def columnBounds (column : Band F) : List (Bound F) :=
  match column.kind with
  | .free => [.free column.name]
  | .lower =>
    if Scalar.isZero column.lower then [] else [.atLeast column.name column.lower]
  | .upper => [.unlimitedBelow column.name, .atMost column.name column.upper]
  | .double => [.atLeast column.name column.lower, .atMost column.name column.upper]
  | .fixed => [.fixed column.name column.lower]

def columnCells {F : Type} (cost : String) (rowNames : Array String)
    (column : Band F) (value : F) (entries : List (Nat × F)) : List (Cell F) :=
  ⟨column.name, cost, value⟩ ::
    entries.map fun (row, coefficient) =>
      ⟨column.name, rowNames[row - 1]?.getD "", coefficient⟩

def hasRange (row : Band F) : Bool :=
  row.kind = .double && Scalar.le row.lower row.upper

def omission? (row : Band F) (name : String) : Option Event :=
  if row.kind = .double ∧ !hasRange row then
    some (.omittedRange name (Scalar.render row.lower) (Scalar.render row.upper))
  else none

def range (row : Band F) (name : String) : Except Overflow (String × F) :=
  (Scalar.subtract row.upper row.lower).map fun width => (name, width)

def Document.ofModel (model : Model F) (name : String) : Traced Overflow (Document F) := do
  let cost := costName (model.rows.map Band.name)
  let names := distinctNames (model.rows.map Band.name)
  let rows := model.rows.zip names
  Traced.emitAll (rows.filterMap fun (row, name) => omission? row name)
  let ranges ← Traced.ofExcept <|
    (rows.filter fun (row, _) => hasRange row).mapM fun (row, name) => range row name
  return {
    name := name
    sense := model.sense
    cost := cost
    rows := rows.map fun (row, name) => (rowType row.kind, name)
    cells := (model.columns.zip (model.objective.zip model.byColumn)).flatMap
      fun (column, value, entries) => columnCells cost names.toArray column value entries
    rightHandSides := rows.filterMap fun (row, name) =>
      (rightHandSide? row).map fun value => (name, value)
    ranges := ranges
    bounds := model.columns.flatMap columnBounds }

end LinearProgram.Mps
