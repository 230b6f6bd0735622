import LinearProgram.Compile.Error
import LinearProgram.Compile.Restriction
import LinearProgram.Model.Basic
import Std.Data.TreeMap
import LinearProgram.Traced

namespace LinearProgram

structure Columns where
  names : Array String
  places : Std.TreeMap String Nat
  place_iff : ∀ (name : String) (place : Nat),
    places[name]? = some place ↔ names[place]? = some name

namespace Columns

theorem place_iff_push {names : Array String} {places : Std.TreeMap String Nat}
    (agree : ∀ (name : String) (place : Nat),
      places[name]? = some place ↔ names[place]? = some name)
    {added : String} (fresh : places[added]? = none) (name : String) (place : Nat) :
    (places.insert added names.size)[name]? = some place ↔
      (names.push added)[place]? = some name := by
  have same := agree name place
  have unused := agree added place
  rw [Std.TreeMap.getElem?_insert, Array.getElem?_push]
  simp only [Std.LawfulEqCmp.compare_eq_iff_eq]
  by_cases new : place = names.size
  · have outside : names[names.size]? = none := by simp
    grind
  · grind

def empty : Columns where
  names := #[]
  places := ∅
  place_iff := by simp

def contains (columns : Columns) (name : String) : Bool :=
  columns.places[name]?.isSome

def place (columns : Columns) (name : String) : Except CompileError Nat :=
  match columns.places[name]? with
  | some place => .ok place
  | none => .error (.unknownVariable name)

def size (columns : Columns) : Nat :=
  columns.names.size

def add (columns : Columns) (name : String) : Except CompileError Columns :=
  if taken : columns.contains name then .error (.duplicateObjectiveVariable name)
  else
    .ok {
      names := columns.names.push name
      places := columns.places.insert name columns.names.size
      place_iff := place_iff_push columns.place_iff (by simpa [contains] using taken) }

def ofNames (names : List String) : Except CompileError Columns :=
  names.foldlM add empty

end Columns

variable {F : Type}

def rowEntries (columns : Columns) (number : Nat) (row : Restriction F) :
    Except CompileError (List (Entry F)) :=
  row.form.mapM fun term =>
    (columns.place term.name).map fun place => ⟨number, place + 1, term.coefficient⟩

def matrixEntries (columns : Columns) : Nat → List (Restriction F) →
    Traced CompileError (List (Entry F))
  | _, [] => return []
  | number, row :: rows => do
    let entries ← Traced.ofExcept (rowEntries columns number row)
    Traced.emit (.resolvedRow number row.form.length)
    let others ← matrixEntries columns (number + 1) rows
    return entries ++ others

variable [Scalar F]

def addBound (columns : Columns) (bounds : Std.TreeMap String (Restriction F))
    (bound : Comparison F) : Except CompileError (Std.TreeMap String (Restriction F)) := do
  let restriction ← bound.restriction
  match restriction.form with
  | [term] =>
    let _ ← columns.place term.name
    if bounds.contains term.name then .error (.duplicateBound term.name)
    else .ok (bounds.insert term.name restriction)
  | form => .error (.boundOnExpression form.length)

def boundsByName (columns : Columns) (bounds : List (Comparison F)) :
    Except CompileError (Std.TreeMap String (Restriction F)) :=
  bounds.foldlM (addBound columns) ∅

structure Outline (F : Type) where
  columns : Columns
  rows : List (Restriction F)
  bounds : Std.TreeMap String (Restriction F)

/-- Looks for errors in the objective first, then in the comparators of the constraints, then in the
bounds one by one. -/
def Problem.outline (problem : Problem F) : Except CompileError (Outline F) := do
  let columns ← Columns.ofNames (problem.objective.form.map Monomial.name)
  let rows ← problem.constraints.mapM Comparison.restriction
  let bounds ← boundsByName columns problem.bounds
  return ⟨columns, rows, bounds⟩

end LinearProgram
