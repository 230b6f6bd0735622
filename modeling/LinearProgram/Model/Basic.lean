import LinearProgram.Number.Scalar
import LinearProgram.Problem.Basic

namespace LinearProgram

structure Interval (F : Type) where
  lower : Option F
  upper : Option F
deriving DecidableEq

inductive Kind where
  | free
  | lower
  | upper
  | double
  | fixed
deriving DecidableEq

namespace Kind

def all : List Kind :=
  [.free, .lower, .upper, .double, .fixed]

def label : Kind → String
  | .free => "free"
  | .lower => "lower"
  | .upper => "upper"
  | .double => "double"
  | .fixed => "fixed"

def code : Kind → Nat
  | .free => 1
  | .lower => 2
  | .upper => 3
  | .double => 4
  | .fixed => 5

def usesLower : Kind → Bool
  | .lower | .double | .fixed => true
  | .free | .upper => false

def usesUpper : Kind → Bool
  | .upper | .double | .fixed => true
  | .free | .lower => false

end Kind

namespace Interval

variable {F : Type}

def whole : Interval F :=
  ⟨none, none⟩

def swap (interval : Interval F) : Interval F :=
  ⟨interval.upper, interval.lower⟩

variable [Scalar F]

/-- Two different ends make an interval double in either order. -/
def kind (interval : Interval F) : Kind :=
  match interval.lower, interval.upper with
  | some lower, some upper => if Scalar.eq lower upper then .fixed else .double
  | some _, none => .lower
  | none, some _ => .upper
  | none, none => .free

def divide (interval : Interval F) (divisor : F) : Except Overflow (Interval F) := do
  let lower ← interval.lower.mapM (Scalar.divide · divisor)
  let upper ← interval.upper.mapM (Scalar.divide · divisor)
  return ⟨lower, upper⟩

end Interval

/-- A row or a column: its name and its interval. An end that its kind does not use is there all
the same, as a zero in every compiled model. -/
structure Band (F : Type) where
  name : String
  kind : Kind
  lower : F
  upper : F
deriving DecidableEq

/-- A coefficient of the matrix; rows and columns count from one. -/
structure Entry (F : Type) where
  row : Nat
  column : Nat
  coefficient : F
deriving DecidableEq

structure Model (F : Type) where
  rows : List (Band F)
  columns : List (Band F)
  entries : List (Entry F)
  objective : List F
  sense : Sense
deriving DecidableEq

def Interval.band {F : Type} [Scalar F] (interval : Interval F) (name : String) : Band F :=
  ⟨name, interval.kind, interval.lower.getD Scalar.zero, interval.upper.getD Scalar.zero⟩

def countKinds {F : Type} (bands : List (Band F)) : List (Kind × Nat) :=
  Kind.all.map fun kind => (kind, bands.countP (·.kind = kind))

def kindSummary {F : Type} (bands : List (Band F)) : String :=
  let present := (countKinds bands).filter fun entry => 0 < entry.2
  ",".intercalate (present.map fun entry => entry.1.label ++ "=" ++ toString entry.2)

def Entry.addToColumn {F : Type} (entry : Entry F) (columns : Array (List (Nat × F))) :
    Array (List (Nat × F)) :=
  columns.modify (entry.column - 1) ((entry.row, entry.coefficient) :: ·)

def Model.byColumn {F : Type} (model : Model F) : List (List (Nat × F)) :=
  (model.entries.foldr Entry.addToColumn (Array.replicate model.columns.length [])).toList

end LinearProgram
