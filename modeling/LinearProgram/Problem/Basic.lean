namespace LinearProgram

inductive Term (F : Type) where
  | bare (name : String)
  | scaled (coefficient : F) (name : String)
deriving DecidableEq

def Term.name {F : Type} : Term F → String
  | .bare name => name
  | .scaled _ name => name

inductive Expression (F : Type) where
  | single (term : Term F)
  | sum (terms : List (Term F))
deriving DecidableEq

def Expression.terms {F : Type} : Expression F → List (Term F)
  | .single term => [term]
  | .sum terms => terms

inductive Comparator where
  | equal
  | lessEqual
  | greaterEqual
  | less
  | greater
  | notEqual
deriving DecidableEq

def Comparator.symbol : Comparator → String
  | .equal => "="
  | .lessEqual => "<="
  | .greaterEqual => ">="
  | .less => "<"
  | .greater => ">"
  | .notEqual => "!="

inductive Comparison (F : Type) where
  | simple (comparator : Comparator) (expression : Expression F) (value : F)
  | chained (comparator : Comparator) (left : F) (expression : Expression F) (right : F)
deriving DecidableEq

namespace Comparison

variable {F : Type}

def comparator : Comparison F → Comparator
  | .simple comparator _ _ => comparator
  | .chained comparator _ _ _ => comparator

def expression : Comparison F → Expression F
  | .simple _ expression _ => expression
  | .chained _ _ expression _ => expression

end Comparison

inductive Sense where
  | minimize
  | maximize
deriving DecidableEq, Inhabited

namespace Sense

def code : Sense → Nat
  | .minimize => 1
  | .maximize => 2

end Sense

/-- A linear program as it is written. Whether a comparison restricts a row or a column is decided
by the list it stands in, never by its shape. -/
structure Problem (F : Type) where
  sense : Sense
  objective : Expression F
  constraints : List (Comparison F)
  bounds : List (Comparison F)
deriving DecidableEq

end LinearProgram
