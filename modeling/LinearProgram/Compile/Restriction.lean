import LinearProgram.Compile.Error
import LinearProgram.Model.Basic

namespace LinearProgram

structure Monomial (F : Type) where
  coefficient : F
  name : String
deriving DecidableEq

structure Restriction (F : Type) where
  form : List (Monomial F)
  interval : Interval F
deriving DecidableEq

variable {F : Type} [Scalar F]

def Monomial.text (monomial : Monomial F) : String :=
  Scalar.render monomial.coefficient ++ " " ++ monomial.name

def Term.monomial : Term F → Monomial F
  | .bare name => ⟨Scalar.one, name⟩
  | .scaled coefficient name => ⟨coefficient, name⟩

def Expression.form (expression : Expression F) : List (Monomial F) :=
  expression.terms.map Term.monomial

namespace Comparison

/-- The interval that a comparison keeps its expression in. A chained comparison reads from left to
right, so its lower end comes last if the comparator is at least. -/
def interval {F : Type} : Comparison F → Except CompileError (Interval F)
  | .simple .equal _ value => .ok ⟨some value, some value⟩
  | .simple .lessEqual _ value => .ok ⟨none, some value⟩
  | .simple .greaterEqual _ value => .ok ⟨some value, none⟩
  | .simple comparator _ _ => .error (.invalidComparator comparator .simple)
  | .chained .lessEqual left _ right => .ok ⟨some left, some right⟩
  | .chained .greaterEqual left _ right => .ok ⟨some right, some left⟩
  | .chained comparator _ _ _ => .error (.invalidComparator comparator .chained)

def restriction (comparison : Comparison F) : Except CompileError (Restriction F) :=
  comparison.interval.map fun interval => ⟨comparison.expression.form, interval⟩

end Comparison

namespace Restriction

def singleTerm? {F : Type} (restriction : Restriction F) : Option (Monomial F) :=
  match restriction.form with
  | [term] => some term
  | _ => none

def bareName? (restriction : Restriction F) : Option String :=
  match restriction.form with
  | [term] => if Scalar.eq term.coefficient Scalar.one then some term.name else none
  | _ => none

end Restriction

end LinearProgram
