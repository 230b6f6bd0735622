import LinearProgram.Number.Scalar
import LinearProgram.Problem.Basic

namespace LinearProgram

namespace Sense

def keyword : Sense → String
  | .minimize => "minimize"
  | .maximize => "maximize"

def abbreviation : Sense → String
  | .minimize => "min"
  | .maximize => "max"

end Sense

variable {F : Type} [Scalar F]

def Term.text : Term F → String
  | .bare name => name
  | .scaled coefficient name => Scalar.render coefficient ++ " " ++ name

def Expression.text (expression : Expression F) : String :=
  " + ".intercalate (expression.terms.map Term.text)

def Comparison.text : Comparison F → String
  | .simple comparator expression value =>
    expression.text ++ " " ++ comparator.symbol ++ " " ++ Scalar.render value
  | .chained comparator left expression right =>
    Scalar.render left ++ " " ++ comparator.symbol ++ " " ++ expression.text ++ " " ++
      comparator.symbol ++ " " ++ Scalar.render right

end LinearProgram
