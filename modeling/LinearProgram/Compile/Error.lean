import LinearProgram.Number.Scalar
import LinearProgram.Problem.Basic

namespace LinearProgram

inductive Comparison.Form where
  | simple
  | chained
deriving DecidableEq

def Comparison.Form.label : Comparison.Form → String
  | .simple => "simple"
  | .chained => "chained"

inductive CompileError where
  | invalidComparator (comparator : Comparator) (form : Comparison.Form)
  | duplicateObjectiveVariable (name : String)
  | unknownVariable (name : String)
  | boundOnExpression (terms : Nat)
  | duplicateBound (name : String)
  | zeroBoundCoefficient (name : String)
deriving DecidableEq

namespace CompileError

def code : CompileError → String
  | .invalidComparator .. => "INVALID_COMPARATOR"
  | .duplicateObjectiveVariable _ => "MALFORMED_DUPLICATE_OBJECTIVE_VARIABLE"
  | .unknownVariable _ => "MALFORMED_UNKNOWN_VARIABLE"
  | .boundOnExpression _ => "MALFORMED_BOUND_ON_EXPRESSION"
  | .duplicateBound _ => "MALFORMED_DUPLICATE_BOUND"
  | .zeroBoundCoefficient _ => "MALFORMED_ZERO_BOUND_COEFFICIENT"

def explanation : CompileError → String
  | .invalidComparator comparator form =>
    "Comparator \"" ++ comparator.symbol ++ "\" can't be used in the " ++ form.label ++ " form"
  | .duplicateObjectiveVariable name =>
    "Variable \"" ++ name ++ "\" appears more than once in the objective"
  | .unknownVariable name => "Variable \"" ++ name ++ "\" does not appear in the objective"
  | .boundOnExpression terms =>
    "A bound should be on a single variable, but its expression has " ++ toString terms ++ " terms"
  | .duplicateBound name => "Variable \"" ++ name ++ "\" is bounded more than once"
  | .zeroBoundCoefficient name =>
    "Variable \"" ++ name ++ "\" is bounded with a zero coefficient"

def message (error : CompileError) : String :=
  "[" ++ error.code ++ "] " ++ error.explanation

end CompileError

inductive CompileFailure where
  | rejected (error : CompileError)
  | overflow (overflow : Overflow)
deriving DecidableEq

end LinearProgram
