import LinearProgram.Compile.Error
import LinearProgram.Model.Basic
import LinearProgram.Proofs.Problem.Meaning

namespace LinearProgram

variable {F : Type}

section Definitions

variable (naming : String → String)

def Term.rename : Term F → Term F
  | .bare name => .bare (naming name)
  | .scaled coefficient name => .scaled coefficient (naming name)

def Expression.rename : Expression F → Expression F
  | .single term => .single (term.rename naming)
  | .sum terms => .sum (terms.map (Term.rename naming))

def Comparison.rename : Comparison F → Comparison F
  | .simple comparator expression value => .simple comparator (expression.rename naming) value
  | .chained comparator left expression right =>
    .chained comparator left (expression.rename naming) right

def Problem.rename (problem : Problem F) : Problem F where
  sense := problem.sense
  objective := problem.objective.rename naming
  constraints := problem.constraints.map (Comparison.rename naming)
  bounds := problem.bounds.map (Comparison.rename naming)

def CompileError.rename : CompileError → CompileError
  | .duplicateObjectiveVariable name => .duplicateObjectiveVariable (naming name)
  | .unknownVariable name => .unknownVariable (naming name)
  | .duplicateBound name => .duplicateBound (naming name)
  | .zeroBoundCoefficient name => .zeroBoundCoefficient (naming name)
  | .invalidComparator comparator form => .invalidComparator comparator form
  | .boundOnExpression terms => .boundOnExpression terms

def CompileFailure.rename : CompileFailure → CompileFailure
  | .rejected error => .rejected (error.rename naming)
  | .overflow cause => .overflow cause

def Band.rename (band : Band F) : Band F :=
  { band with name := naming band.name }

end Definitions

variable {naming : String → String}

@[simp] theorem Term.name_rename (term : Term F) :
    (term.rename naming).name = naming term.name := by
  cases term <;> rfl

@[simp] theorem Expression.terms_rename (expression : Expression F) :
    (expression.rename naming).terms = expression.terms.map (Term.rename naming) := by
  cases expression <;> rfl

@[simp] theorem Expression.names_rename (expression : Expression F) :
    (expression.rename naming).names = expression.names.map naming := by
  rw [names, names, terms_rename, List.map_map, List.map_map]
  congr 1
  funext term
  exact term.name_rename

@[simp] theorem Comparison.expression_rename (comparison : Comparison F) :
    (comparison.rename naming).expression = comparison.expression.rename naming := by
  cases comparison <;> rfl

@[simp] theorem Comparison.interval_rename (comparison : Comparison F) :
    (comparison.rename naming).interval = comparison.interval := by
  cases comparison with
  | simple comparator _ _ | chained comparator _ _ _ => cases comparator <;> rfl

end LinearProgram
