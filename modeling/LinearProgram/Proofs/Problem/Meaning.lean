import LinearProgram.Compile.Restriction
import LinearProgram.Proofs.Model.Meaning

namespace LinearProgram

variable {F : Type}

def Expression.names (expression : Expression F) : List String :=
  expression.terms.map Term.name

section Values

variable [Field F]

def Term.value (values : String → F) : Term F → F
  | .bare name => values name
  | .scaled coefficient name => coefficient * values name

def Expression.value (values : String → F) (expression : Expression F) : F :=
  (expression.terms.map (Term.value values)).sum

def Monomial.value (values : String → F) (monomial : Monomial F) : F :=
  monomial.coefficient * values monomial.name

variable [LinearOrder F]

def Comparator.Relates : Comparator → F → F → Prop
  | .equal, a, b => a = b
  | .lessEqual, a, b => a ≤ b
  | .greaterEqual, a, b => a ≥ b
  | .less, a, b => a < b
  | .greater, a, b => a > b
  | .notEqual, a, b => a ≠ b

def Comparison.Holds (values : String → F) : Comparison F → Prop
  | .simple comparator expression value => comparator.Relates (expression.value values) value
  | .chained comparator left expression right =>
    comparator.Relates left (expression.value values) ∧
      comparator.Relates (expression.value values) right

def Problem.Feasible (values : String → F) (problem : Problem F) : Prop :=
  (∀ constraint ∈ problem.constraints, constraint.Holds values) ∧
    ∀ bound ∈ problem.bounds, bound.Holds values

end Values

theorem Expression.map_name_form [Scalar F] (expression : Expression F) :
    expression.form.map Monomial.name = expression.names := by
  rw [form, names, List.map_map]
  congr 1
  funext term
  cases term <;> rfl

section Forms

variable [Field F] [LinearOrder F] [Scalar F] [ExactScalar F] (values : String → F)

@[simp] theorem Monomial.value_monomial (term : Term F) :
    term.monomial.value values = term.value values := by
  cases term <;> simp [Term.monomial, Monomial.value, Term.value]

theorem Expression.value_form (expression : Expression F) :
    (expression.form.map (Monomial.value values)).sum = expression.value values := by
  rw [form, value, List.map_map]
  congr 2
  funext term
  exact Monomial.value_monomial values term

end Forms

section Comparisons

variable [Field F] [LinearOrder F] {values : String → F}

theorem Comparison.holds_iff {comparison : Comparison F} {interval : Interval F}
    (resolved : comparison.interval = .ok interval) :
    comparison.Holds values ↔ interval.Contains (comparison.expression.value values) := by
  cases comparison with
  | simple comparator expression value =>
    cases comparator <;> simp only [Comparison.interval] at resolved <;> cases resolved
    · simp [Holds, Comparator.Relates, Interval.Contains, Comparison.expression]
      rw [le_antisymm_iff, and_comm]
    · simp [Holds, Comparator.Relates, Interval.Contains, Comparison.expression]
    · simp [Holds, Comparator.Relates, Interval.Contains, Comparison.expression]
  | chained comparator left expression right =>
    cases comparator <;> simp only [Comparison.interval] at resolved <;> cases resolved
    · simp [Holds, Comparator.Relates, Interval.Contains, Comparison.expression]
    · simp [Holds, Comparator.Relates, Interval.Contains, Comparison.expression, and_comm]

end Comparisons

end LinearProgram
