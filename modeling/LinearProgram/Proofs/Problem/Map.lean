import LinearProgram.Problem.Basic
import Mathlib.Data.Set.List

namespace LinearProgram

variable {F G : Type}

section Definitions

variable (f : F → G)

def Term.map : Term F → Term G
  | .bare name => .bare name
  | .scaled coefficient name => .scaled (f coefficient) name

def Expression.map : Expression F → Expression G
  | .single term => .single (term.map f)
  | .sum terms => .sum (terms.map (Term.map f))

def Comparison.map : Comparison F → Comparison G
  | .simple comparator expression value => .simple comparator (expression.map f) (f value)
  | .chained comparator left expression right =>
    .chained comparator (f left) (expression.map f) (f right)

def Problem.map (problem : Problem F) : Problem G where
  sense := problem.sense
  objective := problem.objective.map f
  constraints := problem.constraints.map (Comparison.map f)
  bounds := problem.bounds.map (Comparison.map f)

end Definitions

def Term.numbers : Term F → List F
  | .bare _ => []
  | .scaled coefficient _ => [coefficient]

def Expression.numbers (expression : Expression F) : List F :=
  expression.terms.flatMap Term.numbers

def Comparison.numbers : Comparison F → List F
  | .simple _ expression value => expression.numbers ++ [value]
  | .chained _ left expression right => left :: (expression.numbers ++ [right])

def Problem.numbers (problem : Problem F) : List F :=
  problem.objective.numbers ++ (problem.constraints ++ problem.bounds).flatMap Comparison.numbers

@[simp] theorem Term.name_map (f : F → G) (term : Term F) : (term.map f).name = term.name := by
  cases term <;> rfl

@[simp] theorem Expression.terms_map (f : F → G) (expression : Expression F) :
    (expression.map f).terms = expression.terms.map (Term.map f) := by
  cases expression <;> rfl

@[simp] theorem Comparison.expression_map (f : F → G) (comparison : Comparison F) :
    (comparison.map f).expression = comparison.expression.map f := by
  cases comparison <;> rfl

section Range

open Set

variable {f : F → G}

theorem Term.mem_range_map {term : Term G} (reached : ∀ value ∈ term.numbers, value ∈ range f) :
    term ∈ range (Term.map f) := by
  cases term with
  | bare name => exact ⟨.bare name, rfl⟩
  | scaled coefficient name =>
    obtain ⟨original, rfl⟩ := reached coefficient (List.mem_singleton_self _)
    exact ⟨.scaled original name, rfl⟩

theorem Expression.mem_range_map {expression : Expression G}
    (reached : ∀ value ∈ expression.numbers, value ∈ range f) :
    expression ∈ range (Expression.map f) := by
  have terms : ∀ term ∈ expression.terms, term ∈ range (Term.map f) := by
    intro term member
    apply Term.mem_range_map
    intro value inside
    exact reached value (List.mem_flatMap.mpr ⟨term, member, inside⟩)
  cases expression with
  | single term =>
    obtain ⟨original, rfl⟩ := terms term (List.mem_singleton_self _)
    exact ⟨.single original, rfl⟩
  | sum written =>
    have mapped : written ∈ range (List.map (Term.map f)) := by
      rw [range_list_map]
      exact terms
    obtain ⟨originals, rfl⟩ := mapped
    exact ⟨.sum originals, rfl⟩

theorem Comparison.mem_range_map {comparison : Comparison G}
    (reached : ∀ value ∈ comparison.numbers, value ∈ range f) :
    comparison ∈ range (Comparison.map f) := by
  cases comparison with
  | simple c expression value =>
    obtain ⟨terms, values⟩ := List.forall_mem_append.mp reached
    obtain ⟨original, rfl⟩ := Expression.mem_range_map terms
    obtain ⟨right, rfl⟩ := values value (List.mem_singleton_self _)
    exact ⟨.simple c original right, rfl⟩
  | chained c left expression right =>
    obtain ⟨first, others⟩ := List.forall_mem_cons.mp reached
    obtain ⟨terms, last⟩ := List.forall_mem_append.mp others
    obtain ⟨left, rfl⟩ := first
    obtain ⟨original, rfl⟩ := Expression.mem_range_map terms
    obtain ⟨right, rfl⟩ := last right (List.mem_singleton_self _)
    exact ⟨.chained c left original right, rfl⟩

/-- A problem can be written with the numbers that a function takes to those it has. -/
theorem Problem.mem_range_map {problem : Problem G}
    (reached : ∀ value ∈ problem.numbers, value ∈ range f) : problem ∈ range (Problem.map f) := by
  obtain ⟨objectiveReached, others⟩ := List.forall_mem_append.mp reached
  have mapped (comparisons : List (Comparison G))
      (inside : comparisons ⊆ problem.constraints ++ problem.bounds) :
      comparisons ∈ range (List.map (Comparison.map f)) := by
    rw [range_list_map]
    intro comparison member
    apply Comparison.mem_range_map
    intro value number
    exact others value (List.mem_flatMap.mpr ⟨comparison, inside member, number⟩)
  obtain ⟨objective, objectiveMapped⟩ := Expression.mem_range_map objectiveReached
  obtain ⟨constraints, constraintsMapped⟩ := mapped _ (List.subset_append_left _ _)
  obtain ⟨bounds, boundsMapped⟩ := mapped _ (List.subset_append_right _ _)
  refine ⟨⟨problem.sense, objective, constraints, bounds⟩, ?_⟩
  rw [Problem.map, objectiveMapped, constraintsMapped, boundsMapped]

end Range

end LinearProgram
