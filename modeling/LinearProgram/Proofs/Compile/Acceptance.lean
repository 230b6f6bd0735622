import LinearProgram.Proofs.Compile.Violation
import Mathlib.Data.List.Nodup

namespace LinearProgram

variable {F : Type}

namespace Comparison

theorem operatorViolation?_eq_none {comparison : Comparison F} :
    comparison.operatorViolation? = none ↔ comparison.HasLinearOperator := by
  unfold operatorViolation?
  split <;> simp [*]

theorem exists_restriction [Scalar F] {comparison : Comparison F}
    (operator : comparison.HasLinearOperator) : ∃ row, comparison.restriction = .ok row := by
  rw [← failure?_eq_none, failure?_restriction, operatorViolation?_eq_none]
  exact operator

theorem boundViolation?_eq_none {names : List String} {before : List (Comparison F)}
    {bound : Comparison F} :
    bound.boundViolation? names before = none ↔
      bound.HasLinearOperator ∧ (∃ name ∈ names, bound.subject? = some name) ∧
        bound.subject? ∉ before.map subject? := by
  rw [boundViolation?, Option.or_eq_none_iff, operatorViolation?_eq_none]
  cases subject : bound.subject? with
  | none => simp
  | some name =>
    by_cases known : name ∈ names
    · simp only [known, not_true_eq_false, ↓reduceIte, ite_eq_right_iff, reduceCtorEq, imp_false,
        Option.some.injEq, exists_eq_right', true_and]
    · simp [known]

end Comparison

theorem Columns.repeats_eq_nil {names : List String} : repeats names = [] ↔ names.Nodup := by
  rw [repeats, List.filterMap_eq_nil_iff, List.Nodup, pairwise_iff_withEarlier]
  apply forall₂_congr
  intro entry _
  rw [ite_eq_right_iff]
  constructor
  · intro fresh x member same
    exact absurd (fresh (same ▸ member)) (by simp)
  · intro distinct member
    exact absurd rfl (distinct entry.2 member)

theorem Columns.exists_ofNames_iff {names : List String} :
    (∃ columns, ofNames names = .ok columns) ↔ names.Nodup := by
  rw [← failure?_eq_none, failure?_ofNames, List.head?_eq_none_iff, List.map_eq_nil_iff,
    repeats_eq_nil]

namespace Problem

/-- Bounds are in order if each has a variable of its own among those with a column. -/
theorem bounds_inOrder_iff {names : List String} {bounds : List (Comparison F)} :
    (∀ entry ∈ withEarlier [] bounds, entry.2.boundViolation? names entry.1 = none) ↔
      (∀ bound ∈ bounds, bound.HasLinearOperator) ∧
        (∀ bound ∈ bounds, ∃ name ∈ names, bound.expression.names = [name]) ∧
          (bounds.map fun bound => bound.expression.names).Nodup := by
  have operators := forall_withEarlier Comparison.HasLinearOperator [] bounds
  have subjects := forall_withEarlier
    (fun bound => ∃ name ∈ names, bound.expression.names = [name]) [] bounds
  simp only [Comparison.boundViolation?_eq_none, forall_and, operators, subjects,
    Comparison.subject?_eq_some]
  apply and_congr_right
  intro _
  apply and_congr_right
  intro single
  -- Each bound has a subject, so that distinct subjects are distinct lists of names.
  have fresh : (∀ entry ∈ withEarlier [] bounds,
      entry.2.subject? ∉ entry.1.map Comparison.subject?) ↔
        bounds.Pairwise fun earlier later => earlier.subject? ≠ later.subject? := by
    rw [pairwise_iff_withEarlier]
    simp only [List.mem_map, not_exists, not_and, ne_eq]
  rw [fresh, List.Nodup, List.pairwise_map]
  apply List.Pairwise.iff_of_mem
  intro earlier later first second
  apply not_congr
  obtain ⟨name, _, names⟩ := single later second
  rw [Comparison.subject?_eq_some.mpr names, Comparison.subject?_eq_some, names]

variable [Field F] [DecidableEq F]

theorem zeroBounds_eq_nil {problem : Problem F}
    (single : ∀ bound ∈ problem.bounds, ∃ name ∈ problem.objective.names,
      bound.expression.names = [name]) :
    problem.zeroBounds = [] ↔
      ∀ bound ∈ problem.bounds, ∀ name, Term.scaled 0 name ∉ bound.expression.terms := by
  simp only [zeroBounds, List.filter_eq_nil_iff, List.any_eq_true, decide_eq_true_eq, not_exists,
    not_and]
  constructor
  · intro nonzero bound member name zero
    obtain ⟨subject, known, names⟩ := single bound member
    obtain ⟨term, terms, _⟩ := List.map_eq_singleton_iff.mp names
    rw [terms, List.mem_singleton] at zero
    subst zero
    cases List.singleton_injective ((congrArg (List.map Term.name) terms).symm.trans names)
    exact nonzero name known bound member terms
  · intro nonzero name _ bound member terms
    exact nonzero bound member name (by simp [terms])

theorem violations_eq_nil {problem : Problem F} : problem.violations = [] ↔ problem.Acceptable := by
  simp only [violations, List.append_eq_nil_iff, List.map_eq_nil_iff, Columns.repeats_eq_nil,
    List.filterMap_eq_nil_iff, Comparison.operatorViolation?_eq_none, bounds_inOrder_iff,
    List.filter_eq_nil_iff, List.forall_mem_flatMap, decide_eq_true_eq, not_not]
  constructor
  · intro holds
    obtain ⟨⟨⟨⟨distinct, constraints⟩, bounds, single, once⟩, known⟩, zeros⟩ := holds
    exact ⟨distinct, List.forall_mem_append.mpr ⟨constraints, bounds⟩, single, once, known,
      (zeroBounds_eq_nil single).mp zeros⟩
  · intro acceptable
    obtain ⟨constraints, bounds⟩ := List.forall_mem_append.mp acceptable.operators
    exact ⟨⟨⟨⟨acceptable.distinct, constraints⟩, bounds, acceptable.single, acceptable.once⟩,
      acceptable.known⟩, (zeroBounds_eq_nil acceptable.single).mpr acceptable.nonzero⟩

end Problem

section Acceptance

variable [Field F] [LinearOrder F] [Scalar F] [ExactScalar F]

/-- A problem is compiled just when it describes a linear program; any other is rejected for the
first of its violations. -/
theorem Problem.compile_accepts_acceptable (stem : String) (problem : Problem F) :
    ((∃ model, (problem.compile stem).outcome = .ok model) ↔ problem.Acceptable) ∧
      ∀ failure, (problem.compile stem).outcome = .error failure ↔
        ∃ first, problem.violations.head? = some first ∧ failure = .rejected first := by
  have failures := failure?_compile stem problem
  constructor
  · rw [← failure?_eq_none, failures, Option.map_eq_none_iff, List.head?_eq_none_iff,
      violations_eq_nil]
  · intro failure
    rw [← failure?_eq_some, failures, Option.map_eq_some_iff]
    simp only [eq_comm]

end Acceptance

def Problem.vanishing : Problem Rat where
  sense := .minimize
  objective := .sum [.bare "x", .bare "y"]
  constraints := []
  bounds := [.simple .lessEqual (.single (.scaled 0 "y")) 1,
    .simple .greaterEqual (.single (.scaled 0 "x")) 2]

theorem Problem.vanishing_rejected :
    ¬ Problem.vanishing.Acceptable ∧
      (Problem.vanishing.compile "R").outcome = .error (.rejected (.zeroBoundCoefficient "x")) := by
  obtain ⟨accepts, rejects⟩ := compile_accepts_acceptable "R" vanishing
  have rejected := (rejects (.rejected (.zeroBoundCoefficient "x"))).mpr ⟨_, by decide, rfl⟩
  constructor
  · intro acceptable
    obtain ⟨model, accepted⟩ := accepts.mpr acceptable
    rw [rejected] at accepted
    cases accepted
  · exact rejected

end LinearProgram
