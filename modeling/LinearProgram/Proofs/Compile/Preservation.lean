import LinearProgram.Proofs.Compile.Contents
import LinearProgram.Proofs.Compile.Scaling
import Mathlib.Algebra.Order.Field.Rat

namespace LinearProgram

variable {F : Type} [Scalar F]

section Arithmetic

variable [Field F] [LinearOrder F]

/-- A bound on a multiple of a variable, once divided by the coefficient, allows the same values of
the variable. -/
theorem contains_columnInterval [IsStrictOrderedRing F] [ExactScalar F] {name : String}
    {restriction : Restriction F} {term : Monomial F} {interval : Interval F} {x : F}
    (form : restriction.form = [term]) (made : columnInterval name restriction = .ok interval) :
    interval.Contains x ↔ restriction.interval.Contains (term.coefficient * x) := by
  obtain ⟨nonzero, rfl⟩ := (columnInterval_eq_ok form).mp made
  exact Interval.contains_unscale nonzero

theorem Comparison.value_of_subject [ExactScalar F] {comparison : Comparison F}
    {restriction : Restriction F} {name : String} (values : String → F)
    (resolved : comparison.restriction = .ok restriction)
    (subject : comparison.subject? = some name) :
    ∃ term, restriction.form = [term] ∧
      comparison.expression.value values = term.coefficient * values name := by
  obtain ⟨coefficient, form⟩ := form_eq_singleton resolved subject
  refine ⟨_, form, ?_⟩
  rw [← Expression.value_form, ← (restriction_eq_ok.mp resolved).2, form]
  simp [Monomial.value]

end Arithmetic

namespace Problem.CompilesTo

variable {problem : Problem F} {model : Model F}

theorem indices (made : problem.CompilesTo model) : ∀ entry ∈ model.entries,
    1 ≤ entry.row ∧ entry.row ≤ model.rows.length ∧
      1 ≤ entry.column ∧ entry.column ≤ model.columns.length := by
  intro entry member
  rw [made.entries] at member
  obtain ⟨⟨form, number⟩, numbered, inside⟩ := List.mem_flatMap.mp member
  obtain ⟨term, written, rfl⟩ := List.mem_map.mp inside
  obtain ⟨first, last, place⟩ := List.mem_zipIdx numbered
  rw [List.length_map, made.rows.length_eq] at last
  have constraint : form ∈ problem.constraints.map fun constraint => constraint.expression.form :=
    place ▸ List.getElem_mem _
  obtain ⟨comparison, given, rfl⟩ := List.mem_map.mp constraint
  have column := List.idxOf_lt_length_iff.mpr (made.known comparison given term written)
  have width : model.columns.length = problem.objective.names.length := by
    rw [← made.columns, List.length_map]
  dsimp only at first last ⊢
  omega

theorem getElem?_columns (made : problem.CompilesTo model) {name : String}
    (known : name ∈ problem.objective.names) :
    ∃ column, model.columns[problem.objective.names.idxOf name]? = some column ∧
      column.name = name := by
  have found := List.getElem?_idxOf known
  rw [← made.columns, List.getElem?_map, made.columns] at found
  exact Option.map_eq_some_iff.mp found

theorem mem_names_iff (made : problem.CompilesTo model) {bound : Comparison F} {name : String}
    (given : bound ∈ problem.bounds) :
    name ∈ bound.expression.names ↔ bound.subject? = some name := by
  obtain ⟨only, _, subject⟩ := made.subject bound given
  rw [Comparison.subject?_eq_some.mp subject, List.mem_singleton, subject, Option.some_inj, eq_comm]

section Values

variable [Field F] (values : String → F)

theorem value_entry (made : problem.CompilesTo model) {term : Monomial F} (number : Nat)
    (known : term.name ∈ problem.objective.names) :
    Entry.value model.columns values
        ⟨number, problem.objective.names.idxOf term.name + 1, term.coefficient⟩ =
      term.value values := by
  obtain ⟨column, found, name⟩ := made.getElem?_columns known
  simp [Entry.value, Monomial.value, found, name]

variable [LinearOrder F] [ExactScalar F]

theorem rowValue_eq (made : problem.CompilesTo model) {place : Nat} {constraint : Comparison F}
    (found : problem.constraints[place]? = some constraint) :
    model.rowValue values (place + 1) = constraint.expression.value values := by
  have form : (problem.constraints.map fun constraint => constraint.expression.form)[place]? =
      some constraint.expression.form := by
    rw [List.getElem?_map, found]
    rfl
  have known := made.known constraint (List.mem_of_getElem? found)
  rw [Model.rowValue, made.entries, filter_formsEntries form, formEntries, List.map_map,
    ← Expression.value_form]
  congr 1
  apply List.map_congr_left
  intro term member
  exact made.value_entry values _ (known term member)

theorem cost_eq (made : problem.CompilesTo model) :
    model.cost values = problem.objective.value values := by
  have named : model.columns.map (fun column => values column.name) =
      problem.objective.form.map fun term => values term.name := by
    rw [← Function.comp_def values, ← List.map_map, made.columns, ← Expression.map_name_form,
      List.map_map]
    rfl
  have products : model.cost values = (model.objective.zipWith (· * ·)
      (model.columns.map fun column => values column.name)).sum := by
    rw [Model.cost, List.zipWith_map_right]
  rw [products, named, made.objective, List.zipWith_map, List.zipWith_self,
    ← Expression.value_form]
  rfl

theorem holds_constraint_iff (made : problem.CompilesTo model) {place : Nat}
    {constraint : Comparison F} {row : Band F}
    (written : problem.constraints[place]? = some constraint)
    (compiled : model.rows[place]? = some row) :
    constraint.Holds values ↔ row.Contains (model.rowValue values (place + 1)) := by
  obtain ⟨interval, resolved, band⟩ := related_of_forall₂ made.rows written compiled
  rw [made.rowValue_eq values written, Comparison.holds_iff resolved, band,
    Interval.contains_band]

variable [IsStrictOrderedRing F]

theorem holds_bound_iff (made : problem.CompilesTo model) {column : Band F}
    (present : column ∈ model.columns) {bound : Comparison F} (given : bound ∈ problem.bounds)
    (subject : bound.subject? = some column.name) :
    bound.Holds values ↔ column.Contains (values column.name) := by
  obtain ⟨restriction, interval, resolved, made, band⟩ :=
    made.bounded column present bound given subject
  obtain ⟨term, form, value⟩ := Comparison.value_of_subject values resolved subject
  rw [Comparison.holds_iff (Comparison.restriction_eq_ok.mp resolved).1, value, band,
    Interval.contains_band, Interval.name_band, contains_columnInterval form made]

theorem holds_bounds_iff (made : problem.CompilesTo model) {column : Band F}
    (present : column ∈ model.columns) :
    (∀ bound ∈ problem.bounds, column.name ∈ bound.expression.names → bound.Holds values) ↔
      column.Contains (values column.name) := by
  by_cases bounded : ∃ bound ∈ problem.bounds, bound.subject? = some column.name
  · obtain ⟨bound, given, subject⟩ := bounded
    rw [← made.holds_bound_iff values present given subject]
    constructor
    · intro all
      exact all bound given ((made.mem_names_iff given).mpr subject)
    · intro holds other otherGiven mentions
      have same := (made.mem_names_iff otherGiven).mp mentions
      rw [made.holds_bound_iff values present otherGiven same]
      exact (made.holds_bound_iff values present given subject).mp holds
  · -- The column is free, and no bound mentions its variable.
    have unbounded : ∀ bound ∈ problem.bounds, bound.subject? ≠ some column.name := by
      intro bound given subject
      exact bounded ⟨bound, given, subject⟩
    have whole : column.Contains (values column.name) := by
      rw [made.free column present unbounded, Interval.contains_band]
      simp [Interval.Contains, Interval.whole]
    have vacuous : ∀ bound ∈ problem.bounds, column.name ∈ bound.expression.names →
        bound.Holds values := by
      intro bound given mentions
      exact absurd ((made.mem_names_iff given).mp mentions) (unbounded bound given)
    exact iff_of_true vacuous whole

theorem feasible_iff (made : problem.CompilesTo model) :
    problem.Feasible values ↔ model.Feasible values := by
  have sameLength := made.rows.length_eq
  refine and_congr ⟨?_, ?_⟩ ⟨?_, ?_⟩
  · intro all place row compiled
    have inside : place < problem.constraints.length := by
      rw [sameLength]
      exact (List.getElem?_eq_some_iff.mp compiled).1
    have written := List.getElem?_eq_getElem inside
    exact (made.holds_constraint_iff values written compiled).mp (all _ (List.getElem_mem inside))
  · intro all constraint member
    obtain ⟨place, written⟩ := List.mem_iff_getElem?.mp member
    have inside : place < model.rows.length := by
      rw [← sameLength]
      exact (List.getElem?_eq_some_iff.mp written).1
    have compiled := List.getElem?_eq_getElem inside
    exact (made.holds_constraint_iff values written compiled).mpr (all place _ compiled)
  · intro all column present
    exact (made.holds_bounds_iff values present).mp fun bound given _ => all bound given
  · intro all bound given
    obtain ⟨name, known, subject⟩ := made.subject bound given
    rw [← made.columns] at known
    obtain ⟨column, present, rfl⟩ := List.mem_map.mp known
    exact (made.holds_bound_iff values present given subject).mpr (all column present)

end Values

end Problem.CompilesTo

/-- Compilation preserves meaning: a row restricts its expression as its constraint does, a column
restricts its variable as the bounds on it do, the objective has the same value, and so a problem
and its model allow the same values at the same cost. -/
theorem Problem.compile_preserves_meaning [Field F] [LinearOrder F] [IsStrictOrderedRing F]
    [ExactScalar F] {stem : String} {problem : Problem F} {model : Model F}
    (compiled : (problem.compile stem).outcome = .ok model) (values : String → F) :
    model.rows.length = problem.constraints.length ∧
    (∀ entry ∈ model.entries, 1 ≤ entry.row ∧ entry.row ≤ model.rows.length ∧
      1 ≤ entry.column ∧ entry.column ≤ model.columns.length) ∧
    (∀ (place : Nat) (constraint : Comparison F) (row : Band F),
      problem.constraints[place]? = some constraint → model.rows[place]? = some row →
        (constraint.Holds values ↔ row.Contains (model.rowValue values (place + 1)))) ∧
    model.columns.map Band.name = problem.objective.names ∧
    model.objective.length = model.columns.length ∧
    (∀ column ∈ model.columns,
      (∀ bound ∈ problem.bounds, column.name ∈ bound.expression.names → bound.Holds values) ↔
        column.Contains (values column.name)) ∧
    problem.objective.value values = model.cost values ∧
    (problem.Feasible values ↔ model.Feasible values) ∧
    model.sense = problem.sense := by
  have made := compilesTo_of_ok compiled
  refine ⟨made.rows.length_eq.symm, made.indices, ?_, made.columns, ?_, ?_,
    (made.cost_eq values).symm, made.feasible_iff values, made.sense⟩
  · intro place constraint row written banded
    exact made.holds_constraint_iff values written banded
  · rw [made.objective, List.length_map, ← List.length_map Monomial.name,
      Expression.map_name_form, ← made.columns, List.length_map]
  · intro column present
    exact made.holds_bounds_iff values present

def Problem.flipped : Problem Rat where
  sense := .maximize
  objective := .sum [.bare "x", .scaled 7 "y"]
  constraints :=
    [.chained .greaterEqual 5 (.sum [.scaled 2 "x", .bare "y", .scaled (-1) "x"]) 1,
      .simple .equal (.single (.bare "y")) 3]
  bounds := [.chained .lessEqual (-4) (.single (.scaled (-2) "y")) 6]

def Model.flipped : Model Rat where
  rows := [⟨"R1", .double, 1, 5⟩, ⟨"y", .fixed, 3, 3⟩]
  columns := [⟨"x", .free, 0, 0⟩, ⟨"y", .double, -3, 2⟩]
  entries := [⟨1, 1, 2⟩, ⟨1, 2, 1⟩, ⟨1, 1, -1⟩, ⟨2, 2, 1⟩]
  objective := [1, 7]
  sense := .maximize

theorem Problem.flipped_keeps_meaning :
    (Problem.flipped.compile "R").outcome = .ok Model.flipped ∧
      ∀ values, Problem.flipped.objective.value values = Model.flipped.cost values ∧
        (Problem.flipped.Feasible values ↔ Model.flipped.Feasible values) := by
  have compiled : (Problem.flipped.compile "R").outcome = .ok Model.flipped := by decide +kernel
  constructor
  · exact compiled
  intro values
  obtain ⟨_, _, _, _, _, _, cost, feasible, _⟩ := compile_preserves_meaning compiled values
  exact ⟨cost, feasible⟩

end LinearProgram
