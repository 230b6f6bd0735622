import LinearProgram.Proofs.Compile.Contents
import Mathlib.Algebra.Order.Field.Rat

namespace LinearProgram

variable {F : Type}

namespace Comparison

def form : Comparison F → Form
  | .simple .. => .simple
  | .chained .. => .chained

def HasLinearOperator : Comparison F → Prop
  | .simple comparator _ _ => comparator ∈ [.equal, .lessEqual, .greaterEqual]
  | .chained comparator _ _ _ => comparator ∈ [.lessEqual, .greaterEqual]

instance : (comparison : Comparison F) → Decidable comparison.HasLinearOperator
  | .simple comparator _ _ =>
    inferInstanceAs (Decidable (comparator ∈ [.equal, .lessEqual, .greaterEqual]))
  | .chained comparator _ _ _ =>
    inferInstanceAs (Decidable (comparator ∈ [.lessEqual, .greaterEqual]))

def operatorViolation? (comparison : Comparison F) : Option CompileError :=
  if comparison.HasLinearOperator then none
  else some (.invalidComparator comparison.comparator comparison.form)

def boundViolation? (names : List String) (before : List (Comparison F)) (bound : Comparison F) :
    Option CompileError :=
  bound.operatorViolation?.or <|
    match bound.subject? with
    | none => some (.boundOnExpression bound.expression.terms.length)
    | some name =>
      if name ∉ names then some (.unknownVariable name)
      else if some name ∈ before.map subject? then some (.duplicateBound name)
      else none

end Comparison

namespace Problem

variable [Field F] [DecidableEq F]

def zeroBounds (problem : Problem F) : List String :=
  problem.objective.names.filter fun name =>
    problem.bounds.any fun bound => bound.expression.terms = [.scaled 0 name]

/-- All that is wrong with a problem, in the order in which it is looked for. -/
def violations (problem : Problem F) : List CompileError :=
  let names := problem.objective.names
  (Columns.repeats names).map .duplicateObjectiveVariable ++
    problem.constraints.filterMap Comparison.operatorViolation? ++
    (withEarlier [] problem.bounds).filterMap
      (fun entry => entry.2.boundViolation? names entry.1) ++
    ((problem.constraints.flatMap fun constraint => constraint.expression.names).filter
      (· ∉ names)).map .unknownVariable ++
    problem.zeroBounds.map .zeroBoundCoefficient

structure Acceptable (problem : Problem F) : Prop where
  distinct : problem.objective.names.Nodup
  operators : ∀ comparison ∈ problem.constraints ++ problem.bounds, comparison.HasLinearOperator
  single : ∀ bound ∈ problem.bounds, ∃ name ∈ problem.objective.names,
    bound.expression.names = [name]
  once : (problem.bounds.map fun bound => bound.expression.names).Nodup
  known : ∀ constraint ∈ problem.constraints, ∀ name ∈ constraint.expression.names,
    name ∈ problem.objective.names
  nonzero : ∀ bound ∈ problem.bounds, ∀ name, Term.scaled 0 name ∉ bound.expression.terms

end Problem

section Checks

theorem failure?_interval (comparison : Comparison F) :
    failure? comparison.interval = comparison.operatorViolation? := by
  cases comparison with
  | simple comparator _ _ => cases comparator <;> rfl
  | chained comparator _ _ _ => cases comparator <;> rfl

theorem failure?_rowEntries (columns : Columns) (number : Nat) (row : Restriction F) :
    failure? (rowEntries columns number row) =
      (((row.form.map Monomial.name).filter (· ∉ columns.names.toList)).map
        CompileError.unknownVariable).head? := by
  rw [rowEntries, failure?_mapM, List.filter_map, List.map_map, ← List.filterMap_eq_map,
    List.filterMap_filter]
  congr 2
  funext term
  rw [failure?_map, Columns.failure?_place]
  by_cases known : term.name ∈ columns.names.toList <;>
    simp [known, -Array.mem_toList_iff]

theorem failure?_matrixEntries (columns : Columns) (rows : List (Restriction F)) :
    failure? (matrixEntries columns 1 rows).outcome =
      (((rows.flatMap fun row => row.form.map Monomial.name).filter
        (· ∉ columns.names.toList)).map CompileError.unknownVariable).head? := by
  rw [outcome_matrixEntries, failure?_map, failure?_mapM]
  simp only [failure?_rowEntries]
  conv_rhs => rw [← List.zipIdx_map_fst 1 rows, List.flatMap_map]
  rw [head?_filterMap_head?, List.filter_flatMap, List.map_flatMap]

variable [Scalar F]

theorem failure?_restriction (comparison : Comparison F) :
    failure? comparison.restriction = comparison.operatorViolation? := by
  rw [Comparison.restriction, failure?_map, failure?_interval]

theorem Assigned.contains_iff {columns : Columns} {given : List (Comparison F)}
    {bounds : Std.TreeMap String (Restriction F)} (held : Assigned columns given bounds)
    (name : String) : bounds.contains name ↔ some name ∈ given.map Comparison.subject? := by
  rw [Std.TreeMap.contains_eq_isSome_getElem?, Option.isSome_iff_exists, List.mem_map]
  constructor
  · intro present
    obtain ⟨restriction, found⟩ := present
    obtain ⟨bound, member, subject, _⟩ := (held.found name restriction).mp found
    exact ⟨bound, member, subject⟩
  · intro present
    obtain ⟨bound, member, subject⟩ := present
    obtain ⟨restriction, resolved⟩ := held.resolved bound member
    exact ⟨restriction, (held.found name restriction).mpr ⟨bound, member, subject, resolved⟩⟩

theorem failure?_addBound {columns : Columns} {before : List (Comparison F)}
    {bounds : Std.TreeMap String (Restriction F)} (held : Assigned columns before bounds)
    (bound : Comparison F) :
    failure? (addBound columns bounds bound) =
      bound.boundViolation? columns.names.toList before := by
  have operator := failure?_restriction bound
  rw [Comparison.boundViolation?, ← operator]
  cases resolved : bound.restriction with
  | error e => simp [addBound, resolved, bind, Except.bind]
  | ok restriction =>
    rw [addBound_of_restriction resolved]
    cases subject : bound.subject? with
    | none => rfl
    | some name =>
      simp only [held.contains_iff, ite_not]
      split
      · split <;> rfl
      · rfl

theorem failure?_boundsByName (columns : Columns) (bounds : List (Comparison F)) :
    failure? (boundsByName columns bounds) = ((withEarlier [] bounds).filterMap fun entry =>
      entry.2.boundViolation? columns.names.toList entry.1).head? :=
  failure?_foldlM (Assigned columns) (fun _ _ _ _ held added => held.insert added)
    (fun _ bound _ held => failure?_addBound held bound) bounds [] ∅ (.empty columns)

end Checks

section Arithmetic

variable [Field F] [LinearOrder F] [Scalar F] [ExactScalar F]

theorem failure?_columnInterval {name : String} {restriction : Restriction F} {term : Monomial F}
    (form : restriction.form = [term]) :
    failure? (columnInterval name restriction) =
      if term.coefficient = 0 then some (.rejected (.zeroBoundCoefficient name)) else none := by
  simp only [columnInterval, form, ExactScalar.eq_iff, isZero_iff, ExactScalar.one_eq]
  by_cases zero : term.coefficient = 0
  · simp [zero]
  · by_cases one : term.coefficient = 1
    · simp [one]
    · simp only [one, zero, ↓reduceIte, Interval.divide_eq_ok zero]
      rfl

theorem terms_eq_scaled_zero_iff {bound : Comparison F} {restriction : Restriction F}
    {coefficient : F} {name : String} (resolved : bound.restriction = .ok restriction)
    (form : restriction.form = [⟨coefficient, name⟩]) :
    bound.expression.terms = [.scaled 0 name] ↔ coefficient = 0 := by
  rw [(Comparison.restriction_eq_ok.mp resolved).2, Expression.form,
    List.map_eq_singleton_iff] at form
  obtain ⟨term, terms, monomial⟩ := form
  rw [terms]
  cases term with
  | bare other =>
    simp only [Term.monomial, ExactScalar.one_eq, Monomial.mk.injEq] at monomial
    simp [← monomial.1]
  | scaled factor other =>
    simp only [Term.monomial, Monomial.mk.injEq] at monomial
    simp [monomial]

theorem failure?_boundedInterval {columns : Columns} {given : List (Comparison F)}
    {bounds : Std.TreeMap String (Restriction F)} (held : Assigned columns given bounds)
    (name : String) :
    failure? (boundedInterval name bounds[name]?) =
      if given.any fun bound => bound.expression.terms = [.scaled 0 name] then
        some (.rejected (.zeroBoundCoefficient name))
      else none := by
  have subjectOf {bound : Comparison F} (terms : bound.expression.terms = [.scaled 0 name]) :
      bound.subject? = some name := by
    rw [Comparison.subject?_eq_some, Expression.names, terms]
    rfl
  cases found : bounds[name]? with
  | none =>
    have unbounded : ∀ bound ∈ given, bound.expression.terms ≠ [.scaled 0 name] := by
      intro bound member terms
      obtain ⟨restriction, resolved⟩ := held.resolved bound member
      have present := (held.found name restriction).mpr ⟨bound, member, subjectOf terms, resolved⟩
      rw [found] at present
      cases present
    have nothing : ¬ given.any fun bound => bound.expression.terms = [.scaled 0 name] := by
      simpa using unbounded
    rw [if_neg nothing]
    rfl
  | some restriction =>
    obtain ⟨bound, member, subject, resolved⟩ := (held.found name restriction).mp found
    obtain ⟨coefficient, form⟩ := Comparison.form_eq_singleton resolved subject
    have zero : (given.any fun bound => bound.expression.terms = [.scaled 0 name]) ↔
        coefficient = 0 := by
      rw [List.any_eq_true]
      constructor
      · intro existing
        obtain ⟨other, otherMember, terms⟩ := existing
        have terms := of_decide_eq_true terms
        obtain ⟨otherRestriction, otherResolved⟩ := held.resolved other otherMember
        have same := (held.found name otherRestriction).mpr
          ⟨other, otherMember, subjectOf terms, otherResolved⟩
        rw [found] at same
        cases same
        exact (terms_eq_scaled_zero_iff otherResolved form).mp terms
      · intro zero
        exact ⟨bound, member, decide_eq_true ((terms_eq_scaled_zero_iff resolved form).mpr zero)⟩
    rw [boundedInterval, failure?_columnInterval form]
    simp only [zero]

end Arithmetic

namespace Problem

theorem failure?_outline [Scalar F] (problem : Problem F) :
    failure? problem.outline =
      ((Columns.repeats problem.objective.names).map CompileError.duplicateObjectiveVariable ++
        problem.constraints.filterMap Comparison.operatorViolation? ++
        (withEarlier [] problem.bounds).filterMap
          fun (entry : List (Comparison F) × Comparison F) =>
            entry.2.boundViolation? problem.objective.names entry.1).head? := by
  rw [List.append_assoc, List.head?_append, outline, ← Columns.failure?_ofNames,
    Expression.map_name_form]
  apply failure?_bind
  intro columns named
  obtain ⟨names, _⟩ := Columns.hold_of_ofNames named
  rw [List.head?_append, ← names, ← failure?_boundsByName]
  have operators : failure? (problem.constraints.mapM Comparison.restriction) =
      (problem.constraints.filterMap Comparison.operatorViolation?).head? := by
    rw [failure?_mapM]
    simp only [failure?_restriction]
  rw [← operators]
  apply failure?_bind
  intro rows _
  cases boundsByName columns problem.bounds <;> rfl

variable [Field F] [LinearOrder F] [Scalar F] [ExactScalar F]

theorem failure?_compile (stem : String) (problem : Problem F) :
    failure? (problem.compile stem).outcome =
      problem.violations.head?.map CompileFailure.rejected := by
  simp only [outcome_compile, violations]
  -- Each stage is reached only when the violations that earlier stages look for are absent.
  rw [List.append_assoc, List.head?_append, ← failure?_outline, Option.map_or, ← failure?_mapError]
  apply failure?_bind
  intro outline outlined
  obtain ⟨named, resolved, collected⟩ := outline_eq_ok.mp (mapError_eq_ok.mp outlined)
  obtain ⟨names, _⟩ := Columns.hold_of_ofNames named
  have unknown : failure? (matrixEntries outline.columns 1 outline.rows).outcome =
      (((problem.constraints.flatMap fun constraint => constraint.expression.names).filter
        (· ∉ problem.objective.names)).map CompileError.unknownVariable).head? := by
    rw [failure?_matrixEntries, names,
      ← List.flatMap_map Restriction.form fun form => form.map Monomial.name,
      forms_of_restrictions (mapM_eq_ok.mp resolved), List.flatMap_map]
    simp only [Expression.map_name_form]
  rw [List.head?_append, ← unknown, Option.map_or, ← failure?_mapError]
  apply failure?_bind
  intro entries _
  have assigned := assigned_of_boundsByName collected
  have zeros : failure? (outline.columns.names.toList.mapM fun name =>
      (boundedInterval name outline.bounds[name]?).map fun interval => interval.band name) =
        (problem.zeroBounds.map CompileError.zeroBoundCoefficient).head?.map
          CompileFailure.rejected := by
    rw [failure?_mapM, names, zeroBounds, ← List.head?_map, List.map_map, ← List.filterMap_eq_map,
      List.filterMap_filter]
    simp only [failure?_map, failure?_boundedInterval assigned]
    rfl
  rw [← zeros]
  refine (failure?_bind fun columns _ => ?_).trans (Option.or_none)
  rfl

end Problem

end LinearProgram
