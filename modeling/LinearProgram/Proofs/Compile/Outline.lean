import LinearProgram.Compile.Outline
import LinearProgram.Proofs.Compile.Columns
import LinearProgram.Proofs.Problem.Meaning

namespace LinearProgram

variable {F : Type}

def Comparison.subject? (comparison : Comparison F) : Option String :=
  match comparison.expression.names with
  | [name] => some name
  | _ => none

theorem Comparison.subject?_eq_some {comparison : Comparison F} {name : String} :
    comparison.subject? = some name ↔ comparison.expression.names = [name] := by
  unfold subject?
  split
  · rename_i only names
    simp [names]
  · rename_i several
    constructor
    · intro impossible
      cases impossible
    · intro single
      exact absurd single (several name)

variable [Scalar F]

theorem Comparison.restriction_eq_ok {comparison : Comparison F} {restriction : Restriction F} :
    comparison.restriction = .ok restriction ↔
      comparison.interval = .ok restriction.interval ∧
        restriction.form = comparison.expression.form := by
  rw [Comparison.restriction, map_eq_ok]
  constructor
  · intro made
    obtain ⟨interval, resolved, rfl⟩ := made
    exact ⟨resolved, rfl⟩
  · intro parts
    obtain ⟨resolved, form⟩ := parts
    exact ⟨restriction.interval, resolved, by rw [← form]⟩

theorem Comparison.form_eq_singleton {comparison : Comparison F} {restriction : Restriction F}
    {name : String} (resolved : comparison.restriction = .ok restriction)
    (subject : comparison.subject? = some name) :
    ∃ coefficient, restriction.form = [⟨coefficient, name⟩] := by
  rw [subject?_eq_some, ← Expression.map_name_form, ← (restriction_eq_ok.mp resolved).2] at subject
  obtain ⟨⟨coefficient, _⟩, form, rfl⟩ := List.map_eq_singleton_iff.mp subject
  exact ⟨coefficient, form⟩

/-- A bound with a proper operator needs a single term, then a column for it that has no bound. -/
theorem addBound_of_restriction {columns : Columns} {bounds : Std.TreeMap String (Restriction F)}
    {bound : Comparison F} {restriction : Restriction F}
    (resolved : bound.restriction = .ok restriction) :
    addBound columns bounds bound =
      match bound.subject? with
      | none => .error (.boundOnExpression bound.expression.terms.length)
      | some name =>
        if name ∈ columns.names.toList then
          if bounds.contains name then .error (.duplicateBound name)
          else .ok (bounds.insert name restriction)
        else .error (.unknownVariable name) := by
  have form := (Comparison.restriction_eq_ok.mp resolved).2
  simp only [addBound, resolved, bind, Except.bind, form, Expression.form]
  unfold Comparison.subject? Expression.names
  cases bound.expression.terms with
  | nil => rfl
  | cons term rest =>
    cases rest with
    | cons _ _ => simp
    | nil =>
      have name : term.monomial.name = term.name := by cases term <;> rfl
      simp only [List.map_cons, List.map_nil, name]
      have lookup := Columns.failure?_place columns term.name
      cases place : columns.place term.name with
      | ok _ =>
        rw [place] at lookup
        have known : term.name ∈ columns.names.toList := by simpa using lookup
        simp only [known, ↓reduceIte]
      | error e =>
        rw [place] at lookup
        by_cases known : term.name ∈ columns.names.toList
        · simp [known] at lookup
        · simp only [known, ↓reduceIte, failure?_error, Option.some.injEq] at lookup ⊢
          rw [lookup]

theorem addBound_eq_ok {columns : Columns} {bounds larger : Std.TreeMap String (Restriction F)}
    {bound : Comparison F} (added : addBound columns bounds bound = .ok larger) :
    ∃ restriction name, bound.restriction = .ok restriction ∧ bound.subject? = some name ∧
      name ∈ columns.names.toList ∧ bounds[name]? = none ∧
        larger = bounds.insert name restriction := by
  cases resolved : bound.restriction with
  | error e => simp only [addBound, resolved] at added; cases added
  | ok restriction =>
    rw [addBound_of_restriction resolved] at added
    cases subject : bound.subject? with
    | none => simp only [subject] at added; cases added
    | some name =>
      simp only [subject] at added
      split at added
      · rename_i known
        split at added
        · cases added
        · rename_i free
          cases added
          exact ⟨restriction, name, rfl, rfl, known, by simpa using free, rfl⟩
      · cases added

structure Assigned (columns : Columns) (given : List (Comparison F))
    (bounds : Std.TreeMap String (Restriction F)) : Prop where
  found : ∀ name restriction, bounds[name]? = some restriction ↔
    ∃ bound ∈ given, bound.subject? = some name ∧ bound.restriction = .ok restriction
  known : ∀ bound ∈ given, ∃ name ∈ columns.names.toList, bound.subject? = some name
  resolved : ∀ bound ∈ given, ∃ restriction, bound.restriction = .ok restriction

theorem Assigned.empty (columns : Columns) :
    Assigned columns [] (∅ : Std.TreeMap String (Restriction F)) where
  found := by simp
  known := by simp
  resolved := by simp

theorem Assigned.insert {columns : Columns} {given : List (Comparison F)}
    {bounds larger : Std.TreeMap String (Restriction F)} {bound : Comparison F}
    (held : Assigned columns given bounds) (added : addBound columns bounds bound = .ok larger) :
    Assigned columns (given ++ [bound]) larger := by
  obtain ⟨restriction, name, resolved, subject, known, free, rfl⟩ := addBound_eq_ok added
  constructor
  · -- The new bound is on a variable that had none, so it hides no earlier one.
    intro other found
    simp only [Std.TreeMap.getElem?_insert, Std.LawfulEqCmp.compare_eq_iff_eq, List.mem_append,
      List.mem_singleton, or_and_right, exists_or, exists_eq_left, subject, resolved]
    by_cases same : name = other
    · subst same
      have none_before := held.found name found
      rw [free] at none_before
      simp only [reduceCtorEq, false_iff] at none_before
      simp [none_before]
    · simp [same, held.found]
  · intro other member
    rcases List.mem_append.mp member with member | member
    · exact held.known other member
    · rw [List.mem_singleton.mp member]
      exact ⟨name, known, subject⟩
  · intro other member
    rcases List.mem_append.mp member with member | member
    · exact held.resolved other member
    · rw [List.mem_singleton.mp member]
      exact ⟨restriction, resolved⟩

theorem assigned_of_boundsByName {columns : Columns} {bounds : List (Comparison F)}
    {byName : Std.TreeMap String (Restriction F)}
    (collected : boundsByName columns bounds = .ok byName) : Assigned columns bounds byName :=
  foldlM_reaches (Assigned columns) (fun _ _ _ _ held added => held.insert added)
    (.empty columns) collected

theorem Problem.outline_eq_ok {problem : Problem F} {outline : Outline F} :
    problem.outline = .ok outline ↔
      Columns.ofNames problem.objective.names = .ok outline.columns ∧
        problem.constraints.mapM Comparison.restriction = .ok outline.rows ∧
          boundsByName outline.columns problem.bounds = .ok outline.bounds := by
  simp only [Problem.outline, bind_eq_ok, Expression.map_name_form]
  constructor
  · intro outlined
    obtain ⟨columns, named, rows, resolved, bounds, collected, made⟩ := outlined
    cases made
    exact ⟨named, resolved, collected⟩
  · intro stages
    obtain ⟨named, resolved, collected⟩ := stages
    exact ⟨_, named, _, resolved, _, collected, rfl⟩

end LinearProgram
