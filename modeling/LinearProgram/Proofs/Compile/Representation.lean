import LinearProgram.Proofs.Compile.Preservation
import LinearProgram.Proofs.Model.Canonical

namespace LinearProgram

variable {F : Type}

def Model.monomial? (model : Model F) (entry : Entry F) : Option (Monomial F) :=
  (model.columns[entry.column - 1]?).map fun column => ⟨entry.coefficient, column.name⟩

structure Problem.RepresentedBy [Field F] [Scalar F] (problem : Problem F) (model : Model F) :
    Prop where
  rows_length : model.rows.length = problem.constraints.length
  columns_length : model.columns.length = problem.objective.terms.length
  objective_length : model.objective.length = problem.objective.terms.length
  distinct : (model.columns.map Band.name).Nodup
  names : model.columns.map Band.name = problem.objective.names
  costs : model.objective.zip (model.columns.map Band.name) =
    problem.objective.form.map fun term => (term.coefficient, term.name)
  placed : ∀ entry ∈ model.entries, 1 ≤ entry.row ∧ entry.row ≤ model.rows.length ∧
    1 ≤ entry.column ∧ entry.column ≤ model.columns.length
  sorted : model.entries.Pairwise fun earlier later => earlier.row ≤ later.row
  terms : ∀ (place : Nat) (constraint : Comparison F),
    problem.constraints[place]? = some constraint →
      (model.entries.filter fun entry => entry.row = place + 1).map model.monomial? =
        constraint.expression.form.map some
  restricted : ∀ row ∈ model.rows, row.kind ≠ .free
  free_iff : ∀ column ∈ model.columns,
    column.kind = .free ↔ ∀ bound ∈ problem.bounds, column.name ∉ bound.expression.names
  canonical : ∀ band ∈ model.rows ++ model.columns, band.IsCanonical

theorem Comparison.kind_ne_free [Scalar F] {comparison : Comparison F} {interval : Interval F}
    (resolved : comparison.interval = .ok interval) : interval.kind ≠ .free := by
  rw [ne_eq, Interval.kind_eq_free]
  cases comparison with
  | simple comparator _ _ | chained comparator _ _ _ =>
    cases comparator <;> cases resolved <;> simp [Interval.whole]

/-- Scaling keeps an interval that has an end from being the whole line. -/
theorem Comparison.kind_unscale_ne_free [Scalar F] [Field F] [LinearOrder F]
    {comparison : Comparison F} {interval : Interval F} {factor : F}
    (resolved : comparison.interval = .ok interval) : (interval.unscale factor).kind ≠ .free := by
  have bounded := kind_ne_free resolved
  rwa [ne_eq, Interval.kind_eq_free, Interval.unscale_eq_whole, ← Interval.kind_eq_free]

theorem pairwise_formsEntries (names : List String) (forms : List (List (Monomial F))) :
    (formsEntries names forms).Pairwise fun earlier later => earlier.row ≤ later.row := by
  have numbers : (forms.zipIdx 1).Pairwise fun earlier later => earlier.2 < later.2 := by
    rw [← List.pairwise_map, List.zipIdx_map_snd]
    exact List.pairwise_lt_range'
  rw [formsEntries, List.pairwise_flatMap]
  constructor
  · intro form _
    apply List.pairwise_of_forall_mem_list
    intro first inside second after
    rw [row_of_mem_formEntries first inside, row_of_mem_formEntries second after]
  · refine numbers.imp ?_
    intro earlier later before first inside second after
    rw [row_of_mem_formEntries first inside, row_of_mem_formEntries second after]
    exact before.le

namespace Problem.CompilesTo

variable [Scalar F] {problem : Problem F} {model : Model F}

theorem terms_eq (made : problem.CompilesTo model) {place : Nat} {constraint : Comparison F}
    (written : problem.constraints[place]? = some constraint) :
    (model.entries.filter fun entry => entry.row = place + 1).map model.monomial? =
      constraint.expression.form.map some := by
  have form : (problem.constraints.map fun constraint => constraint.expression.form)[place]? =
      some constraint.expression.form := by
    rw [List.getElem?_map, written]
    rfl
  have known := made.known constraint (List.mem_of_getElem? written)
  rw [made.entries, filter_formsEntries form, formEntries, List.map_map]
  apply List.map_congr_left
  intro term member
  obtain ⟨column, found, name⟩ := made.getElem?_columns (known term member)
  simp [Model.monomial?, found, name]

theorem exists_interval (made : problem.CompilesTo model) :
    ∀ band ∈ model.rows ++ model.columns, ∃ interval : Interval F,
      band = interval.band band.name := by
  intro band member
  rcases List.mem_append.mp member with row | column
  · obtain ⟨_, _, interval, _, same⟩ := exists_of_forall₂ made.rows band row
    exact ⟨interval, same⟩
  · by_cases bounded : ∃ bound ∈ problem.bounds, bound.subject? = some band.name
    · obtain ⟨bound, given, subject⟩ := bounded
      obtain ⟨_, interval, _, _, same⟩ := made.bounded band column bound given subject
      exact ⟨interval, same⟩
    · have unbounded : ∀ bound ∈ problem.bounds, bound.subject? ≠ some band.name := by
        intro bound given subject
        exact bounded ⟨bound, given, subject⟩
      exact ⟨_, made.free band column unbounded⟩

theorem costs_eq (made : problem.CompilesTo model) :
    model.objective.zip (model.columns.map Band.name) =
      problem.objective.form.map fun term => (term.coefficient, term.name) := by
  rw [made.columns, made.objective, ← Expression.map_name_form, List.zip_map']

variable [Field F] [LinearOrder F] [ExactScalar F]

theorem kind_eq_free_iff (made : problem.CompilesTo model) {column : Band F}
    (present : column ∈ model.columns) :
    column.kind = .free ↔ ∀ bound ∈ problem.bounds, column.name ∉ bound.expression.names := by
  constructor
  · intro free bound given mentions
    have subject := (made.mem_names_iff given).mp mentions
    obtain ⟨restriction, interval, resolved, scaled, band⟩ :=
      made.bounded column present bound given subject
    obtain ⟨coefficient, form⟩ := Comparison.form_eq_singleton resolved subject
    obtain ⟨_, rfl⟩ := (columnInterval_eq_ok form).mp scaled
    rw [band] at free
    exact Comparison.kind_unscale_ne_free (Comparison.restriction_eq_ok.mp resolved).1 free
  · intro unbounded
    rw [made.free column present]
    · rfl
    · intro bound given subject
      exact unbounded bound given ((made.mem_names_iff given).mpr subject)

theorem isCanonical (made : problem.CompilesTo model) :
    ∀ band ∈ model.rows ++ model.columns, band.IsCanonical := by
  intro band member
  obtain ⟨interval, same⟩ := made.exists_interval band member
  rw [same]
  exact interval.band_isCanonical band.name

theorem representedBy (made : problem.CompilesTo model) : problem.RepresentedBy model := by
  have names_length := congrArg List.length made.columns
  have objective_length := congrArg List.length made.objective
  simp only [List.length_map, Expression.names, Expression.form] at names_length objective_length
  exact {
    rows_length := made.rows.length_eq.symm
    columns_length := names_length
    objective_length := objective_length
    distinct := made.columns ▸ made.distinct
    names := made.columns
    costs := made.costs_eq
    placed := made.indices
    sorted := made.entries ▸ pairwise_formsEntries _ _
    terms := fun _ _ written => made.terms_eq written
    restricted := by
      intro row member
      obtain ⟨_, _, interval, resolved, band⟩ := exists_of_forall₂ made.rows row member
      rw [band]
      exact Comparison.kind_ne_free resolved
    free_iff := fun _ present => made.kind_eq_free_iff present
    canonical := made.isCanonical }

end Problem.CompilesTo

/-- A compiled model has a row for each constraint, a column and a cost for each variable, entries
by rows that spell out the constraints, and bands whose ends agree with their kinds. -/
theorem Problem.compile_represents [Field F] [LinearOrder F] [Scalar F] [ExactScalar F]
    {stem : String} {problem : Problem F} {model : Model F}
    (compiled : (problem.compile stem).outcome = .ok model) : problem.RepresentedBy model :=
  (compilesTo_of_ok compiled).representedBy

def Problem.scattered : Problem Rat where
  sense := .minimize
  objective := .sum [.scaled 0 "x", .bare "y", .scaled (-2) "z"]
  constraints :=
    [.simple .lessEqual (.sum [.scaled 2 "z", .bare "x", .scaled 0 "z"]) 4,
      .simple .greaterEqual (.sum []) (-1), .chained .greaterEqual 1 (.single (.bare "y")) 1]
  bounds := [.chained .lessEqual 3 (.single (.scaled (-3) "z")) 3]

def Model.scattered : Model Rat where
  rows := [⟨"R1", .upper, 0, 4⟩, ⟨"R2", .lower, -1, 0⟩, ⟨"y", .fixed, 1, 1⟩]
  columns := [⟨"x", .free, 0, 0⟩, ⟨"y", .free, 0, 0⟩, ⟨"z", .fixed, -1, -1⟩]
  entries := [⟨1, 3, 2⟩, ⟨1, 1, 1⟩, ⟨1, 3, 0⟩, ⟨3, 2, 1⟩]
  objective := [0, 1, -2]
  sense := .minimize

theorem Problem.scattered_represented :
    (Problem.scattered.compile "R").outcome = .ok Model.scattered ∧
      Problem.scattered.RepresentedBy Model.scattered := by
  have compiled : (Problem.scattered.compile "R").outcome = .ok Model.scattered := by
    decide +kernel
  exact ⟨compiled, compile_represents compiled⟩

end LinearProgram
