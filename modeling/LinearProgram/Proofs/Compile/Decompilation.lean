import LinearProgram.Proofs.Compile.Acceptance
import LinearProgram.Proofs.Compile.Representation

namespace LinearProgram

variable {F : Type}

def Band.comparison? (band : Band F) (expression : Expression F) : Option (Comparison F) :=
  match band.kind with
  | .free => none
  | .lower => some (.simple .greaterEqual expression band.lower)
  | .upper => some (.simple .lessEqual expression band.upper)
  | .double => some (.chained .lessEqual band.lower expression band.upper)
  | .fixed => some (.simple .equal expression band.lower)

namespace Model

def entryTerm (model : Model F) (entry : Entry F) : Term F :=
  .scaled entry.coefficient ((model.columns[entry.column - 1]?).elim "" Band.name)

def rowExpression (model : Model F) (number : Nat) : Expression F :=
  .sum ((model.entries.filter fun entry => entry.row = number).map model.entryTerm)

def columnBound? (column : Band F) : Option (Comparison F) :=
  column.comparison? (.single (.bare column.name))

/-- The problem that a model spells out: every coefficient is written, also one that is one or
zero, and each column is bounded by itself. -/
def decompile (model : Model F) : Problem F where
  sense := model.sense
  objective := .sum ((model.objective.zip model.columns).map fun (cost, column) =>
    .scaled cost column.name)
  constraints := (model.rows.zipIdx 1).filterMap fun row =>
    row.1.comparison? (model.rowExpression row.2)
  bounds := model.columns.filterMap columnBound?

end Model

theorem Band.comparison?_eq_none {band : Band F} {expression : Expression F} :
    band.comparison? expression = none ↔ band.kind = .free := by
  unfold comparison?
  cases band.kind <;> simp

theorem Band.resolved_of_comparison? {band : Band F} {expression : Expression F}
    {comparison : Comparison F} (written : band.comparison? expression = some comparison) :
    comparison.expression = expression ∧ comparison.interval = .ok band.interval ∧
      comparison.HasLinearOperator := by
  unfold comparison? at written
  cases kind : band.kind <;> simp only [kind] at written <;> cases written <;>
    simp [Comparison.expression, Comparison.interval, Band.interval, kind,
      Comparison.HasLinearOperator]

theorem Model.names_of_columnBound? {column : Band F} {bound : Comparison F}
    (written : columnBound? column = some bound) : bound.expression.names = [column.name] := by
  rw [(Band.resolved_of_comparison? written).1]
  rfl

theorem forall₂_filterMap {α β γ : Type} {f : α → Option β} {related : β → γ → Prop} {xs : List α}
    {zs : List γ} (all : List.Forall₂ (fun x z => ∃ y, f x = some y ∧ related y z) xs zs) :
    List.Forall₂ related (xs.filterMap f) zs := by
  induction all with
  | nil => exact .nil
  | cons first _ ih =>
    obtain ⟨y, found, holds⟩ := first
    rw [List.filterMap_cons, found]
    exact .cons holds ih

namespace Problem.RepresentedBy

variable [Field F] [Scalar F] {problem : Problem F} {model : Model F}

theorem names_decompile (represented : problem.RepresentedBy model) :
    model.decompile.objective.names = problem.objective.names := by
  have enough : model.columns.length ≤ model.objective.length := by
    rw [represented.columns_length, represented.objective_length]
  calc model.decompile.objective.names
      = ((model.objective.zip model.columns).map Prod.snd).map Band.name := by
        rw [Model.decompile, Expression.names, Expression.terms, List.map_map, List.map_map]
        rfl
    _ = problem.objective.names := by rw [List.map_snd_zip enough, represented.names]

theorem costs_decompile (represented : problem.RepresentedBy model) :
    model.decompile.objective.form.map Monomial.coefficient = model.objective := by
  have enough : model.objective.length ≤ model.columns.length := by
    rw [represented.columns_length, represented.objective_length]
  calc model.decompile.objective.form.map Monomial.coefficient
      = (model.objective.zip model.columns).map Prod.fst := by
        rw [Model.decompile, Expression.form, Expression.terms, List.map_map, List.map_map]
        rfl
    _ = model.objective := List.map_fst_zip enough

theorem form_rowExpression (represented : problem.RepresentedBy model) {place : Nat}
    {constraint : Comparison F} (written : problem.constraints[place]? = some constraint) :
    (model.rowExpression (place + 1)).form = constraint.expression.form := by
  have read (entry : Entry F) (term : Monomial F) (found : model.monomial? entry = some term) :
      (model.entryTerm entry).monomial = term := by
    obtain ⟨column, present, rfl⟩ := Option.map_eq_some_iff.mp found
    simp [Model.entryTerm, Term.monomial, present]
  have terms := represented.terms place constraint written
  rw [← List.forall₂_eq_eq_eq, List.forall₂_map_left_iff, List.forall₂_map_right_iff] at terms
  rw [Model.rowExpression, Expression.form, Expression.terms, List.map_map,
    ← List.forall₂_eq_eq_eq, List.forall₂_map_left_iff]
  exact terms.imp read

/-- The rows of a compiled model are resolved to the restrictions that it was made from. -/
theorem restrictions_decompile [LinearOrder F] [ExactScalar F]
    (represented : problem.RepresentedBy model) {restrictions : List (Restriction F)}
    {names : List String}
    (resolved : problem.constraints.mapM Comparison.restriction = .ok restrictions)
    (rows : model.rows = names.zipWith (fun name row => row.interval.band name) restrictions) :
    model.decompile.constraints.mapM Comparison.restriction = .ok restrictions := by
  have resolved := mapM_eq_ok.mp resolved
  have sameLength : (model.rows.zipIdx 1).length = restrictions.length := by
    rw [List.length_zipIdx, represented.rows_length, resolved.length_eq]
  rw [mapM_eq_ok]
  apply forall₂_filterMap
  rw [List.forall₂_iff_get]
  refine ⟨sameLength, ?_⟩
  intro place inside inside'
  have inRows : place < model.rows.length := by rwa [List.length_zipIdx] at inside
  have inConstraints : place < problem.constraints.length := by
    rwa [← represented.rows_length]
  simp only [List.get_eq_getElem, List.getElem_zipIdx]
  have restriction := related_of_forall₂ resolved (List.getElem?_eq_getElem inConstraints)
    (List.getElem?_eq_getElem inside')
  obtain ⟨_, form⟩ := Comparison.restriction_eq_ok.mp restriction
  have interval : model.rows[place].interval = restrictions[place].interval := by
    simp only [rows, List.getElem_zipWith, Interval.interval_band]
  have bounded := represented.restricted _ (List.getElem_mem inRows)
  rw [ne_eq, ← Band.comparison?_eq_none, ← ne_eq, Option.ne_none_iff_exists'] at bounded
  obtain ⟨comparison, written⟩ := bounded
  obtain ⟨expression, comparisonInterval, _⟩ := Band.resolved_of_comparison? written
  refine ⟨comparison, written, Comparison.restriction_eq_ok.mpr ⟨?_, ?_⟩⟩
  · rw [comparisonInterval, interval]
  · rw [expression, form, Nat.add_comm,
      represented.form_rowExpression (List.getElem?_eq_getElem inConstraints)]

theorem bounds_decompile_inOrder (represented : problem.RepresentedBy model) :
    (∀ bound ∈ model.decompile.bounds, bound.HasLinearOperator) ∧
      (∀ bound ∈ model.decompile.bounds,
        ∃ name ∈ problem.objective.names, bound.expression.names = [name]) ∧
        (model.decompile.bounds.map fun bound => bound.expression.names).Nodup := by
  refine ⟨?_, ?_, ?_⟩
  · intro bound given
    obtain ⟨column, _, written⟩ := List.mem_filterMap.mp given
    exact (Band.resolved_of_comparison? written).2.2
  · intro bound given
    obtain ⟨column, present, written⟩ := List.mem_filterMap.mp given
    exact ⟨column.name, represented.names ▸ List.mem_map_of_mem present,
      Model.names_of_columnBound? written⟩
  · rw [List.Nodup, List.pairwise_map, Model.decompile, List.pairwise_filterMap]
    apply (List.pairwise_map.mp represented.distinct).imp
    intro earlier later different first written second written'
    rw [Model.names_of_columnBound? written, Model.names_of_columnBound? written', ne_eq,
      List.singleton_inj]
    exact different

theorem exists_bounds_decompile (represented : problem.RepresentedBy model) {columns : Columns}
    (known : columns.names.toList = problem.objective.names) :
    ∃ bounds, boundsByName columns model.decompile.bounds = .ok bounds := by
  rw [← failure?_eq_none, failure?_boundsByName, List.head?_eq_none_iff,
    List.filterMap_eq_nil_iff, Problem.bounds_inOrder_iff, known]
  exact represented.bounds_decompile_inOrder

theorem boundedInterval_decompile [LinearOrder F] [ExactScalar F]
    (represented : problem.RepresentedBy model) {columns : Columns}
    {bounds : Std.TreeMap String (Restriction F)}
    (assigned : Assigned columns model.decompile.bounds bounds) {column : Band F}
    (present : column ∈ model.columns) :
    boundedInterval column.name bounds[column.name]? = .ok column.interval := by
  have subject {other : Band F} {bound : Comparison F}
      (written : Model.columnBound? other = some bound) : bound.subject? = some other.name :=
    Comparison.subject?_eq_some.mpr (Model.names_of_columnBound? written)
  cases written : Model.columnBound? column with
  | none =>
    -- A bound on this variable would come from this column, as names of columns are distinct.
    have unbounded : bounds[column.name]? = none := by
      apply Option.eq_none_iff_forall_ne_some.mpr
      intro restriction found
      obtain ⟨bound, given, name, _⟩ := (assigned.found _ _).mp found
      obtain ⟨other, otherPresent, otherWritten⟩ := List.mem_filterMap.mp given
      have sameName := Option.some.inj ((subject otherWritten).symm.trans name)
      have same := List.inj_on_of_nodup_map represented.distinct otherPresent present sameName
      rw [same, written] at otherWritten
      cases otherWritten
    have free := Band.comparison?_eq_none.mp written
    rw [unbounded, Band.interval, free]
    rfl
  | some bound =>
    obtain ⟨expression, interval, _⟩ := Band.resolved_of_comparison? written
    have given : bound ∈ model.decompile.bounds := List.mem_filterMap.mpr ⟨column, present, written⟩
    have resolved : bound.restriction = .ok ⟨bound.expression.form, column.interval⟩ :=
      Comparison.restriction_eq_ok.mpr ⟨interval, rfl⟩
    have found := (assigned.found _ _).mpr ⟨bound, given, subject written, resolved⟩
    have form : bound.expression.form = [⟨1, column.name⟩] := by
      rw [expression, ← ExactScalar.one_eq]
      rfl
    rw [found, boundedInterval]
    exact (columnInterval_eq_ok form).mpr ⟨one_ne_zero, (Interval.unscale_one _).symm⟩

end Problem.RepresentedBy

/-- A compiled model is what the problem that it spells out is compiled to. -/
theorem Model.compile_decompile [Field F] [LinearOrder F] [Scalar F] [ExactScalar F]
    {stem : String} {problem : Problem F} {model : Model F}
    (compiled : (problem.compile stem).outcome = .ok model) :
    (model.decompile.compile stem).outcome = .ok model := by
  obtain ⟨outline, outlined, placed, _, rows, _, _⟩ := Problem.compile_eq_ok.mp compiled
  obtain ⟨named, resolved, _⟩ := Problem.outline_eq_ok.mp outlined
  obtain ⟨names, _⟩ := Columns.hold_of_ofNames named
  have represented := (Problem.compilesTo_of_ok compiled).representedBy
  obtain ⟨bounds, collected⟩ := represented.exists_bounds_decompile names
  have assigned := assigned_of_boundsByName collected
  refine Problem.compile_eq_ok.mpr ⟨⟨outline.columns, outline.rows, bounds⟩,
    Problem.outline_eq_ok.mpr ⟨?_, ?_, collected⟩, placed, ?_, rows, ?_, rfl⟩
  · rw [represented.names_decompile]
    exact named
  · exact represented.restrictions_decompile resolved rows
  · rw [names, ← represented.names, List.forall₂_map_left_iff, List.forall₂_same]
    intro column present
    have canonical := represented.canonical column (List.mem_append_right _ present)
    exact ⟨_, represented.boundedInterval_decompile assigned present,
      Band.band_interval canonical column.name⟩
  · exact represented.costs_decompile.symm

def Problem.shadowed : Problem Rat where
  sense := .maximize
  objective := .sum [.bare "x", .scaled 0 "R1"]
  constraints :=
    [.simple .lessEqual (.single (.scaled 2 "x")) 4, .simple .equal (.single (.scaled 1 "x")) 2,
      .chained .greaterEqual 5 (.sum [.bare "R1", .scaled 0 "x", .scaled (-1) "R1"]) (-5)]
  bounds := [.simple .lessEqual (.single (.scaled (-4) "R1")) 2]

def Model.shadowed : Model Rat where
  rows := [⟨"R2", .upper, 0, 4⟩, ⟨"x", .fixed, 2, 2⟩, ⟨"R3", .double, -5, 5⟩]
  columns := [⟨"x", .free, 0, 0⟩, ⟨"R1", .lower, -1 / 2, 0⟩]
  entries := [⟨1, 1, 2⟩, ⟨2, 1, 1⟩, ⟨3, 2, 1⟩, ⟨3, 1, 0⟩, ⟨3, 2, -1⟩]
  objective := [1, 0]
  sense := .maximize

theorem Model.shadowed_recompiled :
    (Problem.shadowed.compile "R").outcome = .ok Model.shadowed ∧
      (Model.shadowed.decompile.compile "R").outcome = .ok Model.shadowed := by
  have compiled : (Problem.shadowed.compile "R").outcome = .ok Model.shadowed := by decide +kernel
  exact ⟨compiled, compile_decompile compiled⟩

end LinearProgram
