import LinearProgram.Proofs.Compile.Acceptance
import LinearProgram.Proofs.Compile.RowNames
import LinearProgram.Proofs.Reorder

namespace LinearProgram

variable {F : Type}

namespace Model

def moveRows (places : List Nat) (names : List String) (model : Model F) : Model F :=
  { model with
    rows := names.zipWith (fun name row => { row with name := name }) (reorder places model.rows)
    entries := (places.zipIdx 1).flatMap fun place =>
      (model.entries.filter fun entry => entry.row = place.1 + 1).map fun entry =>
        { entry with row := place.2 } }

/-- The columns at the given places with their costs, and every entry in the column where the place
of its own now stands. -/
def moveColumns (places : List Nat) (model : Model F) : Model F :=
  { model with
    columns := reorder places model.columns
    objective := reorder places model.objective
    entries := model.entries.map fun entry =>
      { entry with column := places.idxOf (entry.column - 1) + 1 } }

end Model

theorem formEntries_renumbered (names : List String) (number other : Nat)
    (form : List (Monomial F)) :
    (formEntries names number form).map (fun entry => { entry with row := other }) =
      formEntries names other form :=
  List.map_map

/-- The entries of forms in another order are those of each form moved with it. -/
theorem formsEntries_reorder (names : List String) {forms : List (List (Monomial F))}
    {places : List Nat} (inside : ∀ place ∈ places, place < forms.length) :
    formsEntries names (reorder places forms) = (places.zipIdx 1).flatMap fun place =>
      ((formsEntries names forms).filter fun entry => entry.row = place.1 + 1).map fun entry =>
        { entry with row := place.2 } := by
  suffices general : ∀ number, ((reorder places forms).zipIdx number).flatMap
      (fun form => formEntries names form.2 form.1) = (places.zipIdx number).flatMap fun place =>
        ((formsEntries names forms).filter fun entry => entry.row = place.1 + 1).map fun entry =>
          { entry with row := place.2 } from general 1
  induction places with
  | nil => exact fun _ => rfl
  | cons place places ih =>
    intro number
    obtain ⟨first, rest⟩ := List.forall_mem_cons.mp inside
    have found := List.getElem?_eq_getElem first
    rw [reorder_cons found, List.zipIdx_cons, List.zipIdx_cons, List.flatMap_cons,
      List.flatMap_cons, ih rest, filter_formsEntries found, formEntries_renumbered]

/-- The entries of forms are in the columns where their variables now stand. -/
theorem formsEntries_reorder_names {names : List String} {forms : List (List (Monomial F))}
    {places : List Nat} (distinct : names.Nodup) (inside : ∀ place ∈ places, place < names.length) :
    formsEntries (reorder places names) forms = (formsEntries names forms).map fun entry =>
      { entry with column := places.idxOf (entry.column - 1) + 1 } := by
  unfold formsEntries formEntries
  rw [List.map_flatMap]
  congr 1
  funext form
  rw [List.map_map]
  apply List.map_congr_left
  intro term _
  simp only [Function.comp_apply, Nat.add_sub_cancel, idxOf_reorder distinct inside]

theorem Columns.exists_ofNames {names : List String} (distinct : names.Nodup) :
    ∃ columns, ofNames names = .ok columns ∧ columns.names.toList = names := by
  obtain ⟨columns, named⟩ := exists_ofNames_iff.mpr distinct
  exact ⟨columns, named, (hold_of_ofNames named).1⟩

variable [Scalar F]

def Comparison.rowName? (comparison : Comparison F) : Option String :=
  match comparison.expression.form with
  | [term] => if Scalar.eq term.coefficient Scalar.one then some term.name else none
  | _ => none

def Problem.rowNames (problem : Problem F) : List (Option String) :=
  problem.constraints.map Comparison.rowName?

theorem Comparison.bareName?_of_restriction {constraint : Comparison F} {row : Restriction F}
    (resolved : constraint.restriction = .ok row) : row.bareName? = constraint.rowName? := by
  rw [Restriction.bareName?, (Comparison.restriction_eq_ok.mp resolved).2]
  rfl

theorem map_bareName? {constraints : List (Comparison F)} {rows : List (Restriction F)}
    (resolved : List.Forall₂ (fun constraint row => constraint.restriction = .ok row)
      constraints rows) :
    rows.map Restriction.bareName? = constraints.map Comparison.rowName? := by
  induction resolved with
  | nil => rfl
  | cons first _ ih =>
    rw [List.map_cons, List.map_cons, ih, Comparison.bareName?_of_restriction first]

section Bands

variable {names : List String} {rows : List (Restriction F)}

theorem map_name_bands (lengths : names.length = rows.length) :
    (names.zipWith (fun name row => row.interval.band name) rows).map Band.name = names := by
  apply List.ext_getElem
  · simp [lengths]
  · simp [Interval.name_band]

theorem forall₂_bands (lengths : names.length = rows.length) :
    List.Forall₂ (fun row (band : Band F) => band = row.interval.band band.name) rows
      (names.zipWith (fun name row => row.interval.band name) rows) := by
  rw [List.forall₂_iff_get]
  simp [lengths, Interval.name_band]

/-- Rows take new names together with the bands that are made of them. -/
theorem bands_renamed {bands : List (Band F)}
    (made : List.Forall₂ (fun row band => band = row.interval.band band.name) rows bands)
    (names : List String) :
    names.zipWith (fun name row => row.interval.band name) rows =
      names.zipWith (fun name (band : Band F) => { band with name := name }) bands := by
  induction made generalizing names with
  | nil => rw [List.zipWith_nil_right, List.zipWith_nil_right]
  | cons first _ ih =>
    cases names with
    | nil => rfl
    | cons name names =>
      rw [List.zipWith_cons_cons, List.zipWith_cons_cons, ih, first]
      rfl

end Bands

theorem exists_boundsByName_iff {columns : Columns} {bounds : List (Comparison F)} :
    (∃ byName, boundsByName columns bounds = .ok byName) ↔
      (∀ bound ∈ bounds, bound.HasLinearOperator) ∧
        (∀ bound ∈ bounds, ∃ name ∈ columns.names.toList, bound.expression.names = [name]) ∧
          (bounds.map fun bound => bound.expression.names).Nodup := by
  rw [← failure?_eq_none, failure?_boundsByName, List.head?_eq_none_iff,
    List.filterMap_eq_nil_iff, Problem.bounds_inOrder_iff]

/-- The order of bounds and of columns makes no difference to the bound that a variable has. -/
theorem boundsByName_of_perm {columns others : Columns} {bounds reordered : List (Comparison F)}
    {byName : Std.TreeMap String (Restriction F)}
    (collected : boundsByName columns bounds = .ok byName)
    (names : others.names.toList.Perm columns.names.toList) (permuted : reordered.Perm bounds) :
    ∃ found, boundsByName others reordered = .ok found ∧
      ∀ name : String, found[name]? = byName[name]? := by
  obtain ⟨operators, single, once⟩ := exists_boundsByName_iff.mp ⟨byName, collected⟩
  have succeeds : ∃ found, boundsByName others reordered = .ok found := by
    rw [exists_boundsByName_iff]
    simp only [permuted.mem_iff, names.mem_iff, (permuted.map _).nodup_iff]
    exact ⟨operators, single, once⟩
  obtain ⟨found, recollected⟩ := succeeds
  have assigned := assigned_of_boundsByName collected
  have reassigned := assigned_of_boundsByName recollected
  refine ⟨found, recollected, ?_⟩
  intro name
  apply Option.ext
  intro restriction
  rw [reassigned.found, assigned.found]
  simp only [permuted.mem_iff]

namespace Problem

variable {stem : String} {problem : Problem F} {model : Model F}

theorem compile_of_perm_bounds (compiled : (problem.compile stem).outcome = .ok model)
    {bounds : List (Comparison F)} (permuted : bounds.Perm problem.bounds) :
    ({ problem with bounds := bounds }.compile stem).outcome = .ok model := by
  obtain ⟨outline, outlined, placed, banded, others⟩ := compile_eq_ok.mp compiled
  obtain ⟨named, resolved, collected⟩ := outline_eq_ok.mp outlined
  obtain ⟨found, recollected, same⟩ := boundsByName_of_perm collected (.refl _) permuted
  refine compile_eq_ok.mpr ⟨⟨outline.columns, outline.rows, found⟩,
    outline_eq_ok.mpr ⟨named, resolved, recollected⟩, placed, ?_, others⟩
  simp only [same]
  exact banded

theorem compile_of_reorder_constraints (compiled : (problem.compile stem).outcome = .ok model) :
    ∃ drawn : List String,
      drawn.length = problem.rowNames.count none ∧
      model.rows.map Band.name = fillNames problem.rowNames drawn ∧
      ∀ places : List Nat, places.Perm (List.range problem.constraints.length) →
        ({ problem with constraints := reorder places problem.constraints }.compile stem).outcome =
          .ok (model.moveRows places (fillNames (reorder places problem.rowNames) drawn)) := by
  obtain ⟨outline, outlined, placed, banded, rows, objective, sense⟩ := compile_eq_ok.mp compiled
  obtain ⟨named, resolved, collected⟩ := outline_eq_ok.mp outlined
  have restricted := mapM_eq_ok.mp resolved
  obtain ⟨known, entries⟩ := matrixEntries_eq_ok.mp placed
  have own : outline.rows.map Restriction.bareName? = problem.rowNames := map_bareName? restricted
  let source := NameSource.numbered stem outline.columns 0
  have lengths := source.length_nameRows outline.rows
  refine ⟨source.drawMany (problem.rowNames.count none), source.length_drawMany _, ?_, ?_⟩
  · rw [rows, map_name_bands lengths, NameSource.nameRows_eq_fillNames, own]
  · intro places permuted
    rw [restricted.length_eq] at permuted
    have inside : ∀ place ∈ places, place < outline.rows.length := by
      intro place member
      exact List.mem_range.mp (permuted.mem_iff.mp member)
    have rows_permuted : (reorder places outline.rows).Perm outline.rows :=
      perm_iff_exists_reorder.mpr ⟨places, permuted, rfl⟩
    have made := forall₂_bands lengths
    rw [← rows] at made
    refine compile_eq_ok.mpr ⟨⟨outline.columns, reorder places outline.rows, outline.bounds⟩,
      outline_eq_ok.mpr ⟨named, ?_, collected⟩, ?_, banded, ?_, objective, sense⟩
    · exact mapM_eq_ok.mpr (forall₂_reorder restricted places)
    · apply matrixEntries_eq_ok.mpr
      constructor
      · intro form member
        exact known form ((rows_permuted.map _).mem_iff.mp member)
      · rw [Model.moveRows, entries, ← reorder_map, formsEntries_reorder]
        rwa [List.length_map]
    · rw [source.nameRows_reorder permuted, own, bands_renamed (forall₂_reorder made places)]
      rfl

theorem compile_of_reorder_objective (compiled : (problem.compile stem).outcome = .ok model)
    {places : List Nat} (permuted : places.Perm (List.range problem.objective.terms.length))
    {objective : Expression F} (reordered : objective.terms = reorder places problem.objective.terms) :
    ({ problem with objective := objective }.compile stem).outcome =
      .ok (model.moveColumns places) := by
  obtain ⟨outline, outlined, placed, banded, rows, costs, sense⟩ := compile_eq_ok.mp compiled
  obtain ⟨named, resolved, collected⟩ := outline_eq_ok.mp outlined
  obtain ⟨names, distinct⟩ := Columns.hold_of_ofNames named
  obtain ⟨known, entries⟩ := matrixEntries_eq_ok.mp placed
  have moved_names : objective.names = reorder places problem.objective.names := by
    rw [Expression.names, reordered, ← reorder_map, Expression.names]
  have names_permuted : objective.names.Perm problem.objective.names := by
    rw [moved_names]
    apply perm_iff_exists_reorder.mpr
    refine ⟨places, ?_, rfl⟩
    rwa [Expression.names, List.length_map]
  obtain ⟨columns, renamed, moved⟩ := Columns.exists_ofNames (names_permuted.nodup_iff.mpr distinct)
  have same : columns.names.toList.Perm outline.columns.names.toList := by
    rw [moved, names]
    exact names_permuted
  obtain ⟨found, recollected, lookups⟩ := boundsByName_of_perm collected same (.refl _)
  refine compile_eq_ok.mpr ⟨⟨columns, outline.rows, found⟩,
    outline_eq_ok.mpr ⟨renamed, resolved, recollected⟩, ?_, ?_, ?_, ?_, sense⟩
  · apply matrixEntries_eq_ok.mpr
    constructor
    · intro form member term present
      exact same.mem_iff.mpr (known form member term present)
    · have inside : ∀ place ∈ places, place < problem.objective.names.length := by
        intro place member
        rw [Expression.names, List.length_map]
        exact List.mem_range.mp (permuted.mem_iff.mp member)
      rw [moved, moved_names, formsEntries_reorder_names distinct inside, Model.moveColumns,
        entries, names]
  · simp only [lookups]
    rw [moved, moved_names, ← names]
    exact forall₂_reorder banded places
  · rw [NameSource.nameRows_congr same]
    exact rows
  · rw [Model.moveColumns, costs, Expression.form, Expression.form, reordered, ← reorder_map,
      ← reorder_map]

/-- Bounds can stand in any order. When constraints are permuted, their rows and the entries of
these move with them, and only the numbered names are given out anew. When the terms of the
objective are permuted, the columns move with them. -/
theorem compile_reordered (compiled : (problem.compile stem).outcome = .ok model) :
    (∀ bounds : List (Comparison F), bounds.Perm problem.bounds →
      ({ problem with bounds := bounds }.compile stem).outcome = .ok model) ∧
    (∃ drawn : List String,
      drawn.length = problem.rowNames.count none ∧
      model.rows.map Band.name = fillNames problem.rowNames drawn ∧
      ∀ places : List Nat, places.Perm (List.range problem.constraints.length) →
        ({ problem with constraints := reorder places problem.constraints }.compile stem).outcome =
          .ok (model.moveRows places (fillNames (reorder places problem.rowNames) drawn))) ∧
    ∀ (places : List Nat) (objective : Expression F),
      places.Perm (List.range problem.objective.terms.length) →
      objective.terms = reorder places problem.objective.terms →
        ({ problem with objective := objective }.compile stem).outcome =
          .ok (model.moveColumns places) := by
  refine ⟨?_, compile_of_reorder_constraints compiled, ?_⟩
  · intro bounds permuted
    exact compile_of_perm_bounds compiled permuted
  · intro places objective permuted reordered
    exact compile_of_reorder_objective compiled permuted reordered

def ordered : Problem Rat where
  sense := .maximize
  objective := .sum [.bare "x", .scaled 2 "R1", .scaled (-1) "y"]
  constraints := [.simple .lessEqual (.sum [.scaled 2 "x", .bare "y"]) 4,
    .simple .equal (.single (.bare "y")) 2,
    .chained .lessEqual 1 (.sum [.scaled 3 "R1", .bare "x", .scaled 0 "R1"]) 5]
  bounds := [.simple .lessEqual (.single (.scaled (-2) "y")) 3,
    .simple .greaterEqual (.single (.bare "x")) 1]

end Problem

def Model.ordered : Model Rat where
  rows := [⟨"R2", .upper, 0, 4⟩, ⟨"y", .fixed, 2, 2⟩, ⟨"R3", .double, 1, 5⟩]
  columns := [⟨"x", .lower, 1, 0⟩, ⟨"R1", .free, 0, 0⟩, ⟨"y", .lower, -3 / 2, 0⟩]
  entries := [⟨1, 1, 2⟩, ⟨1, 3, 1⟩, ⟨2, 3, 1⟩, ⟨3, 2, 3⟩, ⟨3, 1, 1⟩, ⟨3, 2, 0⟩]
  objective := [1, 2, -1]
  sense := .maximize

namespace Problem

theorem ordered_reordered :
    (ordered.compile "R").outcome = .ok Model.ordered ∧
      ({ ordered with bounds := ordered.bounds.reverse }.compile "R").outcome =
        .ok Model.ordered ∧
      ({ ordered with constraints := reorder [2, 0, 1] ordered.constraints }.compile "R").outcome =
        .ok { Model.ordered with
          rows := [⟨"R2", .double, 1, 5⟩, ⟨"R3", .upper, 0, 4⟩, ⟨"y", .fixed, 2, 2⟩]
          entries := [⟨1, 2, 3⟩, ⟨1, 1, 1⟩, ⟨1, 2, 0⟩, ⟨2, 1, 2⟩, ⟨2, 3, 1⟩, ⟨3, 3, 1⟩] } ∧
      ({ ordered with objective := .sum [.scaled 2 "R1", .scaled (-1) "y", .bare "x"] }.compile
          "R").outcome =
        .ok { Model.ordered with
          columns := [⟨"R1", .free, 0, 0⟩, ⟨"y", .lower, -3 / 2, 0⟩, ⟨"x", .lower, 1, 0⟩]
          entries := [⟨1, 3, 2⟩, ⟨1, 2, 1⟩, ⟨2, 2, 1⟩, ⟨3, 1, 3⟩, ⟨3, 3, 1⟩, ⟨3, 1, 0⟩]
          objective := [2, -1, 1] } := by
  have compiled : (ordered.compile "R").outcome = .ok Model.ordered := by decide +kernel
  obtain ⟨bounds, ⟨drawn, count, names, rows⟩, columns⟩ := compile_reordered compiled
  have same_names : drawn = ["R2", "R3"] := by
    have own : ordered.rowNames = [none, some "y", none] := by decide +kernel
    rw [own] at count names
    match drawn, count with
    | [first, second], _ =>
      cases names
      rfl
  subst same_names
  refine ⟨compiled, bounds _ (List.reverse_perm _), ?_, ?_⟩
  · rw [rows [2, 0, 1] (by decide)]
    decide +kernel
  · rw [columns [1, 2, 0] _ (by decide) (by rfl)]
    decide +kernel

end Problem

end LinearProgram
