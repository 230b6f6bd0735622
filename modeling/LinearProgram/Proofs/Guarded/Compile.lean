import LinearProgram.Proofs.Compile.Stages
import LinearProgram.Proofs.Guarded.Outcome

namespace LinearProgram

section Definitions

variable {F : Type} [Scalar F]

def placeBoundGuarded (columns : Columns) (perColumn : Array (Option (Restriction F)))
    (bound : Comparison F) : Guarded CompileError (Array (Option (Restriction F))) := do
  let restriction ← Guarded.sound bound.restriction
  match restriction.singleTerm? with
  | none => Guarded.fail (.boundOnExpression restriction.form.length)
  | some term => do
    let place ← Guarded.sound (columns.place term.name)
    let present ← Guarded.demand perColumn[place]? .index
    if present.isSome then Guarded.fail (.duplicateBound term.name)
    else do
      Guarded.require (place < perColumn.size) .index
      .ok (perColumn.setIfInBounds place (some restriction))

def boundsGuarded (columns : Columns) (bounds : List (Comparison F)) :
    Guarded CompileError (Array (Option (Restriction F))) :=
  bounds.foldlM (placeBoundGuarded columns) (Array.replicate columns.size none)

def divideGuarded (divisor value : F) : Guarded CompileFailure F := do
  Guarded.require (Scalar.isZero divisor = false) .division
  Guarded.sound ((Scalar.divide value divisor).mapError .overflow)

def columnIntervalGuarded (name : String) (bound : Option (Restriction F)) :
    Guarded CompileFailure (Interval F) :=
  match bound with
  | none => .ok Interval.whole
  | some restriction =>
    match restriction.singleTerm? with
    | none => Guarded.fail (.rejected (.boundOnExpression restriction.form.length))
    | some term => do
      Guarded.require (term.name = name) .assertion
      if Scalar.eq term.coefficient Scalar.one then .ok restriction.interval
      else if Scalar.isZero term.coefficient then
        Guarded.fail (.rejected (.zeroBoundCoefficient name))
      else do
        let lower ← restriction.interval.lower.mapM (divideGuarded term.coefficient)
        let upper ← restriction.interval.upper.mapM (divideGuarded term.coefficient)
        .ok (if Scalar.lt term.coefficient Scalar.zero then ⟨upper, lower⟩ else ⟨lower, upper⟩)

def Problem.compileGuarded (stem : String) (problem : Problem F) :
    Guarded CompileFailure (Model F) := do
  let columns ← Guarded.sound ((Columns.ofNames (problem.objective.form.map Monomial.name)).mapError
    CompileFailure.rejected)
  let rows ← Guarded.sound ((problem.constraints.mapM Comparison.restriction).mapError
    CompileFailure.rejected)
  let perColumn ← (boundsGuarded columns problem.bounds).explain CompileFailure.rejected
  let entries ← Guarded.sound ((matrixEntries columns 1 rows).outcome.mapError
    CompileFailure.rejected)
  let bands ← (columns.names.toList.zip perColumn.toList).mapM fun column =>
    (columnIntervalGuarded column.1 column.2).map fun interval => interval.band column.1
  let names := (NameSource.numbered stem columns 0).nameRows rows
  .ok ⟨names.zipWith (fun name row => row.interval.band name) rows, bands, entries,
    problem.objective.form.map Monomial.coefficient, problem.sense⟩

end Definitions

variable {F : Type}

structure Gathered (columns : Columns) (byName : Std.TreeMap String (Restriction F))
    (perColumn : Array (Option (Restriction F))) : Prop where
  size_eq : perColumn.size = columns.size
  found : ∀ (place : Nat) (name : String), columns.names[place]? = some name →
    perColumn[place]? = some byName[name]?

theorem Gathered.empty (columns : Columns) :
    Gathered columns (∅ : Std.TreeMap String (Restriction F))
      (Array.replicate columns.size none) where
  size_eq := Array.size_replicate
  found := by
    intro place name here
    have inside : place < columns.size := (Array.getElem?_eq_some_iff.mp here).1
    simp [inside]

theorem Gathered.insert {columns : Columns} {byName : Std.TreeMap String (Restriction F)}
    {perColumn : Array (Option (Restriction F))} (gathered : Gathered columns byName perColumn)
    {place : Nat} {name : String} (here : columns.names[place]? = some name)
    (restriction : Restriction F) :
    Gathered columns (byName.insert name restriction)
      (perColumn.setIfInBounds place (some restriction)) where
  size_eq := by rw [Array.size_setIfInBounds, gathered.size_eq]
  found := by
    intro other otherName there
    have inside : place < perColumn.size := by
      rw [gathered.size_eq]
      exact (Array.getElem?_eq_some_iff.mp here).1
    rw [Array.getElem?_setIfInBounds, Std.TreeMap.getElem?_insert]
    simp only [Std.LawfulEqCmp.compare_eq_iff_eq]
    by_cases samePlace : place = other
    · subst samePlace
      have sameName : name = otherName := Option.some.inj (here.symm.trans there)
      simp [sameName, inside]
    · have otherwise : name ≠ otherName := by
        rintro rfl
        rw [← columns.place_iff] at here there
        exact samePlace (Option.some.inj (here.symm.trans there))
      simp [samePlace, otherwise, gathered.found other otherName there]

theorem Gathered.zip_eq {columns : Columns} {byName : Std.TreeMap String (Restriction F)}
    {perColumn : Array (Option (Restriction F))} (gathered : Gathered columns byName perColumn) :
    columns.names.toList.zip perColumn.toList =
      columns.names.toList.map fun name => (name, byName[name]?) := by
  have byPlace : perColumn.toList = columns.names.toList.map fun name => byName[name]? := by
    apply List.ext_getElem?
    intro place
    rw [List.getElem?_map, Array.getElem?_toList, Array.getElem?_toList]
    cases here : columns.names[place]? with
    | some name => exact gathered.found place name here
    | none =>
      rw [Array.getElem?_eq_none_iff] at here
      exact Array.getElem?_eq_none (gathered.size_eq.trans_le here)
  have zipped : (columns.names.toList.map id).zip
      (columns.names.toList.map fun name => byName[name]?) =
        columns.names.toList.map fun name => (name, byName[name]?) := List.zip_map'
  rwa [List.map_id, ← byPlace] at zipped

variable [Scalar F]

theorem placeBoundGuarded_transfers {columns : Columns}
    {byName : Std.TreeMap String (Restriction F)} {perColumn : Array (Option (Restriction F))}
    (gathered : Gathered columns byName perColumn) (bound : Comparison F) :
    Transfers (fun _ => False) (Gathered columns) (Guarded.sound (addBound columns byName bound))
      (placeBoundGuarded columns perColumn bound) := by
  unfold placeBoundGuarded addBound
  cases bound.restriction with
  | error error => exact .of_error _
  | ok restriction =>
    simp only [Guarded.sound_ok, Guarded.ok_bind, Restriction.singleTerm?]
    cases form : restriction.form with
    | nil => exact .of_error _
    | cons term others =>
      cases others with
      | cons _ _ => exact .of_error _
      | nil =>
        simp only
        cases placed : columns.place term.name with
        | error error => exact .of_error _
        | ok place =>
          -- The place belongs to a column, each of which has room for a bound.
          have here := Columns.place_eq_ok.mp placed
          rw [Array.getElem?_toList] at here
          have present := gathered.found place term.name here
          have inside : place < perColumn.size := (Array.getElem?_eq_some_iff.mp present).1
          simp only [Guarded.sound_ok, Guarded.ok_bind, present, Guarded.demand_some,
            Guarded.require_of inside]
          rw [← Std.TreeMap.contains_eq_isSome_getElem?]
          split
          · exact .of_error _
          · exact .of_ok (gathered.insert here restriction)

theorem boundsGuarded_transfers (columns : Columns) (bounds : List (Comparison F)) :
    Transfers (fun _ => False) (Gathered columns) (Guarded.sound (boundsByName columns bounds))
      (boundsGuarded columns bounds) := by
  rw [boundsByName, ← Guarded.sound_foldlM fun _ _ => rfl]
  exact Transfers.foldlM (fun _ _ bound gathered => placeBoundGuarded_transfers gathered bound)
    bounds (.empty columns)

theorem divideGuarded_eq {divisor : F} (nonzero : Scalar.isZero divisor = false)
    (ending : Option F) :
    ending.mapM (divideGuarded divisor) =
      Guarded.sound ((ending.mapM (Scalar.divide · divisor)).mapError .overflow) := by
  cases ending with
  | none => rfl
  | some value =>
    simp only [Option.mapM_some, divideGuarded, Guarded.require_of nonzero, Guarded.ok_bind]
    cases Scalar.divide value divisor <;> rfl

theorem columnIntervalGuarded_eq {name : String} {bound : Option (Restriction F)}
    (own : ∀ restriction, bound = some restriction →
      ∃ coefficient, restriction.form = [⟨coefficient, name⟩]) :
    columnIntervalGuarded name bound = Guarded.sound (boundedInterval name bound) := by
  cases bound with
  | none => rfl
  | some restriction =>
    obtain ⟨coefficient, form⟩ := own restriction rfl
    simp only [columnIntervalGuarded, boundedInterval, columnInterval, Restriction.singleTerm?,
      form, Guarded.require_of, Guarded.ok_bind]
    split
    · rfl
    · split
      · rfl
      · rename_i nonzero
        rw [divideGuarded_eq (Bool.eq_false_iff.mpr nonzero),
          divideGuarded_eq (Bool.eq_false_iff.mpr nonzero), Interval.divide]
        cases restriction.interval.lower.mapM (Scalar.divide · coefficient) with
        | error cause => rfl
        | ok lower =>
          cases restriction.interval.upper.mapM (Scalar.divide · coefficient) with
          | error cause => rfl
          | ok upper =>
            simp only [Except.mapError, Guarded.sound_ok, Guarded.ok_bind, Interval.swap]
            rfl

/-- The bands of the columns, each made from the bound in its place. -/
theorem mapM_columnIntervalGuarded_eq {columns : Columns} {bounds : List (Comparison F)}
    {byName : Std.TreeMap String (Restriction F)} {perColumn : Array (Option (Restriction F))}
    (assigned : Assigned columns bounds byName) (gathered : Gathered columns byName perColumn) :
    ((columns.names.toList.zip perColumn.toList).mapM fun column =>
        (columnIntervalGuarded column.1 column.2).map fun interval => interval.band column.1) =
      Guarded.sound (columns.names.toList.mapM fun name =>
        (boundedInterval name byName[name]?).map fun interval => interval.band name) := by
  rw [gathered.zip_eq, List.mapM_map]
  apply Guarded.sound_mapM
  intro name _
  have own (restriction : Restriction F) (bounded : byName[name]? = some restriction) :
      ∃ coefficient, restriction.form = [⟨coefficient, name⟩] := by
    obtain ⟨bound, _, subject, resolved⟩ := (assigned.found name restriction).mp bounded
    exact Comparison.form_eq_singleton resolved subject
  rw [← Guarded.sound_map]
  exact congrArg (Except.map _) (columnIntervalGuarded_eq own)

theorem Problem.compileGuarded_eq (stem : String) (problem : Problem F) :
    problem.compileGuarded stem = Guarded.sound (problem.compile stem).outcome := by
  rw [outcome_compile, compileGuarded, outline]
  cases Columns.ofNames (problem.objective.form.map Monomial.name) with
  | error error => rfl
  | ok columns =>
    cases problem.constraints.mapM Comparison.restriction with
    | error error => rfl
    | ok rows =>
      have gathers := boundsGuarded_transfers columns problem.bounds
      cases collected : boundsByName columns problem.bounds with
      | error error =>
        rw [collected] at gathers
        have failed : boundsGuarded columns problem.bounds = Guarded.fail error :=
          gathers.resolve_left id
        simp only [Except.mapError, Guarded.sound_ok, Guarded.ok_bind, failed, collected]
        rfl
      | ok byName =>
        rw [collected] at gathers
        obtain ⟨perColumn, found, gathered⟩ := gathers
        have bands := mapM_columnIntervalGuarded_eq (assigned_of_boundsByName collected) gathered
        have explained : (boundsGuarded columns problem.bounds).explain CompileFailure.rejected =
            .ok perColumn := by
          rw [found]
          rfl
        simp only [Except.mapError, Guarded.sound_ok, Guarded.ok_bind, explained, collected, bands,
          pure, Except.pure]
        exact Guarded.sound_bind fun entries _ => Guarded.sound_bind fun _ _ => rfl

end LinearProgram
