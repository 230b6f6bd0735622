import LinearProgram.Proofs.Compile.Stages
import LinearProgram.Proofs.Model.Map
import LinearProgram.Proofs.Problem.Map
import LinearProgram.Proofs.Transfer

namespace LinearProgram

variable {F G : Type}

def Monomial.map (f : F → G) (monomial : Monomial F) : Monomial G :=
  ⟨f monomial.coefficient, monomial.name⟩

def Restriction.map (f : F → G) (restriction : Restriction F) : Restriction G :=
  ⟨restriction.form.map (Monomial.map f), restriction.interval.map f⟩

theorem Comparison.interval_map (f : F → G) (comparison : Comparison F) :
    (comparison.map f).interval = comparison.interval.map (Interval.map f) := by
  cases comparison with
  | simple comparator _ _ | chained comparator _ _ _ => cases comparator <;> rfl

theorem rowEntries_map (f : F → G) (columns : Columns) (number : Nat) (row : Restriction F) :
    rowEntries columns number (row.map f) = (rowEntries columns number row).map
      (List.map (Entry.map f)) := by
  unfold rowEntries
  apply mapM_of_map
  intro term
  cases found : columns.place term.name <;> simp [Monomial.map, found, Except.map, Entry.map]

theorem outcome_matrixEntries_map (f : F → G) (columns : Columns) (number : Nat)
    (rows : List (Restriction F)) :
    (matrixEntries columns number (rows.map (Restriction.map f))).outcome =
      (matrixEntries columns number rows).outcome.map (List.map (Entry.map f)) := by
  rw [outcome_matrixEntries, outcome_matrixEntries, List.zipIdx_map,
    mapM_of_map fun row => rowEntries_map f columns row.2 row.1]
  cases (rows.zipIdx number).mapM fun row => rowEntries columns row.2 row.1 with
  | error e => rfl
  | ok blocks => simp [Except.map, List.map_flatten]

def CompileFailure.IsOverflow (failure : CompileFailure) : Prop :=
  ∃ cause, failure = .overflow cause

variable [Scalar F] [Scalar G] {f : F → G} (embedding : Scalar.IsEmbedding f)

include embedding

theorem Term.monomial_map (term : Term F) : (term.map f).monomial = term.monomial.map f := by
  cases term with
  | bare name => simp only [map, monomial, Monomial.map, embedding.one]
  | scaled coefficient name => rfl

theorem Expression.form_map (expression : Expression F) :
    (expression.map f).form = expression.form.map (Monomial.map f) := by
  rw [form, form, terms_map, List.map_map, List.map_map]
  congr 1
  funext term
  exact term.monomial_map embedding

theorem Comparison.restriction_map (comparison : Comparison F) :
    (comparison.map f).restriction = comparison.restriction.map (Restriction.map f) := by
  unfold restriction
  rw [interval_map, expression_map, Expression.form_map embedding]
  cases comparison.interval <;> rfl

theorem Restriction.bareName?_map (restriction : Restriction F) :
    (restriction.map f).bareName? = restriction.bareName? := by
  obtain ⟨form, interval⟩ := restriction
  cases form with
  | nil => rfl
  | cons term rest =>
    cases rest with
    | nil => simp only [bareName?, map, List.map_cons, List.map_nil, Monomial.map, embedding.one,
        embedding.eq]
    | cons _ _ => rfl

theorem NameSource.nameRows_map (source : NameSource) (rows : List (Restriction F)) :
    source.nameRows (rows.map (Restriction.map f)) = source.nameRows rows := by
  induction rows generalizing source with
  | nil => rfl
  | cons row rows ih =>
    rw [List.map_cons, nameRows, nameRows, row.bareName?_map embedding]
    cases row.bareName? with
    | some name => exact congrArg _ (ih source)
    | none => exact congrArg _ (ih source.draw.2)

def BoundsMap (f : F → G) (bounds : Std.TreeMap String (Restriction F))
    (images : Std.TreeMap String (Restriction G)) : Prop :=
  ∀ name : String, images[name]? = (bounds[name]?).map (Restriction.map f)

omit embedding [Scalar F] [Scalar G] in
theorem BoundsMap.insert {bounds : Std.TreeMap String (Restriction F)}
    {images : Std.TreeMap String (Restriction G)} (same : BoundsMap f bounds images)
    (name : String) (restriction : Restriction F) :
    BoundsMap f (bounds.insert name restriction) (images.insert name (restriction.map f)) := by
  intro other
  rw [Std.TreeMap.getElem?_insert, Std.TreeMap.getElem?_insert]
  split
  · rfl
  · exact same other

theorem addBound_transfers (columns : Columns) {bounds : Std.TreeMap String (Restriction F)}
    {images : Std.TreeMap String (Restriction G)} (same : BoundsMap f bounds images)
    (bound : Comparison F) :
    Transfers (fun _ => False) (BoundsMap f) (addBound columns bounds bound)
      (addBound columns images (bound.map f)) := by
  unfold addBound
  apply Transfers.bind (.of_eq_map (bound.restriction_map embedding))
  intro restriction _ mapped
  subst mapped
  obtain ⟨form, interval⟩ := restriction
  match form with
  | [] => exact .of_error _
  | [term] =>
    have contains : images.contains term.name = bounds.contains term.name := by
      rw [Std.TreeMap.contains_eq_isSome_getElem?, Std.TreeMap.contains_eq_isSome_getElem?, same,
        Option.isSome_map]
    apply Transfers.bind (.refl (columns.place term.name))
    intro place _ _
    simp only [Monomial.map, contains]
    split
    · exact .of_error _
    · exact .of_ok (same.insert term.name ⟨[term], interval⟩)
  | first :: second :: rest =>
    have length : ((⟨first :: second :: rest, interval⟩ : Restriction F).map f).form.length =
        (first :: second :: rest).length := List.length_map _
    simp only [← length]
    exact .of_error _

theorem boundsByName_transfers (columns : Columns) (bounds : List (Comparison F)) :
    Transfers (fun _ => False) (BoundsMap f) (boundsByName columns bounds)
      (boundsByName columns (bounds.map (Comparison.map f))) := by
  unfold boundsByName
  rw [List.foldlM_map]
  apply Transfers.foldlM
  · intro state images bound kept
    exact addBound_transfers embedding columns kept bound
  · intro name
    simp

structure OutlineMap (f : F → G) (outline : Outline F) (image : Outline G) : Prop where
  columns : image.columns = outline.columns
  rows : image.rows = outline.rows.map (Restriction.map f)
  bounds : BoundsMap f outline.bounds image.bounds

theorem Problem.outline_transfers (problem : Problem F) :
    Transfers (fun _ => False) (OutlineMap f) problem.outline (problem.map f).outline := by
  unfold outline
  have names : (problem.map f).objective.form.map Monomial.name =
      problem.objective.form.map Monomial.name := by
    rw [map, Expression.form_map embedding, List.map_map]
    rfl
  rw [names]
  apply Transfers.bind (.refl (Columns.ofNames (problem.objective.form.map Monomial.name)))
  intro _ columns same
  subst same
  apply Transfers.bind (.of_eq_map (mapM_of_map (Comparison.restriction_map embedding) _))
  intro rows _ mapped
  subst mapped
  apply Transfers.bind (boundsByName_transfers embedding columns problem.bounds)
  intro bounds images kept
  exact .of_ok ⟨rfl, rfl, kept⟩

theorem columnInterval_transfers (name : String) (restriction : Restriction F) :
    Transfers CompileFailure.IsOverflow (fun interval image => image = interval.map f)
      (columnInterval name restriction) (columnInterval name (restriction.map f)) := by
  obtain ⟨form, interval⟩ := restriction
  match form with
  | [] => exact .of_error _
  | [term] =>
    simp only [columnInterval, Restriction.map, List.map_cons, List.map_nil, Monomial.map,
      embedding.one, embedding.eq, embedding.isZero, embedding.zero, embedding.lt]
    split
    · exact .of_ok rfl
    · split
      · exact .of_error _
      · cases divided : interval.divide term.coefficient with
        | error cause => exact .inl ⟨cause, rfl⟩
        | ok scaled =>
          rw [Interval.divide_map embedding divided]
          refine .of_ok ?_
          split <;> rfl
  | first :: second :: rest =>
    have length : ((⟨first :: second :: rest, interval⟩ : Restriction F).map f).form.length =
        (first :: second :: rest).length := List.length_map _
    simp only [columnInterval, ← length]
    exact .of_error _

theorem boundedInterval_transfers (name : String) (bound : Option (Restriction F)) :
    Transfers CompileFailure.IsOverflow (fun interval image => image = interval.map f)
      (boundedInterval name bound) (boundedInterval name (bound.map (Restriction.map f))) := by
  cases bound with
  | none => exact .of_ok rfl
  | some restriction => exact columnInterval_transfers embedding name restriction

/-- Unless a number has no room, a problem and its image are compiled alike. -/
theorem Problem.compile_transfers (stem : String) (problem : Problem F) :
    Transfers CompileFailure.IsOverflow (fun model image => image = model.map f)
      (problem.compile stem).outcome ((problem.map f).compile stem).outcome := by
  rw [outcome_compile, outcome_compile]
  apply Transfers.bind ((problem.outline_transfers embedding).mapError fun _ => False.elim)
  intro outline image same
  obtain ⟨sameColumns, sameRows, sameBounds⟩ := same
  rw [sameColumns, sameRows, outcome_matrixEntries_map]
  apply Transfers.bind (Transfers.mapError (.of_eq_map rfl) fun _ => False.elim)
  intro entries _ mapped
  subst mapped
  have column (name : String) : Transfers CompileFailure.IsOverflow
      (fun band image => image = band.map f)
      ((boundedInterval name outline.bounds[name]?).map fun interval => interval.band name)
      ((boundedInterval name image.bounds[name]?).map fun interval => interval.band name) := by
    rw [sameBounds]
    apply Transfers.map (boundedInterval_transfers embedding name _)
    intro interval _ mapped
    rw [mapped, interval.band_map embedding]
  apply Transfers.bind (Transfers.mapM column outline.columns.names.toList)
  intro bands _ mapped
  subst mapped
  refine .of_ok ?_
  have costs : (problem.map f).objective.form.map Monomial.coefficient =
      (problem.objective.form.map Monomial.coefficient).map f := by
    rw [map, Expression.form_map embedding, List.map_map, List.map_map]
    rfl
  rw [costs, NameSource.nameRows_map embedding, List.zipWith_map_right, Model.map,
    List.map_zipWith]
  simp only [Restriction.map, Interval.band_map embedding, map]

end LinearProgram
