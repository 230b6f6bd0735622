import LinearProgram.Proofs.Compile.Contents
import LinearProgram.Proofs.Compile.Reordering
import LinearProgram.Proofs.Problem.Rename
import LinearProgram.Proofs.Transfer
import Mathlib.Logic.Equiv.Basic

namespace LinearProgram

variable {F : Type}

section Definitions

variable (naming : String → String)

def Monomial.rename (monomial : Monomial F) : Monomial F :=
  { monomial with name := naming monomial.name }

def Restriction.rename (restriction : Restriction F) : Restriction F :=
  { restriction with form := restriction.form.map (Monomial.rename naming) }

end Definitions

namespace NameSource

theorem le_nextFree (stem : String) (taken : Columns) (tries number : Nat) :
    number ≤ nextFree stem taken tries number := by
  induction tries generalizing number with
  | zero => exact Nat.le_refl number
  | succ tries ih =>
    rw [nextFree]
    split
    · exact Nat.le_of_succ_le (ih (number + 1))
    · exact Nat.le_refl number

/-- A counter gives names with ever larger numbers. -/
theorem drawMany_numbered (stem : String) (taken : Columns) (count last : Nat) :
    ∃ numbers : List Nat, numbers.length = count ∧ (last :: numbers).Pairwise (· < ·) ∧
      drawMany count (.numbered stem taken last) = numbers.map (numberedName stem) := by
  induction count generalizing last with
  | zero => exact ⟨[], rfl, List.pairwise_singleton _ _, rfl⟩
  | succ count ih =>
    let next := nextFree stem taken taken.size (last + 1)
    have later : last < next := le_nextFree stem taken taken.size (last + 1)
    obtain ⟨numbers, length, increasing, drawn⟩ := ih next
    refine ⟨next :: numbers, congrArg (· + 1) length, ?_, congrArg (_ :: ·) drawn⟩
    refine List.pairwise_cons.mpr ⟨?_, increasing⟩
    intro number member
    rcases List.mem_cons.mp member with rfl | member
    · exact later
    · exact later.trans (List.rel_of_pairwise_cons increasing member)

def Numbers (stem : String) (own : List (Option String)) (names : List String) : Prop :=
  ∃ numbers : List Nat, numbers.length = own.count none ∧ (0 :: numbers).Pairwise (· < ·) ∧
    names = fillNames own (numbers.map (numberedName stem))

theorem numbers_nameRows [Scalar F] (stem : String) (taken : Columns)
    (rows : List (Restriction F)) :
    Numbers stem (rows.map Restriction.bareName?) ((numbered stem taken 0).nameRows rows) := by
  obtain ⟨numbers, length, increasing, drawn⟩ :=
    drawMany_numbered stem taken ((rows.map Restriction.bareName?).count none) 0
  refine ⟨numbers, length, increasing, ?_⟩
  rw [nameRows_eq_fillNames, drawn]

end NameSource

variable {naming : String → String}

def Columns.RenamedTo (naming : String → String) (columns images : Columns) : Prop :=
  images.names.toList = columns.names.toList.map naming

def BoundsRenamed (naming : String → String) (bounds images : Std.TreeMap String (Restriction F)) :
    Prop :=
  ∀ name, images[naming name]? = (bounds[name]?).map (Restriction.rename naming)

section Names

variable (injective : Function.Injective naming) {columns images : Columns}

include injective

theorem Columns.RenamedTo.lookup (same : columns.RenamedTo naming images) (name : String) :
    images.places[naming name]? = columns.places[name]? := by
  apply Option.ext
  intro place
  rw [place_iff, place_iff, ← Array.getElem?_toList, ← Array.getElem?_toList, same,
    List.getElem?_map]
  exact (Option.map_injective injective).eq_iff (b := some name)

theorem Columns.RenamedTo.place (same : columns.RenamedTo naming images) (name : String) :
    images.place (naming name) = (columns.place name).mapError (CompileError.rename naming) := by
  rw [Columns.place, Columns.place, same.lookup injective]
  cases columns.places[name]? <;> rfl

theorem Columns.RenamedTo.add (same : columns.RenamedTo naming images) (name : String) :
    Transfers (fun _ => False) (RenamedTo naming)
      ((columns.add name).mapError (CompileError.rename naming)) (images.add (naming name)) := by
  have contains : images.contains (naming name) = columns.contains name := by
    rw [Columns.contains, Columns.contains, same.lookup injective]
  unfold Columns.add
  by_cases taken : columns.contains name
  · rw [dif_pos taken, dif_pos (contains ▸ taken)]
    exact .of_error _
  · rw [dif_neg taken, dif_neg (contains ▸ taken)]
    refine .of_ok ?_
    simp only [RenamedTo, Array.toList_push, List.map_append, List.map_singleton]
    rw [same]

theorem Columns.ofNames_renamed (names : List String) :
    Transfers (fun _ => False) (Columns.RenamedTo naming)
      ((Columns.ofNames names).mapError (CompileError.rename naming))
      (Columns.ofNames (names.map naming)) := by
  rw [Columns.ofNames, Columns.ofNames, mapError_of_foldlM, List.foldlM_map]
  apply Transfers.foldlM
  · intro columns images name same
    exact same.add injective name
  · rfl

end Names

section Rows

theorem rowEntries_rename (injective : Function.Injective naming) {columns images : Columns}
    (same : columns.RenamedTo naming images) (number : Nat) (row : Restriction F) :
    rowEntries images number (row.rename naming) =
      (rowEntries columns number row).mapError (CompileError.rename naming) := by
  unfold rowEntries
  rw [mapError_of_mapM, Restriction.rename, List.mapM_map]
  congr 1
  funext term
  simp only [Function.comp_apply, Monomial.rename, same.place injective, mapError_of_map]

theorem outcome_matrixEntries_rename (injective : Function.Injective naming)
    {columns images : Columns} (same : columns.RenamedTo naming images) (number : Nat)
    (rows : List (Restriction F)) :
    (matrixEntries images number (rows.map (Restriction.rename naming))).outcome =
      (matrixEntries columns number rows).outcome.mapError (CompileError.rename naming) := by
  rw [outcome_matrixEntries, outcome_matrixEntries, List.zipIdx_map, List.mapM_map,
    mapError_of_map, mapError_of_mapM]
  congr 2
  funext row
  exact rowEntries_rename injective same row.2 row.1

end Rows

variable [Scalar F]

theorem Expression.form_rename (expression : Expression F) :
    (expression.rename naming).form = expression.form.map (Monomial.rename naming) := by
  rw [form, form, terms_rename, List.map_map, List.map_map]
  congr 1
  funext term
  cases term <;> rfl

theorem Comparison.restriction_rename (comparison : Comparison F) :
    (comparison.rename naming).restriction =
      (comparison.restriction.mapError (CompileError.rename naming)).map
        (Restriction.rename naming) := by
  have unnamed : comparison.interval.mapError (CompileError.rename naming) =
      comparison.interval := by
    cases comparison with
    | simple comparator _ _ | chained comparator _ _ _ => cases comparator <;> rfl
  unfold restriction
  rw [interval_rename, expression_rename, Expression.form_rename, mapError_of_map, unnamed]
  cases comparison.interval <;> rfl

theorem Restriction.bareName?_rename (restriction : Restriction F) :
    (restriction.rename naming).bareName? = restriction.bareName?.map naming := by
  obtain ⟨form, interval⟩ := restriction
  match form with
  | [] => rfl
  | [term] =>
    simp only [bareName?, rename, List.map_cons, List.map_nil, Monomial.rename]
    split <;> rfl
  | _ :: _ :: _ => rfl

theorem columnInterval_rename (name : String) (restriction : Restriction F) :
    columnInterval (naming name) (restriction.rename naming) =
      (columnInterval name restriction).mapError (CompileFailure.rename naming) := by
  obtain ⟨form, interval⟩ := restriction
  match form with
  | [] => rfl
  | [term] =>
    simp only [columnInterval, Restriction.rename, List.map_cons, List.map_nil, Monomial.rename]
    split
    · rfl
    · split
      · rfl
      · cases interval.divide term.coefficient <;> rfl
  | _ :: _ :: _ => simp [columnInterval, Restriction.rename, Except.mapError,
      CompileFailure.rename, CompileError.rename]

theorem boundedInterval_rename (name : String) (bound : Option (Restriction F)) :
    boundedInterval (naming name) (bound.map (Restriction.rename naming)) =
      (boundedInterval name bound).mapError (CompileFailure.rename naming) := by
  cases bound with
  | none => rfl
  | some restriction => exact columnInterval_rename name restriction

section Bounds

variable (injective : Function.Injective naming)

include injective

omit [Scalar F] in
theorem BoundsRenamed.insert {bounds images : Std.TreeMap String (Restriction F)}
    (same : BoundsRenamed naming bounds images) (name : String) (restriction : Restriction F) :
    BoundsRenamed naming (bounds.insert name restriction)
      (images.insert (naming name) (restriction.rename naming)) := by
  intro other
  simp only [Std.TreeMap.getElem?_insert, Std.LawfulEqCmp.compare_eq_iff_eq, injective.eq_iff]
  split
  · rfl
  · exact same other

theorem addBound_renamed {columns columnImages : Columns}
    (sameColumns : columns.RenamedTo naming columnImages)
    {bounds images : Std.TreeMap String (Restriction F)}
    (same : BoundsRenamed naming bounds images) (bound : Comparison F) :
    Transfers (fun _ => False) (BoundsRenamed naming)
      ((addBound columns bounds bound).mapError (CompileError.rename naming))
      (addBound columnImages images (bound.rename naming)) := by
  unfold addBound
  rw [mapError_of_bind]
  apply Transfers.bind (.of_eq_map bound.restriction_rename)
  intro restriction _ renamed
  subst renamed
  obtain ⟨form, interval⟩ := restriction
  match form with
  | [] => exact .of_error _
  | [term] =>
    have contains : images.contains (naming term.name) = bounds.contains term.name := by
      rw [Std.TreeMap.contains_eq_isSome_getElem?, Std.TreeMap.contains_eq_isSome_getElem?, same,
        Option.isSome_map]
    simp only [Restriction.rename, List.map_cons, List.map_nil, Monomial.rename, contains,
      sameColumns.place injective, mapError_of_bind]
    apply Transfers.bind (.refl _)
    intro place _ _
    split
    · exact .of_error _
    · exact .of_ok (same.insert injective term.name ⟨[term], interval⟩)
  | first :: second :: rest =>
    have length : ((⟨first :: second :: rest, interval⟩ : Restriction F).rename
        naming).form.length = (first :: second :: rest).length := List.length_map _
    simp only [← length]
    exact .of_error _

theorem boundsByName_renamed {columns images : Columns} (same : columns.RenamedTo naming images)
    (bounds : List (Comparison F)) :
    Transfers (fun _ => False) (BoundsRenamed naming)
      ((boundsByName columns bounds).mapError (CompileError.rename naming))
      (boundsByName images (bounds.map (Comparison.rename naming))) := by
  unfold boundsByName
  rw [mapError_of_foldlM, List.foldlM_map]
  apply Transfers.foldlM
  · intro state state' bound kept
    exact addBound_renamed injective same kept bound
  · intro name
    simp

structure Outline.RenamedTo (naming : String → String) (outline image : Outline F) : Prop where
  columns : outline.columns.RenamedTo naming image.columns
  rows : image.rows = outline.rows.map (Restriction.rename naming)
  bounds : BoundsRenamed naming outline.bounds image.bounds

theorem Problem.outline_renamed (problem : Problem F) :
    Transfers (fun _ => False) (Outline.RenamedTo naming)
      (problem.outline.mapError (CompileError.rename naming)) (problem.rename naming).outline := by
  unfold outline
  have names : (problem.rename naming).objective.form.map Monomial.name =
      (problem.objective.form.map Monomial.name).map naming := by
    rw [Expression.map_name_form, Expression.map_name_form]
    exact Expression.names_rename _
  rw [names, mapError_of_bind]
  apply Transfers.bind (Columns.ofNames_renamed injective _)
  intro columns images same
  rw [mapError_of_bind, mapError_of_mapM]
  apply Transfers.bind (.of_eq_map (mapM_of_map Comparison.restriction_rename problem.constraints))
  intro rows _ renamed
  subst renamed
  rw [mapError_of_bind]
  apply Transfers.bind (boundsByName_renamed injective same problem.bounds)
  intro bounds boundImages kept
  exact .of_ok ⟨same, rfl, kept⟩

end Bounds

namespace Problem

variable (naming) in
/-- What a model of a problem and one of the problem under a renaming have in common: all but the
names of columns, which are renamed, and those of rows, which are renamed or numbered. -/
def ModelsRenamed (stem other : String) (problem : Problem F) (model image : Model F) : Prop :=
  NameSource.Numbers stem problem.rowNames (model.rows.map Band.name) ∧
    ∃ names, NameSource.Numbers other (problem.rowNames.map (Option.map naming)) names ∧
      image = { model with
        rows := names.zipWith (fun name row => { row with name := name }) model.rows
        columns := model.columns.map (Band.rename naming) }

theorem modelsRenamed_of_restrictions {problem : Problem F} {rows : List (Restriction F)}
    (resolved : problem.constraints.mapM Comparison.restriction = .ok rows)
    (columns images : Columns) (stem other : String) (bands : List (Band F))
    (entries : List (Entry F)) (objective : List F) (sense : Sense) :
    problem.ModelsRenamed naming stem other
      ⟨((NameSource.numbered stem columns 0).nameRows rows).zipWith
        (fun name row => row.interval.band name) rows, bands, entries, objective, sense⟩
      ⟨((NameSource.numbered other images 0).nameRows
        (rows.map (Restriction.rename naming))).zipWith
          (fun name row => row.interval.band name) (rows.map (Restriction.rename naming)),
        bands.map (Band.rename naming), entries, objective, sense⟩ := by
  have own : rows.map Restriction.bareName? = problem.rowNames :=
    map_bareName? (mapM_eq_ok.mp resolved)
  have lengths := NameSource.length_nameRows (.numbered stem columns 0) rows
  have numbers := NameSource.numbers_nameRows stem columns rows
  have imageNumbers := NameSource.numbers_nameRows other images
    (rows.map (Restriction.rename naming))
  have imageOwn : (rows.map (Restriction.rename naming)).map Restriction.bareName? =
      problem.rowNames.map (Option.map naming) := by
    rw [← own, List.map_map, List.map_map]
    congr 1
    funext row
    exact row.bareName?_rename
  rw [own] at numbers
  rw [imageOwn] at imageNumbers
  refine ⟨?_, _, imageNumbers, ?_⟩
  · rw [map_name_bands lengths]
    exact numbers
  · rw [List.zipWith_map_right]
    have renamed := bands_renamed (forall₂_bands lengths)
      ((NameSource.numbered other images 0).nameRows (rows.map (Restriction.rename naming)))
    exact congrArg (fun rows => Model.mk rows _ _ _ _) renamed

theorem compile_transfers_renamed (injective : Function.Injective naming) (stem other : String)
    (problem : Problem F) :
    Transfers (fun _ => False) (problem.ModelsRenamed naming stem other)
      ((problem.compile stem).outcome.mapError (CompileFailure.rename naming))
      ((problem.rename naming).compile other).outcome := by
  have outlines : Transfers (fun _ => False)
      (fun outline image => problem.outline = .ok outline ∧ outline.RenamedTo naming image)
      ((problem.outline.mapError CompileFailure.rejected).mapError (CompileFailure.rename naming))
      ((problem.rename naming).outline.mapError CompileFailure.rejected) := by
    have remembered := (problem.outline_renamed injective).remember
    simp only [mapError_eq_ok] at remembered
    have rejected : (problem.outline.mapError CompileFailure.rejected).mapError
        (CompileFailure.rename naming) =
          (problem.outline.mapError (CompileError.rename naming)).mapError
            CompileFailure.rejected := by
      rw [mapError_mapError, mapError_mapError]
      rfl
    rw [rejected]
    exact remembered.mapError fun _ => False.elim
  rw [outcome_compile, outcome_compile, mapError_of_bind]
  apply outlines.bind
  rintro outline image ⟨outlined, sameColumns, sameRows, sameBounds⟩
  obtain ⟨_, resolved, _⟩ := outline_eq_ok.mp outlined
  have entries : ((matrixEntries image.columns 1 image.rows).outcome).mapError
      CompileFailure.rejected =
        (((matrixEntries outline.columns 1 outline.rows).outcome).mapError
          CompileFailure.rejected).mapError (CompileFailure.rename naming) := by
    rw [sameRows, outcome_matrixEntries_rename injective sameColumns, mapError_mapError,
      mapError_mapError]
    rfl
  have column (name : String) :
      ((boundedInterval (naming name) image.bounds[naming name]?).map
        fun interval => interval.band (naming name)) =
      (((boundedInterval name outline.bounds[name]?).map
        fun interval => interval.band name).mapError (CompileFailure.rename naming)).map
          (Band.rename naming) := by
    rw [sameBounds, boundedInterval_rename, mapError_of_map]
    cases boundedInterval name outline.bounds[name]? <;> rfl
  have columns : ((outline.columns.names.toList.map naming).mapM fun name =>
      (boundedInterval name image.bounds[name]?).map fun interval => interval.band name) = _ :=
    mapM_of_map column outline.columns.names.toList
  have costs : (problem.rename naming).objective.form.map Monomial.coefficient =
      problem.objective.form.map Monomial.coefficient := by
    rw [rename, Expression.form_rename, List.map_map]
    rfl
  rw [mapError_of_bind, entries]
  apply Transfers.bind (.refl _)
  intro placed _ same
  subst same
  rw [mapError_of_bind, mapError_of_mapM, sameColumns, columns]
  apply Transfers.bind (.of_eq_map rfl)
  intro bands _ renamed
  subst renamed
  rw [costs, sameRows]
  exact .of_ok (modelsRenamed_of_restrictions resolved _ _ _ _ _ _ _ _)

/-- The names of variables and rows never influence anything but names: under any renaming that
keeps variables apart, and with any stem, a problem is rejected with the same error, or has the same
model with its names exchanged. -/
theorem compile_renamed (injective : Function.Injective naming) (stem other : String)
    (problem : Problem F) :
    (∀ failure, (problem.compile stem).outcome = .error failure →
      ((problem.rename naming).compile other).outcome = .error (failure.rename naming)) ∧
    ∀ model, (problem.compile stem).outcome = .ok model →
      NameSource.Numbers stem problem.rowNames (model.rows.map Band.name) ∧
        ∃ names, NameSource.Numbers other (problem.rowNames.map (Option.map naming)) names ∧
          ((problem.rename naming).compile other).outcome = .ok { model with
            rows := names.zipWith (fun name row => { row with name := name }) model.rows
            columns := model.columns.map (Band.rename naming) } := by
  have transfers := compile_transfers_renamed injective stem other problem
  constructor
  · intro failure rejected
    rw [rejected] at transfers
    exact transfers.resolve_left id
  · intro model compiled
    rw [compiled] at transfers
    obtain ⟨image, done, numbers, names, imageNumbers, rfl⟩ := transfers
    exact ⟨numbers, names, imageNumbers, done⟩

def clashing : Problem Rat where
  sense := .minimize
  objective := .sum [.bare "x", .scaled 3 "y"]
  constraints := [.simple .lessEqual (.sum [.bare "x", .bare "y"]) 4,
    .simple .equal (.single (.bare "y")) 2]
  bounds := [.simple .lessEqual (.single (.scaled (-2) "y")) 6]

end Problem

def Model.clashing : Model Rat where
  rows := [⟨"R1", .upper, 0, 4⟩, ⟨"y", .fixed, 2, 2⟩]
  columns := [⟨"x", .free, 0, 0⟩, ⟨"y", .lower, -3, 0⟩]
  entries := [⟨1, 1, 1⟩, ⟨1, 2, 1⟩, ⟨2, 2, 1⟩]
  objective := [1, 3]
  sense := .minimize

namespace Problem

/-- A variable takes the first numbered name, so that the numbered row has another one. -/
theorem clashing_renamed :
    Function.Injective (Equiv.swap "y" "R1") ∧
      (clashing.compile "R").outcome = .ok Model.clashing ∧
      (∃ number, 0 < number ∧
        ((clashing.rename (Equiv.swap "y" "R1")).compile "R").outcome = .ok { Model.clashing with
          rows := [⟨NameSource.numberedName "R" number, .upper, 0, 4⟩, ⟨"R1", .fixed, 2, 2⟩]
          columns := [⟨"x", .free, 0, 0⟩, ⟨"R1", .lower, -3, 0⟩] }) ∧
      ({ clashing with bounds := [.simple .equal (.single (.bare "R1")) 1] }.compile "R").outcome =
        .error (.rejected (.unknownVariable "R1")) ∧
      (({ clashing with bounds := [.simple .equal (.single (.bare "R1")) 1] }.rename
        (Equiv.swap "y" "R1")).compile "R").outcome =
          .error (.rejected (.unknownVariable "y")) := by
  have injective := (Equiv.swap "y" "R1").injective
  have compiled : (clashing.compile "R").outcome = .ok Model.clashing := by decide +kernel
  have rejected : ({ clashing with bounds := [.simple .equal (.single (.bare "R1")) 1] }.compile
      "R").outcome = .error (.rejected (.unknownVariable "R1")) := by decide +kernel
  refine ⟨injective, compiled, ?_, rejected, ?_⟩
  · obtain ⟨_, names, ⟨numbers, count, increasing, same⟩, done⟩ :=
      (compile_renamed injective "R" "R" clashing).2 _ compiled
    have own : clashing.rowNames = [none, some "y"] := by decide +kernel
    rw [own] at count same
    match numbers, count with
    | [number], _ =>
      refine ⟨number, List.rel_of_pairwise_cons increasing (List.mem_singleton_self _), ?_⟩
      have fixed : Equiv.swap "y" "R1" "x" = "x" := by decide +kernel
      simp [done, same, fillNames, Model.clashing, Band.rename, fixed]
  · rw [(compile_renamed injective "R" "R" _).1 _ rejected]
    decide +kernel

end Problem

end LinearProgram
