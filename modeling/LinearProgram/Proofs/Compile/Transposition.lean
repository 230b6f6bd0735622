import LinearProgram.Model.Basic
import LinearProgram.Proofs.Compile.Representation
import LinearProgram.Proofs.Guarded.Pipeline
import LinearProgram.Proofs.Model.ColumnMajor

namespace LinearProgram

section Sorting

variable {α : Type} (key : α → Nat) (xs : List α)

def sortOn : List α :=
  xs.mergeSort fun x y => key x ≤ key y

theorem sortOn_perm : (sortOn key xs).Perm xs :=
  List.mergeSort_perm xs _

theorem pairwise_sortOn : (sortOn key xs).Pairwise fun x y => key x ≤ key y := by
  have sorted : (sortOn key xs).Pairwise fun x y => decide (key x ≤ key y) :=
    List.pairwise_mergeSort (by intro a b c; simpa using Nat.le_trans)
      (by intro a b; simpa using Nat.le_total _ _) xs
  exact sorted.imp of_decide_eq_true

theorem filter_sortOn (k : Nat) :
    ((sortOn key xs).filter fun x => key x = k) = xs.filter fun x => key x = k := by
  have ordered : (xs.filter fun x => key x = k).Pairwise fun x y => decide (key x ≤ key y) := by
    apply List.pairwise_of_forall_mem_list
    intro x first y second
    have left := of_decide_eq_true (List.mem_filter.mp first).2
    have right := of_decide_eq_true (List.mem_filter.mp second).2
    exact decide_eq_true (left.trans right.symm).le
  have kept : (xs.filter fun x => key x = k).Sublist (sortOn key xs) :=
    List.sublist_mergeSort (by intro a b c; simpa using Nat.le_trans)
      (by intro a b; simpa using Nat.le_total _ _) ordered List.filter_sublist
  have inside := kept.filter fun x => key x = k
  rw [List.filter_filter] at inside
  simp only [Bool.and_self] at inside
  exact (inside.eq_of_length ((sortOn_perm key xs).filter _).length_eq.symm).symm

end Sorting

variable {F : Type}

namespace Model

def entriesByColumn (model : Model F) : List (Entry F) :=
  (model.byColumn.zipIdx 1).flatMap fun column =>
    column.1.map fun pair => ⟨pair.1, column.2, pair.2⟩

variable {model : Model F}

theorem getElem?_byColumn (fit : model.IndicesFit) {place : Nat}
    (inside : place < model.columns.length) :
    model.byColumn[place]? = some ((model.entries.filter fun entry =>
      entry.column = place + 1).map fun entry => (entry.row, entry.coefficient)) := by
  have same : model.columnEntries place =
      model.entries.filter fun entry => entry.column = place + 1 := by
    apply List.filter_congr
    intro entry member
    have positive := (fit entry member).2.1
    simp only [decide_eq_decide]
    omega
  rw [byColumn_eq, List.getElem?_map, List.getElem?_range inside, Option.map_some, same]

theorem entriesByColumn_eq (fit : model.IndicesFit) :
    model.entriesByColumn = (List.range model.columns.length).flatMap model.columnEntries := by
  have numbers : (List.range model.columns.length).zipIdx 1 =
      (List.range model.columns.length).map fun place => (place, 1 + place) := by
    apply List.ext_getElem
    · simp
    · intro place first second
      simp
  rw [entriesByColumn, byColumn_eq, List.zipIdx_map, numbers, List.map_map, List.flatMap_map]
  apply List.flatMap_congr
  intro place _
  have own (entry : Entry F) (member : entry ∈ model.columnEntries place) :
      (⟨entry.row, 1 + place, entry.coefficient⟩ : Entry F) = entry := by
    obtain ⟨inside, column⟩ := List.mem_filter.mp member
    have positive := (fit entry inside).2.1
    have number : 1 + place = entry.column := by
      rw [← of_decide_eq_true column]
      omega
    rw [number]
  rw [Function.comp_apply, Prod.map_fst, Prod.map_snd, List.map_map]
  exact (List.map_congr_left own).trans (List.map_id _)

theorem entriesByColumn_perm (fit : model.IndicesFit) :
    model.entriesByColumn.Perm model.entries := by
  rw [entriesByColumn_eq fit]
  apply flatMap_filter_perm (fun entry : Entry F => entry.column - 1) List.nodup_range
  intro entry member
  have placed := (fit entry member).2
  rw [List.mem_range]
  omega

theorem pairwise_of_mem_byColumn
    (sorted : model.entries.Pairwise fun earlier later => earlier.row ≤ later.row) :
    ∀ column ∈ model.byColumn, column.Pairwise fun earlier later => earlier.1 ≤ later.1 := by
  intro column member
  rw [byColumn_eq] at member
  obtain ⟨place, _, rfl⟩ := List.mem_map.mp member
  exact List.pairwise_map.mpr (sorted.filter _)

end Model

section Compiled

variable [Scalar F] {problem : Problem F} {model : Model F}

/-- The terms of a constraint that are on the variable of a column are that column's pairs in the
row of the constraint. -/
theorem Problem.CompilesTo.coefficients_eq (made : problem.CompilesTo model)
    {number place : Nat} {constraint : Comparison F} {band : Band F}
    (written : problem.constraints[number]? = some constraint)
    (found : model.columns[place]? = some band) :
    (model.entries.filter fun entry => entry.row = number + 1 ∧ entry.column = place + 1).map
        Entry.coefficient =
      (constraint.expression.form.filter fun term => term.name = band.name).map
        Monomial.coefficient := by
  have form : (problem.constraints.map fun constraint => constraint.expression.form)[number]? =
      some constraint.expression.form := by
    rw [List.getElem?_map, written]
    rfl
  have name : problem.objective.names[place]? = some band.name := by
    rw [← made.columns, List.getElem?_map, found]
    rfl
  obtain ⟨inside, here⟩ := List.getElem?_eq_some_iff.mp name
  have column (term : Monomial F) (member : term ∈ constraint.expression.form) :
      problem.objective.names.idxOf term.name = place ↔ term.name = band.name := by
    have known := made.known constraint (List.mem_of_getElem? written) term member
    rw [← here]
    constructor
    · rintro rfl
      exact (List.getElem_idxOf _).symm
    · intro same
      rw [same, made.distinct.idxOf_getElem]
  have row : (model.entries.filter fun entry => entry.row = number + 1 ∧ entry.column = place + 1) =
      (formEntries problem.objective.names (number + 1) constraint.expression.form).filter
        fun entry => entry.column = place + 1 := by
    rw [← filter_formsEntries form, ← made.entries, List.filter_filter]
    apply List.filter_congr
    intro entry _
    rw [Bool.decide_and, Bool.and_comm]
  rw [row, formEntries, List.filter_map, List.map_map]
  congr 1
  apply List.filter_congr
  intro term member
  simp only [Function.comp_apply, Nat.add_right_cancel_iff, column term member]

structure Problem.TransposedBy (problem : Problem F) (model : Model F) : Prop where
  length : model.byColumn.length = model.columns.length
  column : ∀ place < model.columns.length,
    model.byColumn[place]? = some ((model.entries.filter fun entry =>
      entry.column = place + 1).map fun entry => (entry.row, entry.coefficient))
  ascending : ∀ column ∈ model.byColumn, column.Pairwise fun earlier later => earlier.1 ≤ later.1
  written : ∀ (number place : Nat) (constraint : Comparison F) (band : Band F)
    (column : List (Nat × F)), problem.constraints[number]? = some constraint →
      model.columns[place]? = some band → model.byColumn[place]? = some column →
        (column.filter fun pair => pair.1 = number + 1).map Prod.snd =
          (constraint.expression.form.filter fun term => term.name = band.name).map
            Monomial.coefficient
  complete : model.entriesByColumn.Perm model.entries
  regrouped : (sortOn Entry.row model.entriesByColumn).Pairwise fun earlier later =>
    earlier.row ≤ later.row
  stable : ∀ row, ((sortOn Entry.row model.entriesByColumn).filter fun entry => entry.row = row) =
    model.entriesByColumn.filter fun entry => entry.row = row
  rows : ∀ row, ((sortOn Entry.row model.entriesByColumn).filter fun entry => entry.row = row).Perm
    (model.entries.filter fun entry => entry.row = row)

/-- Each column of a compiled model lists its entries by rows, those of one row as they are written,
and sorting all of them by rows gives back the entries of each row. -/
theorem Problem.compile_transposes {stem : String}
    (compiled : (problem.compile stem).outcome = .ok model) : problem.TransposedBy model := by
  have made := compilesTo_of_ok compiled
  have fit := made.indicesFit
  exact {
    length := by rw [Model.byColumn_eq, List.length_map, List.length_range]
    column := fun place inside => Model.getElem?_byColumn fit inside
    ascending := Model.pairwise_of_mem_byColumn (made.entries ▸ pairwise_formsEntries _ _)
    written := by
      intro number place constraint band column given found listed
      obtain ⟨inside, _⟩ := List.getElem?_eq_some_iff.mp found
      rw [Model.getElem?_byColumn fit inside] at listed
      cases listed
      rw [← made.coefficients_eq given found, List.filter_map, List.map_map, List.filter_filter]
      exact congrArg (List.map Entry.coefficient)
        (List.filter_congr fun entry _ => (Bool.decide_and _ _).symm)
    complete := Model.entriesByColumn_perm fit
    regrouped := pairwise_sortOn _ _
    stable := filter_sortOn _ _
    rows := by
      intro row
      rw [filter_sortOn]
      exact (Model.entriesByColumn_perm fit).filter _ }

end Compiled

def Problem.woven : Problem Rat where
  sense := .maximize
  objective := .sum [.bare "x", .bare "y", .bare "z"]
  constraints := [.simple .lessEqual (.sum [.bare "y", .bare "x", .scaled 2 "y"]) 4,
    .simple .greaterEqual (.sum []) 0,
    .simple .equal (.sum [.scaled 3 "x", .scaled (-1) "z", .scaled 5 "y"]) 1]
  bounds := []

def Model.woven : Model Rat where
  rows := [⟨"R1", .upper, 0, 4⟩, ⟨"R2", .lower, 0, 0⟩, ⟨"R3", .fixed, 1, 1⟩]
  columns := [⟨"x", .free, 0, 0⟩, ⟨"y", .free, 0, 0⟩, ⟨"z", .free, 0, 0⟩]
  entries := [⟨1, 2, 1⟩, ⟨1, 1, 1⟩, ⟨1, 2, 2⟩, ⟨3, 1, 3⟩, ⟨3, 3, -1⟩, ⟨3, 2, 5⟩]
  objective := [1, 1, 1]
  sense := .maximize

theorem Problem.woven_transposed :
    (woven.compile "R").outcome = .ok Model.woven ∧ woven.TransposedBy Model.woven ∧
      Model.woven.byColumn = [[(1, 1), (3, 3)], [(1, 1), (1, 2), (3, 5)], [(3, -1)]] ∧
      [(⟨1, 1, 1⟩ : Entry Rat), ⟨1, 2, 1⟩, ⟨1, 2, 2⟩].Perm [⟨1, 2, 1⟩, ⟨1, 1, 1⟩, ⟨1, 2, 2⟩] := by
  have compiled : (woven.compile "R").outcome = .ok Model.woven := by decide +kernel
  have transposed := compile_transposes compiled
  have columns : Model.woven.byColumn =
      [[(1, 1), (3, 3)], [(1, 1), (1, 2), (3, 5)], [(3, -1)]] := by decide +kernel
  refine ⟨compiled, transposed, columns, ?_⟩
  have first := transposed.rows 1
  rw [transposed.stable 1] at first
  have listed : (Model.woven.entriesByColumn.filter fun entry => entry.row = 1) =
      [⟨1, 1, 1⟩, ⟨1, 2, 1⟩, ⟨1, 2, 2⟩] := by decide +kernel
  have written : (Model.woven.entries.filter fun entry => entry.row = 1) =
      [⟨1, 2, 1⟩, ⟨1, 1, 1⟩, ⟨1, 2, 2⟩] := by decide +kernel
  rwa [listed, written] at first

end LinearProgram
