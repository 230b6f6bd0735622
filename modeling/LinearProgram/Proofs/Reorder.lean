import Mathlib.Data.List.Nodup
import Mathlib.Data.List.Perm.Basic

namespace LinearProgram

variable {α β : Type}

def reorder (places : List Nat) (xs : List α) : List α :=
  places.filterMap fun place => xs[place]?

theorem reorder_cons {place : Nat} {xs : List α} {x : α} (found : xs[place]? = some x)
    (places : List Nat) : reorder (place :: places) xs = x :: reorder places xs :=
  List.filterMap_cons_some found

theorem reorder_map (f : α → β) (places : List Nat) (xs : List α) :
    reorder places (xs.map f) = (reorder places xs).map f := by
  unfold reorder
  rw [List.map_filterMap]
  congr 1
  funext place
  exact List.getElem?_map

theorem reorder_range (xs : List α) : reorder (List.range xs.length) xs = xs := by
  induction xs with
  | nil => rfl
  | cons x xs ih =>
    rw [List.length_cons, List.range_succ_eq_map, reorder_cons rfl]
    unfold reorder at ih ⊢
    rw [List.filterMap_map]
    exact congrArg _ ih

/-- The permutations of a list are the lists of its elements at permuted places. -/
theorem perm_iff_exists_reorder {xs ys : List α} :
    ys.Perm xs ↔
      ∃ places : List Nat, places.Perm (List.range xs.length) ∧ reorder places xs = ys := by
  constructor
  · intro permuted
    have placed : List.Forall₂ (fun x place => xs[place]? = some x) xs (List.range xs.length) := by
      rw [List.forall₂_iff_get]
      simp
    obtain ⟨places, found, places_permuted⟩ := List.perm_comp_forall₂ permuted placed
    refine ⟨places, places_permuted, ?_⟩
    clear placed permuted places_permuted
    induction found with
    | nil => rfl
    | cons first _ ih => rw [reorder_cons first, ih]
  · intro given
    obtain ⟨places, permuted, rfl⟩ := given
    have reordered := permuted.filterMap fun place => xs[place]?
    rwa [← reorder, ← reorder, reorder_range] at reordered

theorem forall₂_reorder {related : α → β → Prop} {xs : List α} {ys : List β}
    (all : List.Forall₂ related xs ys) (places : List Nat) :
    List.Forall₂ related (reorder places xs) (reorder places ys) := by
  obtain ⟨lengths, pairs⟩ := List.forall₂_iff_get.mp all
  induction places with
  | nil => exact .nil
  | cons place places ih =>
    by_cases inside : place < xs.length
    · have left := List.getElem?_eq_getElem inside
      have right := List.getElem?_eq_getElem (lengths ▸ inside)
      rw [reorder_cons left, reorder_cons right]
      exact .cons (pairs place inside _) ih
    · have left : xs[place]? = none := List.getElem?_eq_none (by omega)
      have right : ys[place]? = none := List.getElem?_eq_none (by omega)
      unfold reorder at ih ⊢
      rwa [List.filterMap_cons_none left, List.filterMap_cons_none right]

/-- An element of a list without repetitions goes to where its place stands. -/
theorem idxOf_reorder [DecidableEq α] {places : List Nat} {xs : List α} {x : α}
    (distinct : xs.Nodup) (inside : ∀ place ∈ places, place < xs.length) :
    (reorder places xs).idxOf x = places.idxOf (xs.idxOf x) := by
  induction places with
  | nil => rfl
  | cons place places ih =>
    obtain ⟨first, rest⟩ := List.forall_mem_cons.mp inside
    rw [reorder_cons (List.getElem?_eq_getElem first), List.idxOf_cons, List.idxOf_cons, ih rest]
    have same : xs[place] = x ↔ place = xs.idxOf x := by
      constructor
      · intro found
        rw [← found, distinct.idxOf_getElem]
      · intro found
        subst found
        exact List.getElem_idxOf first
    by_cases found : place = xs.idxOf x
    · simp [found]
    · have other : xs[place] ≠ x := fun equal => found (same.mp equal)
      rw [beq_false_of_ne other, beq_false_of_ne found]

end LinearProgram
