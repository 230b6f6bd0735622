import LinearProgram.Model.Basic
import Mathlib.Data.List.Perm.Basic
import Mathlib.Data.List.Nodup

namespace LinearProgram.Model

variable {F : Type}

def columnEntries (model : Model F) (place : Nat) : List (Entry F) :=
  model.entries.filter fun entry => entry.column - 1 = place

theorem toList_foldr_addToColumn (entries : List (Entry F)) (columns : Nat) :
    (entries.foldr Entry.addToColumn (Array.replicate columns [])).toList =
      (List.range columns).map fun place =>
        (entries.filter fun entry => entry.column - 1 = place).map fun entry =>
          (entry.row, entry.coefficient) := by
  induction entries with
  | nil => simp [List.map_const']
  | cons entry entries ih =>
    rw [List.foldr_cons, Entry.addToColumn, Array.toList_modify, ih]
    apply List.ext_getElem?
    intro place
    rw [List.getElem?_modify, List.getElem?_map, List.getElem?_map]
    rcases Nat.lt_or_ge place columns with inside | outside
    · rw [List.getElem?_range inside]
      by_cases here : entry.column - 1 = place <;> simp [here]
    · simp [outside]

theorem byColumn_eq (model : Model F) :
    model.byColumn = (List.range model.columns.length).map fun place =>
      (model.columnEntries place).map fun entry => (entry.row, entry.coefficient) :=
  toList_foldr_addToColumn model.entries model.columns.length

/-- Grouping by a key keeps all elements whose key is among those that are grouped by. -/
theorem flatMap_filter_perm {α κ : Type} [DecidableEq κ] (key : α → κ) {keys : List κ} {xs : List α}
    (distinct : keys.Nodup) (known : ∀ x ∈ xs, key x ∈ keys) :
    (keys.flatMap fun k => xs.filter fun x => key x = k).Perm xs := by
  induction keys generalizing xs with
  | nil =>
    have nothing : xs = [] := by
      apply List.eq_nil_iff_forall_not_mem.mpr
      intro x member
      cases known x member
    rw [nothing]
    rfl
  | cons k keys ih =>
    -- The other keys group what is left of the elements once those of the first key are taken out.
    obtain ⟨absent, distinct⟩ := List.nodup_cons.mp distinct
    have others : ∀ k' ∈ keys, (xs.filter fun x => key x = k') =
        (xs.filter fun x => !decide (key x = k)).filter fun x => key x = k' := by
      intro k' member
      have different : k' ≠ k := by
        intro same
        exact absent (same ▸ member)
      rw [List.filter_filter]
      apply List.filter_congr
      intro x _
      by_cases same : key x = k' <;> simp [same, different]
    have remaining : ∀ x ∈ xs.filter fun x => !decide (key x = k), key x ∈ keys := by
      intro x member
      obtain ⟨inside, different⟩ := List.mem_filter.mp member
      exact (List.mem_cons.mp (known x inside)).resolve_left (by simpa using different)
    rw [List.flatMap_cons, List.flatMap_congr others]
    exact ((ih distinct remaining).append_left _).trans (List.filter_append_perm _ xs)

end LinearProgram.Model
