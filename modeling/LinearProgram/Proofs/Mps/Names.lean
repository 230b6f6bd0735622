import LinearProgram.Mps.Document
import LinearProgram.Proofs.Text.Words
import Std.Data.TreeSet.Lemmas

namespace LinearProgram.Mps

theorem extendToFree_isWord {isTaken : String → Bool} {suffix : String} (solid : IsSolid suffix)
    {tries : Nat} {name : String} (word : IsWord name) :
    IsWord (extendToFree isTaken suffix tries name) := by
  induction tries generalizing name with
  | zero => exact word
  | succ tries ih =>
    rw [extendToFree]
    split
    · exact ih (word.append solid)
    · exact word

theorem extendToFree_isFree {isTaken : String → Bool} {suffix : String} (nonempty : suffix ≠ "")
    {tries : Nat} {name : String} {taken : List String}
    (listed : ∀ other, isTaken other → name.length ≤ other.length → other ∈ taken)
    (enough : taken.length ≤ tries) :
    isTaken (extendToFree isTaken suffix tries name) = false := by
  -- The names that are tried get longer, so that one taken name is left behind with each try.
  induction tries generalizing name taken with
  | zero =>
    have nothing : taken = [] := List.eq_nil_of_length_eq_zero (by omega)
    rw [extendToFree, ← Bool.not_eq_true]
    intro isTaken
    have member := listed name isTaken (Nat.le_refl _)
    rw [nothing] at member
    cases member
  | succ tries ih =>
    rw [extendToFree]
    split
    · rename_i used
      have member := listed name used (Nat.le_refl _)
      have longer : name.length < (name ++ suffix).length := by
        have positive : suffix.length ≠ 0 := by simpa using nonempty
        rw [String.length_append]
        omega
      have remaining : ∀ other, isTaken other → (name ++ suffix).length ≤ other.length →
          other ∈ taken.erase name := by
        intro other otherUsed beyond
        have different : other ≠ name := by
          intro same
          rw [same] at beyond
          omega
        exact (List.mem_erase_of_ne different).mpr (listed other otherUsed (by omega))
      have fewer : (taken.erase name).length ≤ tries := by
        rw [List.length_erase_of_mem member]
        omega
      exact ih remaining fewer
    · rename_i free
      exact Bool.eq_false_iff.mpr free

theorem length_distinctNamesFrom (number : Nat) (used : Std.TreeSet String) (names : List String) :
    (distinctNamesFrom number used names).length = names.length := by
  induction names generalizing number used with
  | nil => rfl
  | cons name names ih => rw [distinctNamesFrom, List.length_cons, ih, List.length_cons]

theorem not_contains_extendToFree (used : Std.TreeSet String) (number : Nat) (name : String) :
    used.contains (extendToFree used.contains ("_" ++ Nat.repr number) used.size name) = false := by
  have suffix : "_" ++ Nat.repr number ≠ "" := by simp
  have listed (other : String) (taken : used.contains other) (_ : name.length ≤ other.length) :
      other ∈ used.toList := by
    rwa [Std.TreeSet.mem_toList, Std.TreeSet.mem_iff_contains]
  exact extendToFree_isFree suffix listed (Nat.le_of_eq Std.TreeSet.length_toList)

theorem distinctNamesFrom_fresh (number : Nat) (used : Std.TreeSet String) (names : List String) :
    (∀ name ∈ distinctNamesFrom number used names, used.contains name = false) ∧
      (distinctNamesFrom number used names).Nodup := by
  induction names generalizing number used with
  | nil => exact ⟨by simp [distinctNamesFrom], List.nodup_nil⟩
  | cons name names ih =>
    rw [distinctNamesFrom]
    have free := not_contains_extendToFree used number name
    generalize extendToFree used.contains ("_" ++ Nat.repr number) used.size name = next at free ⊢
    obtain ⟨fresh, distinct⟩ := ih (number + 1) (used.insert next)
    simp only [Std.TreeSet.contains_insert, Bool.or_eq_false_iff] at fresh
    constructor
    · intro other member
      rcases List.mem_cons.mp member with rfl | later
      · exact free
      · exact (fresh other later).2
    · rw [List.nodup_cons]
      have once : next ∉ distinctNamesFrom (number + 1) (used.insert next) names := by
        intro repeated
        simpa using (fresh next repeated).1
      exact ⟨once, distinct⟩

theorem distinctNamesFrom_isWord (number : Nat) (used : Std.TreeSet String) {names : List String}
    (words : ∀ name ∈ names, IsWord name) :
    ∀ name ∈ distinctNamesFrom number used names, IsWord name := by
  induction names generalizing number used with
  | nil => simp [distinctNamesFrom]
  | cons name names ih =>
    obtain ⟨word, others⟩ := List.forall_mem_cons.mp words
    have solid : IsSolid ("_" ++ Nat.repr number) :=
      IsSolid.append (by decide) (isSolid_repr number)
    exact List.forall_mem_cons.mpr ⟨extendToFree_isWord solid word, ih _ _ others⟩

theorem length_distinctNames (names : List String) :
    (distinctNames names).length = names.length :=
  length_distinctNamesFrom 1 _ names

theorem distinctNames_nodup (names : List String) : (distinctNames names).Nodup :=
  (distinctNamesFrom_fresh 1 _ names).2

theorem costName_not_mem_distinctNames (names : List String) :
    costName names ∉ distinctNames names := by
  intro member
  have fresh := (distinctNamesFrom_fresh 1 _ names).1 _ member
  simp [Std.TreeSet.contains_insert] at fresh

theorem costName_isWord (names : List String) : IsWord (costName names) :=
  extendToFree_isWord (by decide) ⟨by decide, by decide⟩

end LinearProgram.Mps
