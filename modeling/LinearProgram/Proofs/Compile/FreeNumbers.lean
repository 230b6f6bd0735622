import LinearProgram.Proofs.Compile.Renaming
import Mathlib.Data.List.NodupEquivFin
import Mathlib.Data.Nat.Nth
import Mathlib.Data.Set.Finite.List
import Mathlib.Order.Interval.Set.Infinite

namespace LinearProgram

namespace NameSource

def IsFree (stem : String) (names : List String) (number : Nat) : Prop :=
  0 < number ∧ numberedName stem number ∉ names

instance (stem : String) (names : List String) : DecidablePred (IsFree stem names) :=
  fun number => inferInstanceAs (Decidable (0 < number ∧ numberedName stem number ∉ names))

theorem numberedName_injective (stem : String) : Function.Injective (numberedName stem) := by
  intro first second same
  have digits := congrArg String.toList same
  simp only [numberedName, String.toList_append, List.append_cancel_left_eq, Nat.toList_repr]
    at digits
  calc
    first = Nat.ofDigitChars 10 (Nat.toDigits 10 first) 0 := Nat.ofDigitChars_ten_toDigits.symm
    _ = Nat.ofDigitChars 10 (Nat.toDigits 10 second) 0 := by rw [digits]
    _ = second := Nat.ofDigitChars_ten_toDigits

/-- Only finitely many numbers are taken, so that the search for a free one always ends. -/
theorem infinite_isFree (stem : String) (names : List String) :
    (Set.ofPred (IsFree stem names)).Infinite := by
  have taken : {number | numberedName stem number ∈ names}.Finite :=
    (List.finite_toSet names).preimage (numberedName_injective stem).injOn
  exact ((Set.Ioi_infinite 0).sdiff taken).mono fun number free => ⟨free.1, free.2⟩

section Search

variable (stem : String) (taken : Columns)

theorem contains_of_lt_nextFree {tries number other : Nat} (first : number ≤ other)
    (before : other < nextFree stem taken tries number) :
    taken.contains (numberedName stem other) := by
  induction tries generalizing number with
  | zero => exact absurd before (Nat.not_lt.mpr first)
  | succ tries ih =>
    rw [nextFree] at before
    split at before
    · rename_i used
      rcases Nat.eq_or_lt_of_le first with rfl | later
      · exact used
      · exact ih later before
    · exact absurd before (Nat.not_lt.mpr first)

/-- A search that finds no free number has tried all that it was to try. -/
theorem nextFree_of_contains {tries number : Nat}
    (used : taken.contains (numberedName stem (nextFree stem taken tries number))) :
    nextFree stem taken tries number = number + tries := by
  induction tries generalizing number with
  | zero => rfl
  | succ tries ih =>
    rw [nextFree] at used ⊢
    split
    · rename_i first
      rw [if_pos first] at used
      rw [ih used]
      omega
    · rename_i free
      rw [if_neg free] at used
      exact absurd used free

theorem not_contains_nextFree (number : Nat) :
    ¬ taken.contains (numberedName stem (nextFree stem taken taken.size number)) := by
  -- Otherwise there would be one name more than there are columns.
  intro used
  have last := nextFree_of_contains stem taken used
  have inside : (List.range' number (taken.size + 1)).map (numberedName stem) ⊆
      taken.names.toList := by
    intro name member
    obtain ⟨other, tried, rfl⟩ := List.mem_map.mp member
    obtain ⟨first, beyond⟩ := List.mem_range'_1.mp tried
    rw [← Columns.contains_iff]
    have upTo : other ≤ nextFree stem taken taken.size number := by omega
    rcases Nat.eq_or_lt_of_le upTo with rfl | before
    · exact used
    · exact contains_of_lt_nextFree stem taken first before
  have distinct : ((List.range' number (taken.size + 1)).map (numberedName stem)).Nodup :=
    List.Nodup.map (numberedName_injective stem) List.nodup_range'
  have short := (List.subperm_of_subset distinct inside).length_le
  rw [List.length_map, List.length_range', Array.length_toList] at short
  exact absurd short (Nat.not_succ_le_self _)

/-- The search finds the first free number behind the last one. -/
theorem nextFree_isLeast (last : Nat) :
    IsLeast {number | IsFree stem taken.names.toList number ∧ last < number}
      (nextFree stem taken taken.size (last + 1)) := by
  have later := le_nextFree stem taken taken.size (last + 1)
  have free := not_contains_nextFree stem taken (last + 1)
  rw [Columns.contains_iff] at free
  refine ⟨⟨⟨Nat.zero_lt_of_lt later, free⟩, later⟩, ?_⟩
  rintro number ⟨⟨_, unused⟩, beyond⟩
  rw [← Columns.contains_iff] at unused
  by_contra before
  exact unused (contains_of_lt_nextFree stem taken beyond (Nat.lt_of_not_le before))

end Search

section Draw

variable (stem : String) (taken : Columns)

theorem nextFree_eq_nth (last : Nat) :
    nextFree stem taken taken.size (last + 1) = Nat.nth (IsFree stem taken.names.toList)
      (Nat.count (IsFree stem taken.names.toList) (last + 1)) := by
  rw [Nat.nth_count_eq_sInf]
  exact (nextFree_isLeast stem taken last).csInf_eq.symm

/-- A counter gives the free numbers in order. -/
theorem drawMany_eq_nth (count last : Nat) :
    drawMany count (.numbered stem taken last) = (List.range count).map fun place =>
      numberedName stem (Nat.nth (IsFree stem taken.names.toList)
        (Nat.count (IsFree stem taken.names.toList) (last + 1) + place)) := by
  induction count generalizing last with
  | zero => rfl
  | succ count ih =>
    have next := nextFree_eq_nth stem taken last
    have passed := Nat.count_nth_succ_of_infinite (infinite_isFree stem taken.names.toList)
      (Nat.count (IsFree stem taken.names.toList) (last + 1))
    rw [drawMany, draw]
    simp only [ih, next, passed, List.range_succ_eq_map, List.map_cons, List.map_map, Nat.add_zero,
      Function.comp_def, Nat.succ_eq_add_one, Nat.add_assoc, Nat.add_comm 1]

end Draw

section Rows

theorem getElem?_fillNames (own : List (Option String)) (drawn : List String) (place : Nat) :
    (fillNames own drawn)[place]? = own[place]?.map fun own? =>
      own?.getD (drawn[(own.take place).count none]?.getD "") := by
  induction own generalizing drawn place with
  | nil => rfl
  | cons first own ih =>
    cases first with
    | some name =>
      cases place with
      | zero => rfl
      | succ place =>
        rw [fillNames, List.getElem?_cons_succ, ih, List.getElem?_cons_succ, List.take_succ_cons,
          List.count_cons_of_ne (by simp)]
    | none =>
      cases place with
      | zero => cases drawn <;> rfl
      | succ place =>
        rw [fillNames, List.getElem?_cons_succ, ih, List.getElem?_cons_succ, List.take_succ_cons,
          List.count_cons_self, List.getElem?_tail]

theorem count_take_lt {own : List (Option String)} {place : Nat} (here : own[place]? = some none) :
    (own.take place).count none < own.count none := by
  have upTo := (List.take_sublist (place + 1) own).count_le none
  rw [List.take_add_one, here, List.count_append] at upTo
  exact upTo

variable {F : Type} [Scalar F] (stem : String) (taken : Columns) {rows : List (Restriction F)}

/-- The rows without a name of their own take the free numbers in order. -/
theorem getElem?_nameRows (place : Nat) :
    ((numbered stem taken 0).nameRows rows)[place]? =
      (rows.map Restriction.bareName?)[place]?.map fun own? =>
        own?.getD (numberedName stem (Nat.nth (IsFree stem taken.names.toList)
          (((rows.map Restriction.bareName?).take place).count none))) := by
  have start : Nat.count (IsFree stem taken.names.toList) (0 + 1) = 0 := by
    simp [Nat.count_succ, IsFree]
  rw [nameRows_eq_fillNames, getElem?_fillNames, drawMany_eq_nth, start]
  cases here : (rows.map Restriction.bareName?)[place]? with
  | none => rfl
  | some own? =>
    cases own? with
    | some name => rfl
    | none => simp [List.getElem?_range (count_take_lt here)]

end Rows

end NameSource

end LinearProgram
