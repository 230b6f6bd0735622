import LinearProgram.Text.Basic
import Mathlib.Data.List.TakeWhile

namespace LinearProgram

def IsUnbroken (text : String) : Prop :=
  ∀ c ∈ text.toList, c ∉ ['\n', '\r', '#']

instance (text : String) : Decidable (IsUnbroken text) :=
  List.decidableBAll _ text.toList

theorem IsUnbroken.append {first second : String} (start : IsUnbroken first)
    (rest : IsUnbroken second) : IsUnbroken (first ++ second) := by
  rw [IsUnbroken, String.toList_append, List.forall_mem_append]
  exact ⟨start, rest⟩

theorem IsUnbroken.of_all {text : String} {p : Char → Bool} (all : text.toList.all p)
    (excluded : ['\n', '\r', '#'].all (!p ·)) : IsUnbroken text := by
  intro c member inside
  have kept := List.all_eq_true.mp all c member
  have left := List.all_eq_true.mp excluded c inside
  rw [kept] at left
  cases left

theorem IsUnbroken.takeWhile {text : String} (unbroken : IsUnbroken text) :
    text.toList.takeWhile (· != '#') = text.toList := by
  rw [List.takeWhile_eq_self_iff]
  intro c member
  have plain := unbroken c member
  simp only [List.mem_cons, List.not_mem_nil, or_false, not_or] at plain
  simp [plain.2.2]

namespace Text

theorem splitLines_append {line : List Char} (unbroken : ∀ c ∈ line, c ∉ ['\n', '\r', '#'])
    (rest : List Char) : splitLines (line ++ '\n' :: rest) = line :: splitLines rest := by
  induction line with
  | nil => rfl
  | cons c line ih =>
    obtain ⟨plain, others⟩ := List.forall_mem_cons.mp unbroken
    simp only [List.mem_cons, List.not_mem_nil, or_false, not_or] at plain
    simp [splitLines, plain.1, plain.2.1, ih others]

theorem splitLines_cons {c : Char} {rest : List Char} (plain : c ≠ '\n')
    (whole : c = '\r' → rest.head? ≠ some '\n') :
    splitLines (c :: rest) = (c :: (splitLines rest).headD []) :: (splitLines rest).tail := by
  have noBreak : ∀ more, c = '\r' → rest = '\n' :: more → False := by
    rintro more rfl rfl
    exact whole rfl rfl
  rw [splitLines.eq_4 c rest plain noBreak]
  cases splitLines rest <;> rfl

theorem splitLines_of_not_mem {line : List Char} (whole : '\n' ∉ line) :
    splitLines line = if line = [] then [] else [line] := by
  induction line with
  | nil => rfl
  | cons c line ih =>
    obtain ⟨plain, others⟩ := List.ne_and_not_mem_of_not_mem_cons whole
    have next : line.head? ≠ some '\n' := fun first => others (List.mem_of_mem_head? first)
    rw [splitLines_cons plain.symm fun _ => next, ih others]
    cases line <;> rfl

/-- A line ends before its line feed or before a carriage return in front of that. -/
theorem exists_splitLines_append {line : List Char} (whole : '\n' ∉ line) :
    ∃ kept, (line = kept ∨ line = kept ++ ['\r']) ∧
      ∀ rest, splitLines (line ++ '\n' :: rest) = kept :: splitLines rest := by
  induction line with
  | nil => exact ⟨[], .inl rfl, fun _ => rfl⟩
  | cons c line ih =>
    obtain ⟨plain, others⟩ := List.ne_and_not_mem_of_not_mem_cons whole
    by_cases last : c = '\r' ∧ line = []
    · obtain ⟨rfl, rfl⟩ := last
      exact ⟨[], .inr rfl, fun _ => rfl⟩
    · obtain ⟨kept, same, cut⟩ := ih others
      refine ⟨c :: kept, by rcases same with rfl | rfl <;> simp, ?_⟩
      intro rest
      have next : c = '\r' → (line ++ '\n' :: rest).head? ≠ some '\n' := by
        intro carriage
        cases line with
        | nil => exact absurd ⟨carriage, rfl⟩ last
        | cons d line => simpa using (List.ne_and_not_mem_of_not_mem_cons others).1.symm
      rw [List.cons_append, splitLines_cons plain.symm next, cut]
      rfl

theorem splitLines_append_break (before rest : List Char) :
    splitLines (before ++ '\n' :: rest) = splitLines (before ++ ['\n']) ++ splitLines rest := by
  -- By lines of the text before the break.
  induction size : before.length using Nat.strong_induction_on generalizing before with
  | h count ih =>
    by_cases broken : '\n' ∈ before
    · obtain ⟨line, more, rfl, whole⟩ := List.eq_append_cons_of_mem broken
      obtain ⟨kept, _, cut⟩ := exists_splitLines_append whole
      have shorter : more.length < count := by
        rw [← size, List.length_append, List.length_cons]
        omega
      simp only [List.append_assoc, List.cons_append, cut, ih _ shorter more rfl]
    · obtain ⟨kept, _, cut⟩ := exists_splitLines_append broken
      rw [cut, cut]
      rfl

def firstLines : Nat → List Char → List Char
  | 0, _ => []
  | _ + 1, [] => []
  | count + 1, c :: rest =>
    if c = '\n' then c :: firstLines count rest else c :: firstLines (count + 1) rest

theorem head?_firstLines (count : Nat) (text : List Char) :
    (firstLines (count + 1) text).head? = text.head? := by
  cases text with
  | nil => rfl
  | cons c rest =>
    rw [firstLines]
    split <;> rfl

theorem splitLines_firstLines (count : Nat) (text : List Char) :
    splitLines (firstLines count text) = (splitLines text).take count := by
  induction text generalizing count with
  | nil => cases count <;> rfl
  | cons c rest ih =>
    cases count with
    | zero => rfl
    | succ count =>
      rw [firstLines]
      split
      · rename_i ended
        rw [ended, splitLines, splitLines, ih, List.take_succ_cons]
      · rename_i plain
        by_cases joined : c = '\r' ∧ rest.head? = some '\n'
        · obtain ⟨rfl, starts⟩ := joined
          obtain ⟨more, rfl⟩ := List.head?_eq_some_iff.mp starts
          have later := ih (count + 1)
          rw [firstLines, if_pos rfl, splitLines, splitLines, List.take_succ_cons] at later
          rw [firstLines, if_pos rfl, splitLines, splitLines, List.take_succ_cons]
          exact later
        · have whole : c = '\r' → rest.head? ≠ some '\n' := not_and.mp joined
          have wholeFront : c = '\r' → (firstLines (count + 1) rest).head? ≠ some '\n' := by
            rwa [head?_firstLines]
          rw [splitLines_cons plain wholeFront, splitLines_cons plain whole, ih]
          cases splitLines rest <;> simp

theorem toList_unlines_cons (line : String) (lines : List String) :
    (unlines (line :: lines)).toList = line.toList ++ '\n' :: (unlines lines).toList := by
  simp [unlines]

theorem splitLines_unlines {lines : List String} (unbroken : ∀ line ∈ lines, IsUnbroken line) :
    splitLines (unlines lines).toList = lines.map String.toList := by
  induction lines with
  | nil => rfl
  | cons line lines ih =>
    obtain ⟨first, others⟩ := List.forall_mem_cons.mp unbroken
    rw [toList_unlines_cons, splitLines_append first, ih others, List.map_cons]

end Text

end LinearProgram
