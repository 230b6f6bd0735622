import LinearProgram.Text.Basic
import Mathlib.Data.List.Basic
import Mathlib.Data.List.TakeDrop
import Mathlib.Data.List.TakeWhile

namespace LinearProgram

def IsSolid (text : String) : Prop :=
  ∀ c ∈ text.toList, Text.isBlank c = false

structure IsWord (text : String) : Prop where
  nonempty : text ≠ ""
  solid : IsSolid text

instance (text : String) : Decidable (IsSolid text) :=
  decidable_of_iff (text.toList.all (!Text.isBlank ·)) (by simp [IsSolid])

instance (text : String) : Decidable (IsWord text) :=
  decidable_of_iff (text ≠ "" ∧ IsSolid text)
    ⟨fun word => ⟨word.1, word.2⟩, fun word => ⟨word.nonempty, word.solid⟩⟩

theorem IsSolid.append {first second : String} (start : IsSolid first) (rest : IsSolid second) :
    IsSolid (first ++ second) := by
  intro c member
  rw [String.toList_append, List.mem_append] at member
  rcases member with member | member
  · exact start c member
  · exact rest c member

theorem isBlank_of_isDigit {c : Char} (digit : c.isDigit) : Text.isBlank c = false := by
  rw [Char.isDigit_iff_toNat] at digit
  rw [← Bool.not_eq_true, Text.isBlank, Text.inSpans_iff]
  simp only [Text.blankSpans, List.mem_cons, List.not_mem_nil, or_false, exists_eq_or_imp,
    exists_eq_left]
  have zero : '0'.toNat = 48 := rfl
  have nine : '9'.toNat = 57 := rfl
  omega

theorem isSolid_repr (n : Nat) : IsSolid (Nat.repr n) := by
  intro c member
  rw [Nat.toList_repr] at member
  exact isBlank_of_isDigit (Nat.isDigit_of_mem_toDigits (by decide) (by decide) member)

theorem IsWord.append {first second : String} (start : IsWord first) (rest : IsSolid second) :
    IsWord (first ++ second) := by
  constructor
  · intro empty
    exact start.nonempty (String.append_eq_empty_iff.mp empty).1
  · exact start.solid.append rest

def IsOneLine (text : String) : Prop :=
  '\n' ∉ text.toList

instance (text : String) : Decidable (IsOneLine text) :=
  inferInstanceAs (Decidable ('\n' ∉ text.toList))

theorem IsOneLine.append {first second : String} (start : IsOneLine first)
    (rest : IsOneLine second) : IsOneLine (first ++ second) := by
  rw [IsOneLine, String.toList_append, List.mem_append, not_or]
  exact ⟨start, rest⟩

theorem isOneLine_of_isSolid {text : String} (solid : IsSolid text) : IsOneLine text := by
  intro member
  exact absurd (solid '\n' member) (by decide)

namespace Text

theorem dropBlanks_of_solid {c : Char} (solid : isBlank c = false) (rest : List Char) :
    dropBlanks (c :: rest) = c :: rest :=
  List.dropWhile_cons_of_neg (by simp [solid])

def words (line : List Char) : List String :=
  ((line.splitOnP isBlank).filter (· ≠ [])).map String.ofList

theorem words_append_cons {c : Char} (blank : isBlank c) (first second : List Char) :
    words (first ++ c :: second) = words first ++ words second := by
  simp [words, List.splitOnP_append_cons first second blank]

theorem words_nil : words [] = [] := rfl

theorem words_blanks_append {blanks : List Char} (blank : blanks.all isBlank)
    (text : List Char) : words (blanks ++ text) = words text := by
  induction blanks with
  | nil => rfl
  | cons c blanks ih =>
    rw [List.all_cons, Bool.and_eq_true] at blank
    obtain ⟨first, others⟩ := blank
    exact (words_append_cons first [] _).trans (ih others)

theorem words_append_blanks {blanks : List Char} (blank : blanks.all isBlank)
    (text : List Char) : words (text ++ blanks) = words text := by
  cases blanks with
  | nil => rw [List.append_nil]
  | cons c blanks =>
    rw [List.all_cons, Bool.and_eq_true] at blank
    obtain ⟨first, others⟩ := blank
    have nothing := words_blanks_append others []
    rw [words_append_cons first, ← List.append_nil blanks, nothing, words_nil, List.append_nil]

theorem words_of_isSolid {text : String} (solid : IsSolid text) :
    words text.toList = if text = "" then [] else [text] := by
  rw [words, List.splitOnP_eq_singleton solid]
  split
  · rename_i empty
    rw [empty]
    rfl
  · rename_i nonempty
    simp [nonempty]

theorem words_of_isWord {text : String} (word : IsWord text) : words text.toList = [text] := by
  rw [words_of_isSolid word.solid, if_neg word.nonempty]

/-- What starts with a break, if with anything, is cut into words by itself. -/
theorem words_append {rest : List Char} (broken : rest.head?.all isBlank) (line : List Char) :
    words (line ++ rest) = words line ++ words rest := by
  cases rest with
  | nil => rw [words_nil, List.append_nil, List.append_nil]
  | cons c rest =>
    have blank : isBlank c := broken
    rw [words_append_cons blank, ← List.nil_append (c :: rest), words_append_cons blank, words_nil,
      List.nil_append]

theorem words_append_of_getLast? {line : List Char} (broken : line.getLast?.all isBlank)
    (rest : List Char) : words (line ++ rest) = words line ++ words rest := by
  rcases List.eq_nil_or_concat' line with rfl | ⟨front, b, rfl⟩
  · rfl
  · have blank : isBlank b := by simpa using broken
    rw [List.append_assoc, words_append_cons blank front [], List.singleton_append,
      words_append_cons blank, words_nil, List.append_nil]

theorem words_dropBlanks (line : List Char) : words (dropBlanks line) = words line := by
  have blank : (line.takeWhile isBlank).all isBlank := List.all_takeWhile
  have skipped := words_blanks_append blank (line.dropWhile isBlank)
  rw [List.takeWhile_append_dropWhile] at skipped
  exact skipped.symm

section FirstWord

variable (line : List Char)

theorem firstWord_append : (firstWord line).1 ++ (firstWord line).2 = dropBlanks line := by
  rw [firstWord, List.span_eq_takeWhile_dropWhile]
  exact List.takeWhile_append_dropWhile

theorem isSolid_firstWord : IsSolid (String.ofList (firstWord line).1) := by
  intro c member
  rw [firstWord, List.span_eq_takeWhile_dropWhile, String.toList_ofList] at member
  simpa using List.mem_takeWhile_imp member

theorem head?_firstWord : (firstWord line).2.head?.all isBlank := by
  rw [firstWord, List.span_eq_takeWhile_dropWhile]
  have stops := List.head?_dropWhile_not (fun c => !isBlank c) (dropBlanks line)
  cases start : ((dropBlanks line).dropWhile fun c => !isBlank c).head? with
  | none => rfl
  | some c => simpa [start] using stops

theorem firstWord_eq_nil_iff : (firstWord line).1 = [] ↔ dropBlanks line = [] := by
  constructor
  · intro empty
    have rest := firstWord_append line
    have breaks := head?_firstWord line
    rw [empty, List.nil_append] at rest
    rw [rest] at breaks
    have solid := List.head?_dropWhile_not isBlank line
    rw [← dropBlanks] at solid
    cases start : dropBlanks line with
    | nil => rfl
    | cons c rest =>
      rw [start] at breaks solid
      have blank : isBlank c := breaks
      have nonblank : isBlank c = false := solid
      rw [blank] at nonblank
      cases nonblank
  · intro empty
    rw [firstWord, empty]
    rfl

theorem words_eq_firstWord :
    words line = if dropBlanks line = [] then []
      else String.ofList (firstWord line).1 :: words (firstWord line).2 := by
  rw [← words_dropBlanks]
  split
  · rename_i empty
    rw [empty, words_nil]
  · rename_i nonempty
    have first := words_of_isSolid (isSolid_firstWord line)
    have filled := mt (firstWord_eq_nil_iff line).mp nonempty
    rw [String.toList_ofList, if_neg (by simpa using filled)] at first
    rw [← firstWord_append, words_append (head?_firstWord line), first, List.singleton_append]

theorem firstWord_cases :
    (words line = [] ∧ firstWord line = ([], [])) ∨
      words line = String.ofList (firstWord line).1 :: words (firstWord line).2 := by
  rw [words_eq_firstWord]
  split
  · rename_i nothing
    left
    rw [firstWord, nothing]
    exact ⟨rfl, rfl⟩
  · right
    rfl

theorem tail_words : (words line).tail = words (firstWord line).2 := by
  rcases firstWord_cases line with ⟨nothing, empty⟩ | cut
  · rw [nothing, empty]
    rfl
  · rw [cut]
    rfl

end FirstWord

theorem words_eq_nil_iff {line : List Char} : words line = [] ↔ line.all isBlank := by
  rw [List.all_eq_true, ← List.dropWhile_eq_nil_iff, ← dropBlanks, words_eq_firstWord]
  simp

theorem words_eq_cons {line : List Char} {word : String} {others : List String}
    (cut : words line = word :: others) :
    dropBlanks line ≠ [] ∧ String.ofList (firstWord line).1 = word ∧
      words (firstWord line).2 = others := by
  rw [words_eq_firstWord] at cut
  split at cut
  · cases cut
  · rename_i nonempty
    exact ⟨nonempty, List.cons.inj cut⟩

theorem forall_words (line : List Char) : ∀ word ∈ words line, IsWord word := by
  induction cut : words line generalizing line with
  | nil => simp
  | cons word others ih =>
    obtain ⟨nonempty, rfl, rest⟩ := words_eq_cons cut
    have filled := mt (firstWord_eq_nil_iff line).mp nonempty
    rw [List.forall_mem_cons]
    exact ⟨⟨by simpa using filled, isSolid_firstWord line⟩, ih _ rest⟩

theorem mem_of_mem_words {line : List Char} {word : String} (member : word ∈ words line) {c : Char}
    (inside : c ∈ word.toList) : c ∈ line := by
  induction cut : words line generalizing line with
  | nil =>
    rw [cut] at member
    cases member
  | cons first others ih =>
    obtain ⟨_, rfl, rest⟩ := words_eq_cons cut
    have kept : ∀ c ∈ (firstWord line).1 ++ (firstWord line).2, c ∈ line := by
      rw [firstWord_append]
      exact fun c found => (List.dropWhile_suffix isBlank).subset found
    rw [cut] at member
    rcases List.mem_cons.mp member with rfl | later
    · rw [String.toList_ofList] at inside
      exact kept c (List.mem_append_left _ inside)
    · exact kept c (List.mem_append_right _ (ih (rest ▸ later) rest))

theorem toList_pushn (c : Char) (n : Nat) : ("".pushn c n).toList = List.replicate n c := by
  rw [String.pushn_eq_repeat_push]
  induction n with
  | zero => rfl
  | succ n ih => rw [Nat.repeat, String.toList_push, ih, List.replicate_succ']

theorem toList_spaces (n : Nat) : (spaces n).toList = List.replicate n ' ' :=
  toList_pushn ' ' n

theorem spaces_eq (n : Nat) : spaces n = String.ofList (List.replicate n ' ') := by
  rw [← String.toList_inj, toList_spaces, String.toList_ofList]

theorem toList_padRight (width : Nat) (text : String) :
    (padRight width text).toList =
      text.toList ++ List.replicate (width - text.length) ' ' := by
  rw [padRight, String.toList_append, toList_spaces]

theorem words_padRight (width : Nat) (text : String) :
    words (padRight width text).toList = words text.toList := by
  have blank : (List.replicate (width - text.length) ' ').all isBlank := by
    apply List.all_eq_true.mpr
    intro c member
    rw [List.eq_of_mem_replicate member]
    decide
  rw [toList_padRight, words_append_blanks blank]

theorem isOneLine_padRight {text : String} (whole : IsOneLine text) (width : Nat) :
    IsOneLine (padRight width text) := by
  rw [IsOneLine, toList_padRight, List.mem_append, not_or]
  constructor
  · exact whole
  · intro member
    exact absurd (List.eq_of_mem_replicate member) (by decide)

theorem words_join (first second : String) :
    words (first ++ " " ++ second).toList = words first.toList ++ words second.toList := by
  rw [String.toList_append, String.toList_append, List.append_assoc]
  exact words_append_cons (by decide) _ _

theorem words_intercalate {words : List String} (each : ∀ word ∈ words, IsWord word) :
    Text.words (" ".intercalate words).toList = words := by
  induction words with
  | nil => rfl
  | cons word others ih =>
    obtain ⟨first, rest⟩ := List.forall_mem_cons.mp each
    cases others with
    | nil => simpa using words_of_isWord first
    | cons second others =>
      rw [String.intercalate_cons_cons, words_join, ih rest, words_of_isWord first]
      rfl

theorem mem_intercalate {words : List String} {c : Char}
    (inside : c ∈ (" ".intercalate words).toList) : c = ' ' ∨ ∃ word ∈ words, c ∈ word.toList := by
  induction words with
  | nil => cases inside
  | cons word others ih =>
    cases others with
    | nil => exact .inr ⟨word, List.mem_cons_self, by simpa using inside⟩
    | cons second others =>
      rw [String.intercalate_cons_cons, String.toList_append, String.toList_append,
        List.mem_append, List.mem_append] at inside
      rcases inside with (first | space) | rest
      · exact .inr ⟨word, List.mem_cons_self, first⟩
      · exact .inl (List.mem_singleton.mp space)
      · rcases ih rest with space | ⟨later, member, found⟩
        · exact .inl space
        · exact .inr ⟨later, List.mem_cons_of_mem _ member, found⟩

theorem intercalate_eq_empty_iff {words : List String} (each : ∀ word ∈ words, IsWord word) :
    " ".intercalate words = "" ↔ words = [] := by
  constructor
  · intro empty
    rw [← words_intercalate each, empty]
    rfl
  · rintro rfl
    rfl

end Text

end LinearProgram
