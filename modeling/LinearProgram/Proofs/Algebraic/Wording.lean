import LinearProgram.Algebraic.Heading
import LinearProgram.Proofs.Text.Words

namespace LinearProgram.Heading

/-- Whether words start with the expected ones in any case; only the last of these may have colons
attached. -/
def begins : List String → List String → Bool
  | [], _ => true
  | [last], word :: _ => lowered (trimColons word.toList) = last
  | expected :: others, word :: words => lowered word.toList = expected && begins others words
  | _ :: _, [] => false

def spellings : List (List String × Heading) :=
  keywords.map (fun entry => ([entry.1], entry.2)) ++
    constraintWords.map fun words => (words, .constraints)

def spelling? (words : List String) : Option (List String × Heading) :=
  spellings.find? fun spelling => begins spelling.1 words

def dropColon : List String → List String
  | [] => []
  | word :: words =>
    match word.toList with
    | ':' :: rest => Text.words rest ++ words
    | _ => word :: words

def contentWords (heading : Heading) (words : List String) : List String :=
  if heading = .ending then words else dropColon words

def splitWords (words : List String) : Option Heading × List String :=
  match spelling? words with
  | some spelling =>
    (some spelling.2, contentWords spelling.2 (words.drop spelling.1.length))
  | none => (none, words)

theorem words_afterColon (line : List Char) :
    Text.words (afterColon line) = dropColon (Text.words line) := by
  have parts := Text.firstWord_append line
  have cut := Text.words_eq_firstWord line
  cases first : (Text.firstWord line).1 with
  | nil =>
    have nothing := (Text.firstWord_eq_nil_iff line).mp first
    rw [cut, afterColon, nothing]
    rfl
  | cons c word =>
    rw [first] at parts cut
    have filled : Text.dropBlanks line ≠ [] := by simp [← parts]
    rw [if_neg filled] at cut
    rw [cut, afterColon, ← parts]
    by_cases colon : c = ':'
    · subst colon
      simp [dropColon, Text.words_append (Text.head?_firstWord line)]
    · have whole : Text.words (c :: word ++ (Text.firstWord line).2) = Text.words line := by
        rw [← first, Text.firstWord_append, Text.words_dropBlanks]
      simpa [dropColon, colon, cut] using whole

theorem words_afterWords? {expected : List String} (filled : "" ∉ expected) (line : List Char) :
    (afterWords? expected line).map Text.words =
      if begins expected (Text.words line) then some ((Text.words line).drop expected.length)
      else none := by
  have cases := Text.firstWord_cases line
  fun_induction afterWords? expected line with
  | case1 => simp [begins]
  | case2 line word rest first =>
    rw [first] at cases
    rcases cases with ⟨_, empty⟩ | cut
    · cases empty
      simp [lowered, trimColons] at filled
    · simp [cut, begins]
  | case3 last line word rest first differs =>
    rw [first] at cases
    rcases cases with ⟨nothing, _⟩ | cut
    · simp [nothing, begins]
    · simp [cut, begins, differs]
  | case4 others line several word rest first ih =>
    rw [first] at cases
    rcases cases with ⟨_, empty⟩ | cut
    · cases empty
      simp [lowered] at filled
    · simp at filled
      rw [ih filled.2 (Text.firstWord_cases rest)]
      simp [cut, begins]
  | case5 expected others line several word rest first differs =>
    rw [first] at cases
    rcases cases with ⟨nothing, _⟩ | cut
    · simp [nothing, begins]
    · simp [cut, begins, differs]

theorem begins_singleton {last : String} (filled : last ≠ "") (line : List Char) :
    begins [last] (Text.words line) = (lowered (trimColons (Text.firstWord line).1) == last) := by
  rcases Text.firstWord_cases line with ⟨nothing, empty⟩ | cut
  · rw [nothing, empty]
    simp [begins, lowered, trimColons, filled.symm]
  · rw [cut]
    simp [begins, beq_eq_decide]

theorem find?_words {entries : List (String × Heading)} (filled : ∀ entry ∈ entries, entry.1 ≠ "")
    (line : List Char) :
    (entries.map fun entry => ([entry.1], entry.2)).find?
        (fun spelling => begins spelling.1 (Text.words line)) =
      (entries.lookup (lowered (trimColons (Text.firstWord line).1))).map fun heading =>
        ([lowered (trimColons (Text.firstWord line).1)], heading) := by
  induction entries with
  | nil => rfl
  | cons entry entries ih =>
    obtain ⟨first, others⟩ := List.forall_mem_cons.mp filled
    rw [List.map_cons, List.find?_cons, List.lookup_cons, begins_singleton first, ih others]
    cases same : lowered (trimColons (Text.firstWord line).1) == entry.1 with
    | true =>
      rw [beq_iff_eq] at same
      rw [same]
      rfl
    | false => rfl

theorem findSome?_afterWords? {spelled : List (List String)}
    (filled : ∀ expected ∈ spelled, "" ∉ expected) (line : List Char) :
    (spelled.findSome? (afterWords? · line)).map Text.words =
      (spelled.find? fun expected => begins expected (Text.words line)).map fun expected =>
        (Text.words line).drop expected.length := by
  induction spelled with
  | nil => rfl
  | cons expected spelled ih =>
    obtain ⟨first, others⟩ := List.forall_mem_cons.mp filled
    have rest := words_afterWords? first line
    rw [List.findSome?_cons, List.find?_cons]
    cases found : afterWords? expected line with
    | none =>
      rw [found] at rest
      cases starts : begins expected (Text.words line) with
      | true => simp [starts] at rest
      | false => exact ih others
    | some content =>
      rw [found] at rest
      cases starts : begins expected (Text.words line) with
      | true => simpa [starts] using rest
      | false => simp [starts] at rest

/-- A line is cut word by word: with which blanks its words are set apart does not matter. -/
theorem split_words (line : List Char) :
    ((split line).1, Text.words (split line).2) = splitWords (Text.words line) := by
  have keyword := find?_words (by decide : ∀ entry ∈ keywords, entry.1 ≠ "") line
  have constraint :=
    findSome?_afterWords? (by decide : ∀ expected ∈ constraintWords, "" ∉ expected) line
  have spelling : (constraintWords.map fun words => (words, constraints)).find?
        (fun spelling => begins spelling.1 (Text.words line)) =
      (constraintWords.find? fun words => begins words (Text.words line)).map fun words =>
        (words, constraints) := List.find?_map
  rw [splitWords, spelling?, spellings, List.find?_append, keyword, spelling, split]
  cases found : keywords.lookup (lowered (trimColons (Text.firstWord line).1)) with
  | some heading =>
    cases heading <;> simp [found, contentWords, Text.tail_words, words_afterColon]
  | none =>
    cases spelled : constraintWords.findSome? (afterWords? · line) with
    | none =>
      rw [spelled, Option.map_none, eq_comm, Option.map_eq_none_iff] at constraint
      simp [found, constraint]
    | some content =>
      rw [spelled, Option.map_some, eq_comm, Option.map_eq_some_iff] at constraint
      obtain ⟨expected, starts, behind⟩ := constraint
      simp [found, starts, behind, contentWords, words_afterColon]

end LinearProgram.Heading
