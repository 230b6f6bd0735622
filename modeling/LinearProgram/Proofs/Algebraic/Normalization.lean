import LinearProgram.Proofs.Algebraic.Digest

namespace LinearProgram

theorem Heading.lowered_lowered (word : List Char) :
    lowered (lowered word).toList = lowered word := by
  simp [lowered, Function.comp_def]

theorem Heading.trimColons_lowered (word : List Char) :
    trimColons (lowered word).toList = (lowered (trimColons word)).toList := by
  have marks : (fun c : Char => c.toLower == ':') = (· == ':') := by
    funext c
    rw [Bool.eq_iff_iff, beq_iff_eq, beq_iff_eq, Text.toLower_eq_iff (by decide)]
  simp [trimColons, lowered, ← List.map_reverse, List.dropWhile_map, Function.comp_def, marks]

theorem isWord_lowered (word : String) (isWord : IsWord word) :
    IsWord (Heading.lowered word.toList) := by
  constructor
  · simpa [Heading.lowered] using isWord.nonempty
  · intro c member
    rw [Heading.lowered, String.toList_ofList] at member
    obtain ⟨d, inside, rfl⟩ := List.mem_map.mp member
    rw [Text.isBlank_toLower]
    exact isWord.solid d inside

namespace Heading

def lowerWords (count : Nat) (words : List String) : List String :=
  (words.take count).map (fun word => lowered word.toList) ++ words.drop count

theorem begins_lowerWords (expected : List String) (count : Nat) (words : List String) :
    begins expected (lowerWords count words) = begins expected words := by
  induction expected generalizing count words with
  | nil => rfl
  | cons first others ih =>
    cases count with
    | zero => simp [lowerWords]
    | succ count =>
      cases words with
      | nil => simp [lowerWords]
      | cons word words =>
        have rest := ih count words
        cases others with
        | nil => simp [lowerWords, begins, trimColons_lowered, lowered_lowered]
        | cons => simpa [lowerWords, begins, lowered_lowered] using congrArg _ rest

theorem drop_lowerWords (count : Nat) (words : List String) :
    (lowerWords count words).drop count = words.drop count := by
  rw [lowerWords, List.drop_append, List.length_map, List.length_take, List.drop_drop]
  by_cases enough : count ≤ words.length
  · simp [enough]
  · rw [List.drop_eq_nil_of_le (by simp), List.drop_eq_nil_of_le (by omega),
      List.drop_eq_nil_of_le (by omega), List.append_nil]

theorem spelling?_lowerWords (count : Nat) (words : List String) :
    spelling? (lowerWords count words) = spelling? words := by
  simp only [spelling?, begins_lowerWords]

def lowerKeyword (words : List String) : List String :=
  lowerWords ((spelling? words).elim 0 fun spelling => spelling.1.length) words

theorem lowerWords_lowerWords (count : Nat) (words : List String) :
    lowerWords count (lowerWords count words) = lowerWords count words := by
  induction count generalizing words with
  | zero => simp [lowerWords]
  | succ count ih =>
    cases words with
    | nil => simp [lowerWords]
    | cons word words => simpa [lowerWords, lowered_lowered] using ih words

theorem lowerKeyword_lowerKeyword (words : List String) :
    lowerKeyword (lowerKeyword words) = lowerKeyword words := by
  rw [lowerKeyword, lowerKeyword, spelling?_lowerWords, lowerWords_lowerWords]

theorem splitWords_lowerKeyword (words : List String) :
    splitWords (lowerKeyword words) = splitWords words := by
  rw [splitWords, splitWords, lowerKeyword, spelling?_lowerWords]
  cases spelling? words with
  | none => simp [lowerWords]
  | some spelling =>
    simp only [Option.elim_some, drop_lowerWords]

theorem lowerKeyword_eq_nil_iff {words : List String} : lowerKeyword words = [] ↔ words = [] := by
  rw [← List.length_eq_zero_iff, ← List.length_eq_zero_iff, lowerKeyword, lowerWords,
    List.length_append, List.length_map, ← List.length_append, List.take_append_drop]

theorem forall_lowerKeyword {p : String → Prop}
    (keeps : ∀ word, p word → p (lowered word.toList)) {words : List String}
    (each : ∀ word ∈ words, p word) : ∀ word ∈ lowerKeyword words, p word := by
  rw [lowerKeyword, lowerWords, List.forall_mem_append, List.forall_mem_map]
  constructor
  · intro word member
    exact keeps word (each word (List.mem_of_mem_take member))
  · intro word member
    exact each word (List.mem_of_mem_drop member)

end Heading

/-- A line without its comment, with one space between its words and its heading in lower case. -/
def plainLine (line : List Char) : String :=
  " ".intercalate (Heading.lowerKeyword (lineWords line))

def plainLines (text : String) : List String :=
  ((Text.splitLines text.toList).map plainLine).filter (· ≠ "")

theorem forall_plainWords (line : List Char) :
    ∀ word ∈ Heading.lowerKeyword (lineWords line), IsWord word :=
  Heading.forall_lowerKeyword isWord_lowered (forall_lineWords line)

theorem plainLines_eq_wordLines (text : String) :
    plainLines text =
      (wordLines text).map fun words => " ".intercalate (Heading.lowerKeyword words) := by
  have whole : plainLine =
      (fun words => " ".intercalate (Heading.lowerKeyword words)) ∘ lineWords := rfl
  rw [plainLines, wordLines, whole, ← List.map_map, List.filter_map]
  congr 1
  apply List.filter_congr
  intro words member
  obtain ⟨line, _, rfl⟩ := List.mem_map.mp member
  simp only [Function.comp_apply, ne_eq, Text.intercalate_eq_empty_iff (forall_plainWords line),
    Heading.lowerKeyword_eq_nil_iff]

theorem map_digest_plainLines (text : String) :
    (plainLines text).map (fun line => digest (Heading.split line.toList)) =
      (headedLines text).map digest := by
  rw [plainLines_eq_wordLines, map_digest_headedLines, List.map_map]
  apply List.map_congr_left
  intro words member
  have each := forall_wordLines member
  have lowered := Heading.forall_lowerKeyword isWord_lowered each
  apply digest_split_congr
  rw [Text.words_intercalate each, Text.words_intercalate lowered,
    Heading.splitWords_lowerKeyword]

theorem not_mem_plainWords (line : List Char) :
    ∀ word ∈ Heading.lowerKeyword (lineWords line), '#' ∉ word.toList := by
  apply Heading.forall_lowerKeyword
  · intro word absent member
    rw [Heading.lowered, String.toList_ofList] at member
    obtain ⟨c, inside, mark⟩ := List.mem_map.mp member
    rw [Text.toLower_eq_iff (by decide)] at mark
    exact absent (mark ▸ inside)
  · intro word member inside
    have kept := List.mem_takeWhile_imp (Text.mem_of_mem_words member inside)
    cases kept

theorem isUnbroken_plainLine (line : List Char) : IsUnbroken (plainLine line) := by
  intro c inside
  rcases Text.mem_intercalate inside with rfl | ⟨word, member, found⟩
  · decide
  · have solid := (forall_plainWords line word member).solid c found
    have noMark := not_mem_plainWords line word member
    simp only [List.mem_cons, List.not_mem_nil, or_false]
    rintro (rfl | rfl | rfl)
    · cases solid
    · cases solid
    · exact noMark found

theorem lineWords_plainLine (line : List Char) :
    lineWords (plainLine line).toList = Heading.lowerKeyword (lineWords line) := by
  rw [lineWords, (isUnbroken_plainLine line).takeWhile, plainLine,
    Text.words_intercalate (forall_plainWords line)]

theorem plainLine_plainLine (line : List Char) :
    plainLine (plainLine line).toList = plainLine line := by
  rw [plainLine, lineWords_plainLine, Heading.lowerKeyword_lowerKeyword, plainLine]

theorem plainLines_unlines (text : String) :
    plainLines (Text.unlines (plainLines text)) = plainLines text := by
  have unbroken : ∀ line ∈ plainLines text, IsUnbroken line := by
    intro line member
    obtain ⟨source, _, rfl⟩ := List.mem_map.mp (List.mem_filter.mp member).1
    exact isUnbroken_plainLine source
  have plain : ∀ line ∈ plainLines text, plainLine line.toList = line := by
    intro line member
    obtain ⟨source, _, rfl⟩ := List.mem_map.mp (List.mem_filter.mp member).1
    rw [plainLine_plainLine]
  have filled : ∀ line ∈ plainLines text, decide (line ≠ "") := by
    intro line member
    exact (List.mem_filter.mp member).2
  have cut := Text.splitLines_unlines unbroken
  generalize plainLines text = lines at *
  have same : lines.map (plainLine ∘ String.toList) = lines.map id := List.map_congr_left plain
  rw [plainLines, cut, List.map_map, same, List.map_id, List.filter_eq_self.mpr filled]

theorem digest_congr_of_plainLines {text other : String} (same : plainLines text = plainLines other) :
    (headedLines text).map digest = (headedLines other).map digest := by
  rw [← map_digest_plainLines, same, map_digest_plainLines]

/-- A text is read as its plain form is. -/
theorem Problem.parse_unlines_plainLines {F : Type} [Scalar F] [Literal F] (text : String)
    (problem : Problem F) :
    (parse (Text.unlines (plainLines text))).outcome = .ok problem ↔
      (parse text).outcome = .ok problem := by
  rw [outcome_parse, outcome_parse]
  exact read_congr (digest_congr_of_plainLines (plainLines_unlines text)) problem

/-- Texts are read as the same problem, or are both not read, if they are the same but for comments,
empty lines, the blanks around words, line ends and the case of headings. -/
theorem Problem.parse_ignores_layout {F : Type} [Scalar F] [Literal F] {text other : String}
    (same : plainLines text = plainLines other) (problem : Problem F) :
    (parse text).outcome = .ok problem ↔ (parse other).outcome = .ok problem := by
  rw [outcome_parse, outcome_parse]
  exact read_congr (digest_congr_of_plainLines same) problem

def Problem.looseText : String :=
  "# profit\r\n\tMAXIMIZE:  4 x\r\n\r\n   + 7\u00a0y # more\r\nSubject\u2003 To\n" ++
    " x\t+ y <= 10\r\nBounds\n\n  x >= 0\n END"

def Problem.tightText : String :=
  "maximize: 4 x\n+ 7 y\nsubject to\nx + y <= 10\nbounds\nx >= 0\nend\n"

def Problem.profit : Problem Rat where
  sense := .maximize
  objective := .sum [.scaled 4 "x", .scaled 7 "y"]
  constraints := [.simple .lessEqual (.sum [.bare "x", .bare "y"]) 10]
  bounds := [.simple .greaterEqual (.single (.bare "x")) 0]

theorem Problem.loose_read :
    plainLines looseText = plainLines tightText ∧ (parse looseText).outcome = .ok profit := by
  have same : plainLines looseText = plainLines tightText := by decide +kernel
  have read : (parse tightText).outcome = .ok profit := by decide +kernel
  exact ⟨same, (parse_ignores_layout same profit).mpr read⟩

end LinearProgram
