import LinearProgram.Proofs.Algebraic.Language
import LinearProgram.Proofs.Algebraic.Lexing
import LinearProgram.Proofs.Algebraic.Wording
import LinearProgram.Proofs.Text.Lines
import Mathlib

namespace LinearProgram

namespace Text

theorem toLower_of_not_isAlpha {c : Char} (other : c.isAlpha = false) : c.toLower = c := by
  apply Char.toLower_eq_of_not_isUpper
  rw [(Bool.or_eq_false_iff.mp other).1]
  exact Bool.false_ne_true

theorem isBlank_toLower (c : Char) : isBlank c.toLower = isBlank c := by
  cases letter : c.isAlpha with
  | false => rw [toLower_of_not_isAlpha letter]
  | true =>
    have lowered : c.toLower.isAlpha := by rw [Char.isAlpha_toLower_eq_isAlpha, letter]
    rw [isBlank_of_isLetter (by simp [isLetter, lowered]),
      isBlank_of_isLetter (by simp [isLetter, letter])]

theorem toLower_eq_iff {mark : Char} (noLetter : mark.isAlpha = false) (c : Char) :
    c.toLower = mark ↔ c = mark := by
  constructor
  · rintro rfl
    rw [Char.isAlpha_toLower_eq_isAlpha] at noLetter
    exact (toLower_of_not_isAlpha noLetter).symm
  · rintro rfl
    exact toLower_of_not_isAlpha noLetter

end Text

def digest (line : HeadedLine) : Option Heading × Option (List Token) :=
  (line.1, (Token.scan line.2).toOption)

theorem digest_split_congr {line other : List Char}
    (same : Heading.splitWords (Text.words line) = Heading.splitWords (Text.words other)) :
    digest (Heading.split line) = digest (Heading.split other) := by
  rw [← Heading.split_words, ← Heading.split_words, Prod.mk.injEq] at same
  rw [digest, digest, same.1, Token.toOption_scan_congr same.2]

theorem filterMap_digest (lines : List HeadedLine) :
    (lines.map digest).filterMap Prod.fst = headings lines := by
  rw [List.filterMap_map]
  rfl

theorem scans_iff_digest (lines : List HeadedLine) :
    (∀ line ∈ lines, ∃ tokens, Token.scan line.2 = .ok tokens) ↔
      ∀ read ∈ lines.map digest, read.2.isSome := by
  rw [List.forall_mem_map]
  apply forall₂_congr
  intro line _
  cases scanned : Token.scan line.2 <;> simp [digest, scanned, Except.toOption]

theorem tokenLines_eq_digest (lines : List HeadedLine) (place : Option Section) :
    tokenLines lines place = (withEarlier [] (lines.map digest)).filterMap fun entry =>
      if ((entry.1 ++ [entry.2]).filterMap Prod.fst).getLast?.map Heading.opens = place then
        entry.2.2.filter (· ≠ [])
      else none := by
  have mapped := withEarlier_map digest [] lines
  rw [List.map_nil] at mapped
  rw [mapped, List.filterMap_map, tokenLines]
  congr 1
  funext entry
  simp only [sectionAfter, ← filterMap_digest, List.map_append]
  rfl

section Digests

variable {lines others : List HeadedLine} (same : lines.map digest = others.map digest)
include same

theorem headings_congr : headings lines = headings others := by
  rw [← filterMap_digest, same, filterMap_digest]

theorem scans_congr : (∀ line ∈ lines, ∃ tokens, Token.scan line.2 = .ok tokens) ↔
    ∀ line ∈ others, ∃ tokens, Token.scan line.2 = .ok tokens := by
  rw [scans_iff_digest, same, ← scans_iff_digest]

theorem tokenLines_congr : tokenLines lines = tokenLines others := by
  funext place
  rw [tokenLines_eq_digest, same, ← tokenLines_eq_digest]

variable {F : Type} [Scalar F] [Literal F]

theorem Describes.congr {problem : Problem F} (described : Describes lines problem) :
    Describes others problem := by
  have first := headings_congr same
  have second := tokenLines_congr same
  exact ⟨first ▸ described.sense, second ▸ described.objective, second ▸ described.constraints,
    second ▸ described.bounds⟩

end Digests

/-- Texts are read alike if their lines are. -/
theorem Problem.read_congr {F : Type} [Scalar F] [Literal F] {text other : String}
    (same : (headedLines text).map digest = (headedLines other).map digest) (problem : Problem F) :
    Problem.read text = .ok problem ↔ Problem.read other = .ok problem := by
  have described : Describes (headedLines text) problem ↔ Describes (headedLines other) problem :=
    ⟨Describes.congr same, Describes.congr same.symm⟩
  rw [Problem.read_eq_ok, Problem.read_eq_ok, lines_fit_iff, lines_fit_iff, headings_congr same,
    scans_congr same, tokenLines_congr same, described]

def lineWords (line : List Char) : List String :=
  Text.words (line.takeWhile (· != '#'))

theorem forall_lineWords (line : List Char) : ∀ word ∈ lineWords line, IsWord word :=
  Text.forall_words _

def wordLines (text : String) : List (List String) :=
  ((Text.splitLines text.toList).map lineWords).filter (· ≠ [])

theorem forall_wordLines {text : String} {words : List String} (member : words ∈ wordLines text) :
    ∀ word ∈ words, IsWord word := by
  obtain ⟨inside, _⟩ := List.mem_filter.mp member
  obtain ⟨line, _, rfl⟩ := List.mem_map.mp inside
  exact forall_lineWords line

theorem map_digest_headedLines (text : String) :
    (headedLines text).map digest =
      (wordLines text).map fun words => digest (Heading.split (" ".intercalate words).toList) := by
  have filled : (fun line => !line.all Text.isBlank) =
      (fun words : List String => decide (words ≠ [])) ∘ Text.words := by
    funext line
    rw [Bool.eq_iff_iff, Bool.not_eq_true', ← Bool.not_eq_true, ← Text.words_eq_nil_iff]
    simp
  have cut : wordLines text = (((Text.splitLines text.toList).map fun line =>
      line.takeWhile (· != '#')).filter fun line => !line.all Text.isBlank).map Text.words := by
    rw [filled, ← List.filter_map, List.map_map]
    rfl
  rw [cut, headedLines, List.map_map, List.map_map]
  apply List.map_congr_left
  intro line _
  apply digest_split_congr
  rw [Text.words_intercalate (Text.forall_words line)]

theorem lineWords_append_return (line : List Char) :
    lineWords (line ++ ['\r']) = lineWords line := by
  have blank : ['\r'].all Text.isBlank := by decide
  rw [lineWords, lineWords, List.takeWhile_append]
  split
  · rename_i whole
    rw [(List.takeWhile_prefix _).eq_of_length whole]
    exact Text.words_append_blanks blank line
  · rfl

theorem wordLines_append {before line after : List Char}
    (starts : before = [] ∨ before.getLast? = some '\n') (whole : '\n' ∉ line)
    (ends : after = [] ∨ after.head? = some '\n') (filled : lineWords line ≠ []) :
    wordLines (String.ofList (before ++ (line ++ after))) =
      wordLines (String.ofList before) ++ lineWords line :: wordLines (String.ofList after) := by
  have front : Text.splitLines (before ++ (line ++ after)) =
      Text.splitLines before ++ Text.splitLines (line ++ after) := by
    rcases starts with rfl | starts
    · rfl
    · obtain ⟨front, rfl⟩ := List.getLast?_eq_some_iff.mp starts
      rw [List.append_assoc]
      exact Text.splitLines_append_break front _
  simp only [wordLines, String.toList_ofList, front, List.map_append, List.filter_append]
  congr 1
  rcases ends with rfl | ends
  · have nonempty : line ≠ [] := by
      rintro rfl
      exact filled rfl
    rw [List.append_nil, Text.splitLines_of_not_mem whole, if_neg nonempty]
    simp [filled, Text.splitLines]
  · obtain ⟨rest, rfl⟩ := List.head?_eq_some_iff.mp ends
    obtain ⟨kept, same, cut⟩ := Text.exists_splitLines_append whole
    have words : lineWords kept = lineWords line := by
      rcases same with rfl | rfl
      · rfl
      · exact (lineWords_append_return kept).symm
    have nothing : lineWords [] = [] := rfl
    simp [cut, words, filled, Text.splitLines, nothing]

theorem lineWords_ne_nil {line : List Char} {heading : Heading} {words : List String}
    (cut : Heading.splitWords (lineWords line) = (some heading, words)) : lineWords line ≠ [] := by
  intro empty
  rw [empty] at cut
  cases cut

theorem Problem.read_congr_line {F : Type} [Scalar F] [Literal F]
    {before line other after : List Char}
    (starts : before = [] ∨ before.getLast? = some '\n') (whole : '\n' ∉ line)
    (otherWhole : '\n' ∉ other) (ends : after = [] ∨ after.head? = some '\n')
    {heading : Heading} {words : List String}
    (cut : Heading.splitWords (lineWords line) = (some heading, words))
    (otherCut : Heading.splitWords (lineWords other) = (some heading, words))
    (problem : Problem F) :
    read (String.ofList (before ++ (line ++ after))) = .ok problem ↔
      read (String.ofList (before ++ (other ++ after))) = .ok problem := by
  have alike : digest (Heading.split (" ".intercalate (lineWords line)).toList) =
      digest (Heading.split (" ".intercalate (lineWords other)).toList) := by
    apply digest_split_congr
    rw [Text.words_intercalate (forall_lineWords line),
      Text.words_intercalate (forall_lineWords other), cut, otherCut]
  apply read_congr
  rw [map_digest_headedLines, map_digest_headedLines,
    wordLines_append starts whole ends (lineWords_ne_nil cut),
    wordLines_append starts otherWhole ends (lineWords_ne_nil otherCut), List.map_append,
    List.map_append, List.map_cons, List.map_cons, alike]

/-- The content of each line of a text that is read has tokens only. -/
theorem Problem.exists_scan_of_read {F : Type} [Scalar F] [Literal F] {text : String}
    {problem : Problem F} (read : Problem.read text = .ok problem) {words : List String}
    (member : words ∈ wordLines text) : ∃ content tokens,
      Text.words content = (Heading.splitWords words).2 ∧ Token.scan content = .ok tokens := by
  obtain ⟨_, scans, _⟩ := lines_fit_iff.mp (read_eq_ok.mp read).1
  have digests := (scans_iff_digest _).mp scans
  rw [map_digest_headedLines, List.forall_mem_map] at digests
  have whole := digests words member
  have cut := Heading.split_words (" ".intercalate words).toList
  rw [Text.words_intercalate (forall_wordLines member)] at cut
  generalize Heading.split (" ".intercalate words).toList = line at cut whole
  cases scanned : Token.scan line.2 with
  | error error => simp [digest, scanned, Except.toOption] at whole
  | ok tokens => exact ⟨line.2, tokens, congrArg Prod.snd cut, scanned⟩

end LinearProgram
