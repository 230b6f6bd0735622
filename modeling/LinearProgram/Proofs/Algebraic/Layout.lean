import LinearProgram.Proofs.Algebraic.Lexing
import LinearProgram.Proofs.Algebraic.Sections
import LinearProgram.Proofs.Text.Lines
import Mathlib.Data.List.TakeDrop

namespace LinearProgram

structure IsLine (text : String) : Prop where
  unbroken : IsUnbroken text
  not_blank : text.toList.all Text.isBlank = false

instance (text : String) : Decidable (IsLine text) :=
  decidable_of_iff (IsUnbroken text ∧ text.toList.all Text.isBlank = false)
    ⟨fun both => ⟨both.1, both.2⟩, fun line => ⟨line.unbroken, line.not_blank⟩⟩

theorem headedLines_unlines {lines : List String} (isLine : ∀ line ∈ lines, IsLine line) :
    headedLines (Text.unlines lines) = lines.map fun line => Heading.split line.toList := by
  have whole : (lines.map String.toList).map (fun line => line.takeWhile (· != '#')) =
      lines.map String.toList := by
    rw [List.map_map]
    exact List.map_congr_left fun line member => (isLine line member).unbroken.takeWhile
  have kept : (lines.map String.toList).filter (fun line => !line.all Text.isBlank) =
      lines.map String.toList := by
    rw [List.filter_eq_self, List.forall_mem_map]
    intro line member
    rw [(isLine line member).not_blank, Bool.not_false]
  have cut := Text.splitLines_unlines fun line member => (isLine line member).unbroken
  rw [headedLines, cut, whole, kept, List.map_map]
  rfl

namespace Heading

theorem trimColons_starts (word : List Char) : trimColons word <+: word :=
  List.rdropWhile_prefix _ _

theorem firstWord_starts (line : List Char) :
    (Text.firstWord line).1 <+: Text.dropBlanks line := by
  rw [Text.firstWord, List.span_eq_takeWhile_dropWhile]
  exact List.takeWhile_prefix _

abbrev StartsWithLetter (keyword : String) : Prop :=
  keyword.toList.head?.any Char.isAlpha

section Letters

variable {c : Char} {line rest : List Char}

theorem lowered_ne (noLetter : c.isAlpha = false) {part : List Char} (start : part <+: c :: rest)
    {keyword : String} (letter : StartsWithLetter keyword) : lowered part ≠ keyword := by
  rintro rfl
  cases part with
  | nil => cases letter
  | cons d part =>
    obtain ⟨rfl, _⟩ := List.cons_prefix_cons.mp start
    have unchanged : d.toLower = d := by
      have noUpper := (Bool.or_eq_false_iff.mp noLetter).1
      exact dif_neg (of_decide_eq_false noUpper)
    simp [StartsWithLetter, lowered, unchanged, noLetter] at letter

variable (nonblank : Text.dropBlanks line = c :: rest) (noLetter : c.isAlpha = false)
include nonblank noLetter

theorem afterWords?_of_not_isAlpha {first : String} (letter : StartsWithLetter first)
    (others : List String) : afterWords? (first :: others) line = none := by
  have word := nonblank ▸ firstWord_starts line
  have trimmed := (trimColons_starts _).trans word
  cases others with
  | nil => simp [afterWords?, lowered_ne noLetter trimmed letter]
  | cons second others => simp [afterWords?, lowered_ne noLetter word letter]

theorem split_of_not_isAlpha : split line = (none, line) := by
  have trimmed := (trimColons_starts _).trans (nonblank ▸ firstWord_starts line)
  have noKeyword : keywords.lookup (lowered (trimColons (Text.firstWord line).1)) = none := by
    have letters : ∀ entry ∈ keywords, StartsWithLetter entry.1 := by decide +kernel
    rw [List.lookup_eq_none_iff]
    intro entry member
    simp [lowered_ne noLetter trimmed (letters entry member)]
  have noWords : constraintWords.findSome? (afterWords? · line) = none := by
    rw [List.findSome?_eq_none_iff]
    intro words member
    simp only [constraintWords, List.mem_cons, List.not_mem_nil, or_false] at member
    rcases member with rfl | rfl | rfl | rfl <;>
      exact afterWords?_of_not_isAlpha nonblank noLetter (by decide +kernel) _
  simp only [split, noKeyword, noWords]

end Letters

/-- The words of a heading are identifiers. -/
theorem split_of_scan {line : List Char} {token : Token} {tokens : List Token}
    (scanned : Token.scan line = .ok (token :: tokens))
    (unnamed : ∀ name, token ≠ .identifier name) : split line = (none, line) := by
  obtain ⟨c, rest, lexeme, nonblank, found, rfl⟩ := Token.exists_first_of_scan scanned
  apply split_of_not_isAlpha nonblank
  rw [← Bool.not_eq_true]
  intro letter
  have start : Lexeme.isNameStart c := by simp [Lexeme.isNameStart, Text.isLetter, letter]
  rw [Lexeme.first?_of_isNameStart start] at found
  cases found
  exact unnamed _ rfl

theorem firstWord_append_blank {word : List Char} (solid : word.all (!Text.isBlank ·))
    (nonempty : word ≠ []) {b : Char} (blank : Text.isBlank b) (rest : List Char) :
    Text.firstWord (word ++ b :: rest) = (word, b :: rest) := by
  have start : Text.dropBlanks (word ++ b :: rest) = word ++ b :: rest := by
    cases word with
    | nil => exact absurd rfl nonempty
    | cons c word =>
      rw [List.all_cons, Bool.and_eq_true, Bool.not_eq_true'] at solid
      exact Text.dropBlanks_of_solid solid.1 _
  have whole := List.all_eq_true.mp solid
  rw [Text.firstWord, start, List.span_eq_takeWhile_dropWhile, List.takeWhile_append_of_pos whole,
    List.dropWhile_append_of_pos whole]
  simp [blank]

/-- A text that scans does not start with a colon. -/
theorem scan_afterColon {text : List Char} {tokens : List Token}
    (scanned : Token.scan text = .ok tokens) : Token.scan (afterColon text) = .ok tokens := by
  obtain ⟨lexemes, found, rfl⟩ := Token.scan_eq_ok.mp scanned
  refine Token.scan_eq_ok.mpr ⟨lexemes, ?_, rfl⟩
  rw [afterColon]
  split
  -- No lexeme starts with the colon that would be cut off.
  · rename_i rest colon
    rw [Lexeme.scan_eq, colon] at found
    cases found
  · rw [Lexeme.scan_dropBlanks, found]

theorem split_sense (sense : Sense) {content : List Char} {tokens : List Token}
    (scanned : Token.scan content = .ok tokens) : ∃ rest,
      split (sense.keyword.toList ++ ' ' :: content) = (some (.objective sense), rest) ∧
        Token.scan rest = .ok tokens := by
  have word : Text.firstWord (sense.keyword.toList ++ ' ' :: content) =
      (sense.keyword.toList, ' ' :: content) := by
    apply firstWord_append_blank _ _ (by decide)
    · cases sense <;> decide
    · cases sense <;> decide
  have found : keywords.lookup (lowered (trimColons sense.keyword.toList)) =
      some (.objective sense) := by
    cases sense <;> decide +kernel
  refine ⟨afterColon (' ' :: content), ?_, ?_⟩
  · simp only [split, word, found]
  · exact scan_afterColon (Token.scan_append_blank (b := ' ') rfl Token.scan_nil scanned)

end Heading

theorem sectionAfter_headed (lines : List HeadedLine) (heading : Heading) (content : List Char) :
    sectionAfter (lines ++ [(some heading, content)]) = some heading.opens := by
  rw [sectionAfter, headings_concat]
  simp

theorem sectionAfter_headless (lines : List HeadedLine) (content : List Char) :
    sectionAfter (lines ++ [(none, content)]) = sectionAfter lines := by
  rw [sectionAfter, headings_concat]
  simp [sectionAfter]

theorem tokenLines_headed {content : List Char} {tokens : List Token} (heading : Heading)
    (scanned : Token.scan content = .ok tokens) (nonempty : tokens ≠ []) (place : Option Section) :
    tokenLines [(some heading, content)] place =
      if some heading.opens = place then [tokens] else [] := by
  have added : tokenLines ([] ++ [(some heading, content)]) = _ :=
    tokenLines_concat scanned nonempty
  rw [sectionAfter_headed] at added
  exact congrFun added place

theorem tokenLines_append_headless {α : Type} {items : List α} {content : α → List Char}
    {tokens : α → List Token} (lines : List HeadedLine)
    (scanned : ∀ item ∈ items, Token.scan (content item) = .ok (tokens item))
    (nonempty : ∀ item ∈ items, tokens item ≠ []) (place : Option Section) :
    tokenLines (lines ++ items.map fun item => (none, content item)) place =
      tokenLines lines place ++ if sectionAfter lines = place then items.map tokens else [] := by
  induction items generalizing lines with
  | nil => simp
  | cons item items ih =>
    obtain ⟨first, others⟩ := List.forall_mem_cons.mp scanned
    obtain ⟨full, more⟩ := List.forall_mem_cons.mp nonempty
    rw [List.map_cons, List.append_cons, ih _ others more, tokenLines_concat first full,
      sectionAfter_headless]
    by_cases here : sectionAfter lines = place <;> simp [here]

def headedSection (heading : Heading) (contents : List (List Char)) : List HeadedLine :=
  (some heading, []) :: contents.map fun content => (none, content)

theorem headings_append_section (lines : List HeadedLine) (heading : Heading)
    (contents : List (List Char)) :
    headings (lines ++ headedSection heading contents) = headings lines ++ [heading] := by
  simp [headings, headedSection, List.filterMap_map]

theorem tokenLines_append_section {α : Type} {items : List α} {content : α → List Char}
    {tokens : α → List Token} (lines : List HeadedLine) (heading : Heading)
    (scanned : ∀ item ∈ items, Token.scan (content item) = .ok (tokens item))
    (nonempty : ∀ item ∈ items, tokens item ≠ []) (place : Option Section) :
    tokenLines (lines ++ headedSection heading (items.map content)) place =
      tokenLines lines place ++ if some heading.opens = place then items.map tokens else [] := by
  have headless := tokenLines_append_headless (lines ++ [(some heading, [])]) scanned nonempty place
  rw [sectionAfter_headed, tokenLines_concat_nil Token.scan_nil] at headless
  rw [headedSection, List.map_map, List.append_cons]
  exact headless

end LinearProgram
