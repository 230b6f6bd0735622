import LinearProgram.Algebraic.Lexeme
import LinearProgram.Proofs.Text.Words

namespace LinearProgram

namespace Text

abbrev SpansApart (first second : List (Nat × Nat)) : Prop :=
  ∀ a ∈ first, ∀ b ∈ second, a.2 < b.1 ∨ b.2 < a.1

theorem inSpans_of_apart {first second : List (Nat × Nat)} (apart : SpansApart first second)
    {c : Char} (inside : inSpans second c) : inSpans first c = false := by
  rw [← Bool.not_eq_true, inSpans_iff]
  rintro ⟨a, memberA, lowA, highA⟩
  obtain ⟨b, memberB, lowB, highB⟩ := inSpans_iff.mp inside
  have separate := apart a memberA b memberB
  omega

def asciiLetterSpans : List (Nat × Nat) :=
  [(65, 90), (97, 122)]

def pointDigitSpans : List (Nat × Nat) :=
  [(46, 46), (48, 57)]

theorem inSpans_of_isAlpha {c : Char} (letter : c.isAlpha) : inSpans asciiLetterSpans c := by
  rw [inSpans_iff]
  rcases Bool.or_eq_true_iff.mp letter with upper | lower
  · exact ⟨(65, 90), by decide, of_decide_eq_true upper⟩
  · obtain ⟨low, high⟩ := Bool.and_eq_true_iff.mp lower
    exact ⟨(97, 122), by decide, of_decide_eq_true low, of_decide_eq_true high⟩

theorem inSpans_of_isDigitOrPoint {c : Char} (inside : Decimal.isDigitOrPoint c) :
    inSpans pointDigitSpans c := by
  rw [Decimal.isDigitOrPoint, Bool.or_eq_true, beq_iff_eq] at inside
  rw [inSpans_iff]
  rcases inside with digit | rfl
  · exact ⟨(48, 57), by decide, Char.isDigit_iff_toNat.mp digit⟩
  · exact ⟨(46, 46), by decide, by decide⟩

theorem isBlank_of_isDigitOrPoint {c : Char} (inside : Decimal.isDigitOrPoint c) :
    isBlank c = false :=
  inSpans_of_apart (by decide) (inSpans_of_isDigitOrPoint inside)

theorem isBlank_of_isLetter {c : Char} (letter : isLetter c) : isBlank c = false := by
  rw [isLetter, Bool.or_eq_true, Bool.and_eq_true] at letter
  rcases letter with ascii | ⟨_, other⟩
  · exact inSpans_of_apart (by decide) (inSpans_of_isAlpha ascii)
  · exact inSpans_of_apart (by decide +kernel) other

theorem isBlank_of_isNumeral {c : Char} (numeral : isNumeral c) : isBlank c = false := by
  rw [isNumeral, Bool.or_eq_true, Bool.and_eq_true] at numeral
  rcases numeral with digit | ⟨_, other⟩
  · exact isBlank_of_isDigit digit
  · exact inSpans_of_apart (by decide +kernel) other

theorem isDigitOrPoint_of_isLetter {c : Char} (letter : isLetter c) :
    Decimal.isDigitOrPoint c = false := by
  have noSpan : inSpans pointDigitSpans c = false := by
    rw [isLetter, Bool.or_eq_true, Bool.and_eq_true] at letter
    rcases letter with ascii | ⟨_, other⟩
    · exact inSpans_of_apart (by decide) (inSpans_of_isAlpha ascii)
    · exact inSpans_of_apart (by decide +kernel) other
  rw [← Bool.not_eq_true]
  intro inside
  rw [inSpans_of_isDigitOrPoint inside] at noSpan
  cases noSpan

end Text

namespace Lexeme

theorem isBlank_of_isNamePart {c : Char} (part : isNamePart c) : Text.isBlank c = false := by
  simp only [isNamePart, Bool.or_eq_true, beq_iff_eq] at part
  rcases part with ((((letter | numeral) | rfl) | rfl) | rfl) | rfl
  · exact Text.isBlank_of_isLetter letter
  · exact Text.isBlank_of_isNumeral numeral
  all_goals decide

theorem isNamePart_of_isNameStart {c : Char} (start : isNameStart c) : isNamePart c := by
  rw [isNameStart, Bool.or_eq_true] at start
  rcases start with letter | underscore
  · simp [isNamePart, letter]
  · simp [isNamePart, underscore]

theorem isDigitOrPoint_of_isNameStart {c : Char} (start : isNameStart c) :
    Decimal.isDigitOrPoint c = false := by
  rw [isNameStart, Bool.or_eq_true, beq_iff_eq] at start
  rcases start with letter | rfl
  · exact Text.isDigitOrPoint_of_isLetter letter
  · decide

end Lexeme

def Text.IsName : List Char → Prop
  | [] => False
  | c :: rest => (isLetter c ∨ c = '_') ∧
    ∀ part ∈ rest, isLetter part ∨ isNumeral part ∨ part ∈ ['_', '[', ']', '\x27']

instance : DecidablePred Text.IsName
  | [] => inferInstanceAs (Decidable False)
  | _ :: rest => @instDecidableAnd _ _ inferInstance (List.decidableBAll _ rest)

theorem Text.IsName.exists_start {name : List Char} (isName : IsName name) :
    ∃ c rest, name = c :: rest ∧ Lexeme.isNameStart c ∧ rest.all Lexeme.isNamePart := by
  cases name with
  | nil => cases isName
  | cons c rest =>
    refine ⟨c, rest, rfl, ?_, ?_⟩
    · simpa [Lexeme.isNameStart] using isName.1
    · simpa [Lexeme.isNamePart, or_assoc] using isName.2

theorem Text.all_isNamePart {name : List Char} (isName : IsName name) :
    name.all Lexeme.isNamePart := by
  obtain ⟨c, rest, rfl, start, parts⟩ := isName.exists_start
  rw [List.all_cons, Lexeme.isNamePart_of_isNameStart start, parts, Bool.and_self]

end LinearProgram
