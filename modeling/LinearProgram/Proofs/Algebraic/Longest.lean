import LinearProgram.Proofs.Algebraic.Lexing

namespace LinearProgram

namespace Lexeme

inductive Spells : List Char → Token → Prop where
  | number {digits : List Char} (nonempty : digits ≠ [])
    (all : ∀ c ∈ digits, Decimal.isDigitOrPoint c) :
    Spells digits (.number (String.ofList digits))
  | identifier {c : Char} {parts : List Char} (start : isNameStart c)
    (all : ∀ part ∈ parts, isNamePart part) :
    Spells (c :: parts) (.identifier (String.ofList (c :: parts)))
  | plus : Spells ['+'] .plus
  | minus : Spells ['-'] .minus
  | times : Spells ['*'] .times
  | operator {spelling : List Char} {comparator : Comparator}
    (listed : (spelling, comparator) ∈ Comparator.spellings) :
    Spells spelling (.comparator comparator)

def NoneStarts (text : List Char) : Prop :=
  ∀ spelling token, Spells spelling token → ¬ spelling <+: text

structure IsLongest (lexeme : Lexeme) (text : List Char) : Prop where
  spells : Spells lexeme.spelling lexeme.token
  starts : lexeme.spelling <+: text
  longest : ∀ spelling token, Spells spelling token → spelling <+: text →
    spelling.length ≤ lexeme.spelling.length

/-- No character of an operator starts a lexeme of another kind. -/
theorem operators_apart : ∀ entry ∈ Comparator.spellings, entry.1.all fun c =>
    !Decimal.isDigitOrPoint c && !isNameStart c && !(['+', '-', '*'].contains c) := by
  decide +kernel

namespace Spells

variable {spelling : List Char} {token : Token}

theorem solid (spells : Spells spelling token) : ∀ c ∈ spelling, Text.isBlank c = false := by
  cases spells with
  | number _ all => exact fun c member => Text.isBlank_of_isDigitOrPoint (all c member)
  | identifier start all =>
    intro c member
    rcases List.mem_cons.mp member with rfl | member
    · exact isBlank_of_isNamePart (isNamePart_of_isNameStart start)
    · exact isBlank_of_isNamePart (all c member)
  | plus | minus | times =>
    intro c member
    obtain rfl := List.mem_singleton.mp member
    decide
  | operator listed =>
    have solid : ∀ entry ∈ Comparator.spellings, entry.1.all (!Text.isBlank ·) := by decide
    simpa using solid _ listed

section Head

variable {c : Char} {more : List Char}

end Head

end Spells

section First

variable {c : Char} {rest : List Char}

end First

end Lexeme

end LinearProgram
