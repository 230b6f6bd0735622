import LinearProgram.Number.Decimal
import LinearProgram.Text.Basic
import LinearProgram.Text.Letter

namespace LinearProgram

structure Lexeme where
  token : Token
  spelling : List Char

/-- The spellings of the comparison operators; no spelling stands after one that begins it. -/
def Comparator.spellings : List (List Char × Comparator) :=
  [(['<', '='], .lessEqual), (['=', '<'], .lessEqual), (['>', '='], .greaterEqual),
   (['=', '>'], .greaterEqual), (['=', '='], .equal), (['!', '='], .notEqual),
   (['<', '>'], .notEqual), (['='], .equal), (['<'], .less), (['>'], .greater)]

namespace Lexeme

def isNameStart (c : Char) : Bool :=
  Text.isLetter c || c == '_'

def isNamePart (c : Char) : Bool :=
  Text.isLetter c || Text.isNumeral c || c == '_' || c == '[' || c == ']' || c == '\x27'

def operator? (text : List Char) : Option Lexeme :=
  (Comparator.spellings.find? fun entry => entry.1.isPrefixOf text).map fun entry =>
    ⟨.comparator entry.2, entry.1⟩

/-- The longest lexeme at the start of a text that begins with the given character. -/
def first? (c : Char) (rest : List Char) : Option Lexeme :=
  if Decimal.isDigitOrPoint c then
    let spelling := c :: rest.takeWhile Decimal.isDigitOrPoint
    some ⟨.number (String.ofList spelling), spelling⟩
  else if isNameStart c then
    let spelling := c :: rest.takeWhile isNamePart
    some ⟨.identifier (String.ofList spelling), spelling⟩
  else if c = '+' then some ⟨.plus, ['+']⟩
  else if c = '-' then some ⟨.minus, ['-']⟩
  else if c = '*' then some ⟨.times, ['*']⟩
  else operator? (c :: rest)

def scan (text : List Char) : Except Char (List Lexeme) :=
  match _ : Text.dropBlanks text with
  | [] => .ok []
  | c :: rest =>
    match first? c rest with
    | none => .error c
    | some lexeme =>
      (scan (rest.drop (lexeme.spelling.length - 1))).map (lexeme :: ·)
termination_by text.length
decreasing_by
  rename_i found
  have shorter := Text.length_dropBlanks_le text
  rw [found, List.length_cons] at shorter
  rw [List.length_drop]
  omega

end Lexeme

def Token.scan (content : List Char) : Except ParseError (List Token) :=
  match Lexeme.scan content with
  | .ok lexemes => .ok (lexemes.map Lexeme.token)
  | .error c => .error (.new (.unexpectedCharacter c (String.ofList content)))

end LinearProgram
