import LinearProgram.Diagnostic

namespace LinearProgram

namespace Integer64

def maximum : Nat :=
  Nat.pow 2 63 - 1

def readDigits (limit : Nat) : List Char → { n : Nat // n ≤ limit } →
    Except NumberFault { n : Nat // n ≤ limit }
  | [], value => .ok value
  | c :: rest, value =>
    if c.isDigit then
      if fits : 10 * value.1 + (c.toNat - '0'.toNat) ≤ limit then
        readDigits limit rest ⟨_, fits⟩
      else .error .tooLarge
    else .error .invalidDigit

def readNatural (limit : Nat) (text : List Char) : Except NumberFault { n : Nat // n ≤ limit } :=
  if text = [] then .error .emptyInteger else readDigits limit text ⟨0, Nat.zero_le _⟩

def read (text : String) : Except NumberFault Int :=
  match text.toList with
  | ['-'] => .error .invalidDigit
  | ['+'] => .error .invalidDigit
  | '-' :: digits =>
    match readNatural (maximum + 1) digits with
    | .ok magnitude => .ok (-(magnitude : Int))
    | .error .tooLarge => .error .tooSmall
    | .error fault => .error fault
  | '+' :: digits => (readNatural maximum digits).map fun magnitude => (magnitude : Int)
  | digits => (readNatural maximum digits).map fun magnitude => (magnitude : Int)

end Integer64

structure Decimal where
  negative : Bool
  digits : Nat
  places : Nat
  digits_le : digits ≤ Integer64.maximum
  places_le : places ≤ 18

namespace Decimal

def numerator (decimal : Decimal) : Int :=
  if decimal.negative then -decimal.digits else decimal.digits

def denominator (decimal : Decimal) : Nat :=
  Nat.pow 10 decimal.places

def value (decimal : Decimal) : Rat :=
  mkRat decimal.numerator decimal.denominator

def splitSign : List Char → Bool × List Char
  | '-' :: digits => (true, digits)
  | '+' :: digits => (false, digits)
  | digits => (false, digits)

def isDigitOrPoint (c : Char) : Bool :=
  c.isDigit || c == '.'

def readPart (part : DecimalPart) (text : List Char) :
    Except ParseError { n : Nat // n ≤ Integer64.maximum } :=
  if text = [] then .ok ⟨0, Nat.zero_le _⟩
  else (Integer64.readNatural Integer64.maximum text).mapError
    (.ofFault (.unreadableInteger part (String.ofList text)))

/-- Reads digits with at most one point among them, which stay within 64 bits also when the point
is left out. Places that cannot be counted with 32 bits are refused before any digit is read. -/
def readUnsigned (text : String) (negative : Bool) (body : List Char) :
    Except ParseError Decimal :=
  match body.span (· ≠ '.') with
  | (whole, []) => do
    let digits ← readPart .entire whole
    .ok ⟨negative, digits, 0, digits.2, Nat.zero_le _⟩
  | (whole, _ :: fraction) =>
    if Nat.pow 2 32 ≤ fraction.length then .error (.new (.tooManyDigits text))
    else do
      let high ← readPart .integer whole
      let low ← readPart .mantissa fraction
      if places_le : fraction.length ≤ 18 then
        if digits_le : high * Nat.pow 10 fraction.length + low ≤ Integer64.maximum then
          .ok ⟨negative, _, _, digits_le, places_le⟩
        else .error (.new (.tooManyDigits text))
      else .error (.new (.tooManyDigits text))

def read (text : String) : Except ParseError Decimal :=
  let (negative, body) := splitSign text.toList
  if body = [] ∨ body = ['.'] then .error (.new (.noDigits text))
  else if !body.all isDigitOrPoint then .error (.new (.notDecimal text))
  else readUnsigned text negative body

theorem natAbs_numerator (decimal : Decimal) : decimal.numerator.natAbs = decimal.digits := by
  unfold numerator
  split <;> simp

theorem denominator_pos (decimal : Decimal) : 0 < decimal.denominator :=
  Nat.pow_pos (by decide)

theorem denominator_lt (decimal : Decimal) : decimal.denominator < Nat.pow 2 64 :=
  calc Nat.pow 10 decimal.places
    _ ≤ Nat.pow 10 18 := Nat.pow_le_pow_right (by decide) decimal.places_le
    _ < Nat.pow 2 64 := by decide

end Decimal

end LinearProgram
