import LinearProgram.Number.Decimal

namespace LinearProgram

inductive Overflow where
  | multiply
  | add
deriving DecidableEq

def Overflow.message : Overflow → String
  | .multiply => "attempt to multiply with overflow"
  | .add => "attempt to add with overflow"

/-- The numbers that a linear program can be written in. Only divisions and subtractions can fail,
and a text that shows a number is one that can be read. -/
class Scalar (F : Type) where
  zero : F
  one : F
  neg : F → F
  eq : F → F → Bool
  lt : F → F → Bool
  le : F → F → Bool
  divide : F → F → Except Overflow F
  subtract : F → F → Except Overflow F
  render : F → String
  parse? : String → Option F

def Scalar.isZero {F : Type} [Scalar F] (value : F) : Bool :=
  eq value zero

class Literal (F : Type) where
  read : String → Except ParseError F

namespace Rational

def render (value : Rat) : String :=
  let sign := if value.num < 0 then "-" else ""
  let denominator := if value.den = 1 then "" else "/" ++ Nat.repr value.den
  sign ++ Nat.repr value.num.natAbs ++ denominator

def natural? (digits : List Char) : Option Nat :=
  if digits ≠ [] ∧ digits.all Char.isDigit then some (Nat.ofDigitChars 10 digits 0) else none

def parse? (text : String) : Option Rat := do
  let (negative, body) := Decimal.splitSign text.toList
  let (upper, lower) := body.span (· ≠ '/')
  let numerator ← natural? upper
  let denominator ← match lower with
    | [] => some 1
    | _ :: digits => natural? digits
  if denominator = 0 then none
  else some (mkRat (if negative then -numerator else numerator) denominator)

instance : Scalar Rat where
  zero := 0
  one := 1
  neg value := -value
  eq a b := a == b
  lt a b := decide (a < b)
  le a b := decide (a ≤ b)
  divide a b := .ok (a / b)
  subtract a b := .ok (a - b)
  render := render
  parse? := parse?

instance : Literal Rat where
  read text := (Decimal.read text).map Decimal.value

end Rational

end LinearProgram
