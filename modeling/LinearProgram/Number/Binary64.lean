import LinearProgram.Number.Scalar
import LinearProgram.Number.Shortest

namespace LinearProgram.Binary64

def infinity : Float :=
  1.0 / 0.0

def notANumber : Float :=
  0.0 / 0.0

/-- The number nearest to digits times a power of ten. Beyond 400 places on either side of the
point the answer does not depend on the digits. -/
def ofDigits (digits : Nat) (power : Int) : Float :=
  let size := (Shortest.countDigits digits : Int) + power
  if digits = 0 then 0.0
  else if size < -400 then 0.0
  else if 400 < size then infinity
  else Float.ofScientific digits (power < 0) power.natAbs

def exponent? : List Char → Option Int
  | [] => some 0
  | letter :: rest =>
    let (negative, digits) := Decimal.splitSign rest
    if letter == 'e' || letter == 'E' then
      (Rational.natural? digits).map fun n => if negative then -n else n
    else none

def decimal? (text : List Char) : Option Float := do
  let (whole, rest) := text.span Char.isDigit
  let (fraction, rest) := match rest with
    | '.' :: more => more.span Char.isDigit
    | _ => ([], rest)
  let power ← exponent? rest
  let digits ← Rational.natural? (whole ++ fraction)
  some (ofDigits digits (power - fraction.length))

def magnitude? (text : List Char) : Option Float :=
  let word := String.ofList (text.map Char.toLower)
  if word = "inf" ∨ word = "infinity" then some infinity
  else if word = "nan" then some notANumber
  else decimal? text

def read (text : String) : Except NumberFault Float :=
  if text = "" then .error .emptyFloat
  else
    let (negative, body) := Decimal.splitSign text.toList
    match magnitude? body with
    | some value => .ok (if negative then -value else value)
    | none => .error .invalidFloat

def render (value : Float) : String :=
  let bits := value.toBits.toNat
  let magnitude := bits % Nat.pow 2 63
  let sign := if magnitude < bits then "-" else ""
  if value.isNaN then "NaN"
  else if value.isInf then sign ++ "inf"
  else if magnitude = 0 then sign ++ "0"
  else sign ++ Shortest.text magnitude

instance : Scalar Float where
  zero := 0.0
  one := 1.0
  neg value := -value
  eq a b := a == b
  lt a b := decide (a < b)
  le a b := decide (a ≤ b)
  divide a b := .ok (a / b)
  subtract a b := .ok (a - b)
  render := render
  parse? text := (read text).toOption

instance : Literal Float where
  read text :=
    match read text with
    | .ok value => if value.isFinite then .ok value else .error (.new (.notFinite text))
    | .error fault => .error (.ofFault (.unreadableFloat text) fault)

end LinearProgram.Binary64
