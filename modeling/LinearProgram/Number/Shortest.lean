namespace LinearProgram.Shortest

/-- A positive value and the interval of the numbers that round to it, as numerators over one
denominator. -/
structure Target where
  value : Nat
  low : Nat
  high : Nat
  denominator : Nat
  inclusive : Bool

/-- The target of a positive finite binary number of 64 bits, given by its bits. An exact power of
two is half as far from its lower neighbour as from its upper one. -/
def Target.ofBits (bits : Nat) : Target :=
  let fraction := bits % Nat.pow 2 52
  let exponent := bits / Nat.pow 2 52 % Nat.pow 2 11
  let mantissa := if exponent = 0 then fraction else Nat.pow 2 52 + fraction
  let power := max exponent 1
  let unit := Nat.pow 2 (power - 1077)
  let below := if fraction = 0 ∧ exponent ≠ 0 then 1 else 2
  { value := 4 * mantissa * unit
    low := (4 * mantissa - below) * unit
    high := (4 * mantissa + 2) * unit
    denominator := Nat.pow 2 (1077 - power)
    inclusive := mantissa % 2 = 0 }

def Target.contains (target : Target) (numerator scale : Nat) : Bool :=
  if target.inclusive then target.low * scale ≤ numerator && numerator ≤ target.high * scale
  else target.low * scale < numerator && numerator < target.high * scale

def countDigits (n : Nat) : Nat :=
  (Nat.toDigits 10 n).length

def placesToOne (denominator : Nat) : Nat → Nat → Nat
  | 0, _ => 0
  | limit + 1, numerator =>
    if denominator ≤ numerator then 0
    else placesToOne denominator limit (10 * numerator) + 1

def Target.leadingPower (target : Target) : Int :=
  if target.denominator ≤ target.value then
    (countDigits (target.value / target.denominator) : Int) - 1
  else -(placesToOne target.denominator 400 target.value : Int)

/-- The multiple of a power of ten inside the interval that is nearest to the value, if one of the
two around the value is inside. Of two that are equally near, the larger is taken. -/
def Target.onGrid (target : Target) (power : Int) : Option Nat :=
  let scale := Nat.pow 10 (-power).toNat
  let step := target.denominator * Nat.pow 10 power.toNat
  let below := target.value * scale / step
  let above := below + 1
  match target.contains (below * step) scale, target.contains (above * step) scale with
  | true, true =>
    some (if 2 * target.value * scale < (2 * below + 1) * step then below else above)
  | true, false => some below
  | false, true => some above
  | false, false => none

/-- The digits and the power of ten of the last one, with the fewest digits inside the interval;
seventeen are always enough. -/
def Target.digits (target : Target) : Nat × Int :=
  let leading := target.leadingPower
  ((List.range 17).findSome? fun (more : Nat) =>
    let power := leading - more
    (target.onGrid power).map fun n => (n, power)).getD (0, 0)

def positional (digits : List Char) (power : Int) : String :=
  let zeros := (digits.reverse.takeWhile (· == '0')).length
  let digits := digits.take (digits.length - zeros)
  let power := power + zeros
  let places := (-power).toNat
  let digits := List.replicate (places + 1 - digits.length) '0' ++ digits ++
    List.replicate power.toNat '0'
  let whole := digits.take (digits.length - places)
  let fraction := digits.drop (digits.length - places)
  String.ofList (if fraction = [] then whole else whole ++ '.' :: fraction)

def text (bits : Nat) : String :=
  let (digits, power) := (Target.ofBits bits).digits
  positional (Nat.toDigits 10 digits) power

end LinearProgram.Shortest
