import LinearProgram.Number.Fraction64
import LinearProgram.Proofs.Guarded.Text
import LinearProgram.Proofs.Number.Decimal

namespace LinearProgram

-- Arithmetic on machine words that notices when a result is out of range.
namespace Word

def checkedSub (a b : Nat) : Option Nat :=
  if b ≤ a then some (a - b) else none

def checkedMul (limit a b : Nat) : Option Nat :=
  if a * b ≤ limit then some (a * b) else none

def checkedAdd (limit a b : Nat) : Option Nat :=
  if a + b ≤ limit then some (a + b) else none

def checkedPow (limit base : Nat) : Nat → Option Nat
  | 0 => some 1
  | exponent + 1 => (checkedPow limit base exponent).bind (checkedMul limit · base)

theorem checkedPow_eq {limit base : Nat} (positive : 0 < limit) (growing : 0 < base)
    (exponent : Nat) :
    checkedPow limit base exponent =
      if Nat.pow base exponent ≤ limit then some (Nat.pow base exponent) else none := by
  induction exponent with
  | zero => exact (if_pos positive).symm
  | succ exponent ih =>
    have larger : Nat.pow base exponent ≤ Nat.pow base (exponent + 1) :=
      Nat.pow_le_pow_right growing (Nat.le_succ exponent)
    rw [checkedPow, ih]
    split
    · rfl
    · rename_i beyond
      rw [if_neg (by omega)]
      rfl

end Word

inductive Sign where
  | zero
  | negative
  | positive
deriving DecidableEq

def Sign.of (negative : Bool) (magnitude : Nat) : Sign :=
  if magnitude = 0 then .zero else if negative then .negative else .positive

def Sign.apply (sign : Sign) (magnitude : Nat) : Int :=
  match sign with
  | .zero => 0
  | .negative => -magnitude
  | .positive => magnitude

@[ext]
structure Raw where
  sign : Sign
  integer : Nat
  places : Nat
deriving DecidableEq

namespace Raw

def join? (high low places : Nat) : Option Nat := do
  let shift ← Word.checkedPow Integer64.maximum 10 places
  let shifted ← Word.checkedMul Integer64.maximum high shift
  Word.checkedAdd Integer64.maximum shifted low

def readDigits (source : String) (digits : List Char) : Guarded ParseError (Nat × Nat) :=
  match Text.findByte (· == '.') digits with
  | none => do
    let integer ← Guarded.sound (Decimal.readPart .entire digits)
    .ok (integer, 0)
  | some point => do
    let rest ← Guarded.demand (Word.checkedSub (Text.byteLength digits) point) .overflow
    let places ← Guarded.demand (Word.checkedSub rest 1) .overflow
    if Nat.pow 2 32 ≤ places then Guarded.fail (.new (.tooManyDigits source))
    else do
      let whole ← Text.before point digits
      let high ← Guarded.sound (Decimal.readPart .integer whole)
      let fraction ← Text.behind (point + 1) digits
      let low ← Guarded.sound (Decimal.readPart .mantissa fraction)
      match join? high low places with
      | some integer => .ok (integer, places)
      | none => Guarded.fail (.new (.tooManyDigits source))

def splitSign (text : List Char) : Guarded ParseError (Bool × List Char) :=
  if text.head? = some '-' then (Text.behind 1 text).map fun digits => (true, digits)
  else if text.head? = some '+' then (Text.behind 1 text).map fun digits => (false, digits)
  else .ok (false, text)

def read (source : String) : Guarded ParseError Raw := do
  let signed ← splitSign source.toList
  if signed.2 = [] ∨ signed.2 = ['.'] then Guarded.fail (.new (.noDigits source))
  else if !signed.2.all Decimal.isDigitOrPoint then Guarded.fail (.new (.notDecimal source))
  else do
    let number ← readDigits source signed.2
    .ok ⟨Sign.of signed.1 number.1, number.1, number.2⟩

def fraction (raw : Raw) : Guarded ParseError (Nat × Nat) := do
  let power ← Guarded.demand (Word.checkedPow (Nat.pow 2 64 - 1) 10 raw.places) .overflow
  .ok (raw.integer, power)

def ofDecimal (decimal : Decimal) : Raw :=
  ⟨Sign.of decimal.negative decimal.digits, decimal.digits, decimal.places⟩

theorem splitSign_eq (text : List Char) :
    splitSign text = .ok (Decimal.splitSign text) := by
  have size : Text.byteLength ['-'] = 1 ∧ Text.byteLength ['+'] = 1 := by decide
  have minus (rest : List Char) := Text.behind_append (ε := ParseError) ['-'] rest
  have plus (rest : List Char) := Text.behind_append (ε := ParseError) ['+'] rest
  simp only [size, List.singleton_append] at minus plus
  unfold splitSign Decimal.splitSign
  split
  · rename_i starts
    obtain ⟨rest, rfl⟩ := List.head?_eq_some_iff.mp starts
    rw [minus]
    rfl
  · rename_i noMinus
    split
    · rename_i starts
      obtain ⟨rest, rfl⟩ := List.head?_eq_some_iff.mp starts
      rw [plus]
      rfl
    · rename_i noPlus
      split
      · exact absurd rfl noMinus
      · exact absurd rfl noPlus
      · rfl

theorem join?_eq (high low places : Nat) :
    join? high low places =
      if places ≤ 18 ∧ high * Nat.pow 10 places + low ≤ Integer64.maximum then
        some (high * Nat.pow 10 places + low)
      else none := by
  have power := Word.checkedPow_eq (by decide : 0 < Integer64.maximum) (by decide : 0 < 10) places
  have few : Nat.pow 10 places ≤ Integer64.maximum ↔ places ≤ 18 := by
    constructor
    · -- The nineteenth power of ten is the first without room.
      intro fits
      by_contra many
      have grown : Nat.pow 10 19 ≤ Nat.pow 10 places :=
        Nat.pow_le_pow_right (by decide) (by omega)
      have large : Integer64.maximum < Nat.pow 10 19 := by decide
      omega
    · intro few
      exact (Nat.pow_le_pow_right (by decide) few).trans (by decide : 10 ^ 18 ≤ Integer64.maximum)
  unfold join?
  rw [power]
  by_cases room : places ≤ 18
  · rw [if_pos (few.mpr room)]
    generalize Nat.pow 10 places = shift
    by_cases fits : high * shift + low ≤ Integer64.maximum
    · have shifted : high * shift ≤ Integer64.maximum := by omega
      simp [Word.checkedMul, Word.checkedAdd, shifted, fits, room]
    · by_cases shifted : high * shift ≤ Integer64.maximum
      · simp [Word.checkedMul, Word.checkedAdd, shifted, fits]
      · simp [Word.checkedMul, shifted, fits]
  · rw [if_neg (few.not.mpr room)]
    simp [room]

theorem utf8Size_of_isDigitOrPoint {c : Char} (mark : Decimal.isDigitOrPoint c) :
    c.utf8Size = 1 := by
  rw [Char.utf8Size_eq_one_iff]
  rw [Decimal.isDigitOrPoint, Bool.or_eq_true, beq_iff_eq] at mark
  rcases mark with digit | rfl
  · obtain ⟨_, small⟩ := Char.isDigit_iff_toNat.mp digit
    exact UInt32.le_iff_toNat_le.mpr (small.trans (by decide))
  · decide

theorem byteLength_of_all {text : List Char} (marks : text.all Decimal.isDigitOrPoint) :
    Text.byteLength text = text.length := by
  induction text with
  | nil => rfl
  | cons c text ih =>
    rw [List.all_cons, Bool.and_eq_true] at marks
    rw [Text.byteLength, utf8Size_of_isDigitOrPoint marks.1, ih marks.2, List.length_cons,
      Nat.add_comm]

theorem readDigits_eq (source : String) (negative : Bool) {digits : List Char}
    (marks : digits.all Decimal.isDigitOrPoint) :
    readDigits source digits = Guarded.sound ((Decimal.readUnsigned source negative digits).map
      fun decimal => (decimal.digits, decimal.places)) := by
  have search : (fun c : Char => decide (c ≠ '.')) = fun c => !(c == '.') := by
    funext c
    simp [Bool.beq_eq_decide_eq]
  unfold readDigits Decimal.readUnsigned
  rw [Text.findByte_eq_span, ← search]
  rcases Decimal.exists_digitsWritten digits with unpointed | ⟨whole, fraction, rfl, pointed⟩
  · rw [unpointed]
    simp only
    cases Decimal.readPart .entire digits <;> rfl
  · -- Every character is a single byte, so that the bytes behind the point count the places.
    have point : Text.byteLength ['.'] = 1 := by decide
    have front := Text.before_append (ε := ParseError) whole ('.' :: fraction)
    have back := Text.behind_append (ε := ParseError) (whole ++ ['.']) fraction
    rw [Text.byteLength_append, point, List.append_assoc, List.singleton_append] at back
    rw [List.all_append, List.all_cons, Bool.and_eq_true, Bool.and_eq_true] at marks
    have bytes : Text.byteLength (whole ++ '.' :: fraction) =
        fraction.length + 1 + Text.byteLength whole := by
      rw [Text.byteLength_append, Text.byteLength, byteLength_of_all marks.2.2,
        utf8Size_of_isDigitOrPoint marks.2.1]
      omega
    rw [pointed]
    simp only [bytes, Word.checkedSub, Nat.le_add_left, ↓reduceIte, Nat.add_sub_cancel,
      Guarded.demand_some, Guarded.ok_bind, front, back, join?_eq]
    split
    · rfl
    · cases Decimal.readPart .integer whole with
      | error error => rfl
      | ok high =>
        cases Decimal.readPart .mantissa fraction with
        | error error => rfl
        | ok low =>
          simp only [Guarded.sound_ok, bind, Except.bind]
          by_cases few : fraction.length ≤ 18
          · by_cases fits : high.1 * Nat.pow 10 fraction.length + low ≤ Integer64.maximum
            · simp only [few, fits, and_self, ↓reduceIte, ↓reduceDIte]
              rfl
            · simp only [few, fits, and_false, ↓reduceIte, ↓reduceDIte]
              rfl
          · simp only [few, false_and, ↓reduceIte, ↓reduceDIte]
            rfl

theorem read_eq (source : String) :
    read source = Guarded.sound ((Decimal.read source).map ofDecimal) := by
  unfold read Decimal.read
  rw [splitSign_eq]
  simp only [Guarded.ok_bind]
  split
  · rfl
  split
  · rfl
  rename_i marks
  rw [Bool.not_eq_true', Bool.not_eq_false] at marks
  rw [readDigits_eq source (Decimal.splitSign source.toList).1 marks]
  generalize Decimal.splitSign source.toList = signed
  cases read : Decimal.readUnsigned source signed.1 signed.2 with
  | error error => rfl
  | ok decimal =>
    obtain ⟨_, _, _, _, negative, _⟩ := Decimal.readUnsigned_eq_ok.mp read
    rw [← negative]
    rfl

theorem fraction_ofDecimal (decimal : Decimal) :
    (ofDecimal decimal).fraction = .ok (decimal.digits, decimal.denominator) := by
  have fits : Nat.pow 10 decimal.places ≤ Nat.pow 2 64 - 1 :=
    Nat.le_pred_of_lt decimal.denominator_lt
  rw [fraction, ofDecimal, Word.checkedPow_eq (by decide) (by decide), if_pos fits]
  rfl

/-- The fraction of a number in lowest terms. Its parts come from elsewhere, so that the sign has to
agree with the numerator and the denominator must not be zero. -/
def reduced (sign : Sign) (numerator denominator : Nat) : Guarded ParseError Rat := do
  Guarded.require (sign = .zero ↔ numerator = 0) .assertion
  Guarded.require (denominator ≠ 0) .division
  .ok (mkRat (sign.apply numerator) denominator)

theorem apply_of (negative : Bool) (magnitude : Nat) :
    (Sign.of negative magnitude).apply magnitude =
      if negative then -(magnitude : Int) else magnitude := by
  cases negative <;> cases magnitude <;> rfl

theorem of_eq_zero_iff {negative : Bool} {magnitude : Nat} :
    Sign.of negative magnitude = .zero ↔ magnitude = 0 := by
  cases negative <;> cases magnitude <;> simp [Sign.of]

theorem reduced_ofDecimal (decimal : Decimal) :
    reduced (ofDecimal decimal).sign decimal.digits decimal.denominator = .ok decimal.value := by
  unfold reduced ofDecimal
  rw [Guarded.require_of of_eq_zero_iff, Guarded.ok_bind,
    Guarded.require_of decimal.denominator_pos.ne', Guarded.ok_bind, apply_of]
  rfl

end Raw

def Rational.readGuarded (source : String) : Guarded ParseError Rat := do
  let raw ← Raw.read source
  let fraction ← raw.fraction
  Raw.reduced raw.sign fraction.1 fraction.2

def Fraction64.readGuarded (source : String) : Guarded ParseError Fraction64 := do
  let value ← Rational.readGuarded source
  Guarded.demand (ofRat? value) .overflow

theorem Rational.readGuarded_eq (source : String) :
    readGuarded source = Guarded.sound (Literal.read source) := by
  change _ = Guarded.sound ((Decimal.read source).map Decimal.value)
  rw [readGuarded, Raw.read_eq]
  cases Decimal.read source with
  | error error => rfl
  | ok decimal =>
    change ((Raw.ofDecimal decimal).fraction >>= fun fraction =>
      Raw.reduced (Raw.ofDecimal decimal).sign fraction.1 fraction.2) = .ok decimal.value
    rw [Raw.fraction_ofDecimal]
    exact Raw.reduced_ofDecimal decimal

theorem Fraction64.readGuarded_eq (source : String) :
    readGuarded source = Guarded.sound (Literal.read source) := by
  change _ = Guarded.sound ((Decimal.read source).map ofDecimal)
  rw [readGuarded, Rational.readGuarded_eq]
  change (Guarded.sound ((Decimal.read source).map Decimal.value) >>= fun value =>
    Guarded.demand (ofRat? value) .overflow) = _
  cases Decimal.read source with
  | error error => rfl
  | ok decimal =>
    have fits : ofRat? decimal.value = some (ofDecimal decimal) :=
      dif_pos ⟨(ofDecimal decimal).num_lt, (ofDecimal decimal).den_lt⟩
    change Guarded.demand (ofRat? decimal.value) .overflow = .ok (ofDecimal decimal)
    rw [fits]
    rfl

end LinearProgram
