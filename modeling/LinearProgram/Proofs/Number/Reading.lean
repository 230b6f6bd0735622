import LinearProgram.Proofs.Guarded.Number

namespace LinearProgram

structure Decimal.Represented (text : String) (negative : Bool) (digits places : Nat) : Prop where
  written : ∃ whole fraction, Written text negative whole fraction ∧
    digits = Nat.ofDigitChars 10 (whole ++ fraction) 0 ∧ places = fraction.length
  places_le : places ≤ 18
  digits_le : digits ≤ 2 ^ 63 - 1

namespace Decimal

theorem represented_iff {text : String} {negative : Bool} {digits places : Nat} :
    Represented text negative digits places ↔
      ∃ decimal, read text = .ok decimal ∧ decimal.negative = negative ∧
        decimal.digits = digits ∧ decimal.places = places := by
  constructor
  · intro represented
    obtain ⟨⟨whole, fraction, written, sameDigits, samePlaces⟩, places_le, digits_le⟩ := represented
    exact ⟨⟨negative, digits, places, digits_le, places_le⟩,
      read_eq_ok.mpr ⟨whole, fraction, written, sameDigits, samePlaces⟩, rfl, rfl, rfl⟩
  · intro reads
    obtain ⟨decimal, read, rfl, rfl, rfl⟩ := reads
    obtain ⟨whole, fraction, written, sameDigits, samePlaces⟩ := read_eq_ok.mp read
    exact ⟨⟨whole, fraction, written, sameDigits, samePlaces⟩, decimal.places_le,
      decimal.digits_le⟩

/-- A value obtained from the decimal that a text is read as. -/
theorem map_read_eq_ok {α : Type} {f : Decimal → α} {text : String} {value : α}
    {Shows : Bool → Nat → Nat → Prop}
    (shows : ∀ decimal, f decimal = value ↔ Shows decimal.negative decimal.digits decimal.places) :
    (read text).map f = .ok value ↔ ∃ negative digits places,
      Represented text negative digits places ∧ Shows negative digits places := by
  simp only [map_eq_ok, represented_iff, shows]
  constructor
  · intro reads
    obtain ⟨decimal, read, holds⟩ := reads
    exact ⟨_, _, _, ⟨decimal, read, rfl, rfl, rfl⟩, holds⟩
  · intro represented
    obtain ⟨_, _, _, ⟨decimal, read, rfl, rfl, rfl⟩, holds⟩ := represented
    exact ⟨decimal, read, holds⟩

def valueOf (negative : Bool) (digits places : Nat) : Rat :=
  if negative then -(digits / 10 ^ places) else digits / 10 ^ places

theorem value_eq_valueOf (decimal : Decimal) :
    decimal.value = valueOf decimal.negative decimal.digits decimal.places :=
  decimal.value_eq

theorem sign_of_eq_iff {negative : Bool} {magnitude : Nat} {sign : Sign} :
    Sign.of negative magnitude = sign ↔
      (sign = .zero ↔ magnitude = 0) ∧ (sign = .negative ↔ negative ∧ magnitude ≠ 0) := by
  cases negative <;> cases magnitude <;> cases sign <;> simp [Sign.of]

theorem ofDecimal_eq_iff {decimal : Decimal} {raw : Raw} :
    Raw.ofDecimal decimal = raw ↔ raw.integer = decimal.digits ∧ raw.places = decimal.places ∧
      (raw.sign = .zero ↔ decimal.digits = 0) ∧
        (raw.sign = .negative ↔ decimal.negative ∧ decimal.digits ≠ 0) := by
  rw [← sign_of_eq_iff, eq_comm, Raw.ofDecimal, Raw.ext_iff]
  constructor
  · rintro ⟨sign, integer, places⟩
    exact ⟨integer, places, sign.symm⟩
  · rintro ⟨integer, places, sign⟩
    exact ⟨sign.symm, integer, places⟩

theorem raw_read_eq_ok {text : String} {raw : Raw} :
    Raw.read text = .ok raw ↔ ∃ negative digits places,
      Represented text negative digits places ∧ raw.integer = digits ∧ raw.places = places ∧
        (raw.sign = .zero ↔ digits = 0) ∧ (raw.sign = .negative ↔ negative ∧ digits ≠ 0) := by
  rw [Raw.read_eq, Guarded.sound, mapError_eq_ok]
  exact map_read_eq_ok fun _ => ofDecimal_eq_iff

theorem rational_read_eq_ok {text : String} {value : Rat} :
    Literal.read text = .ok value ↔ ∃ negative digits places,
      Represented text negative digits places ∧ value = valueOf negative digits places := by
  apply map_read_eq_ok
  intro decimal
  rw [value_eq_valueOf, eq_comm]

theorem fraction64_read_eq_ok {text : String} {value : Fraction64} :
    Literal.read text = .ok value ↔ ∃ negative digits places,
      Represented text negative digits places ∧ value.value = valueOf negative digits places := by
  apply map_read_eq_ok
  intro decimal
  rw [← value_eq_valueOf]
  constructor
  · rintro rfl
    rfl
  · intro same
    cases value
    subst same
    rfl

theorem exists_read_iff {text : String} :
    (∃ value : Fraction64, Literal.read text = .ok value) ↔
      ∃ negative digits places, Represented text negative digits places := by
  constructor
  · intro reads
    obtain ⟨value, read⟩ := reads
    obtain ⟨negative, digits, places, represented, _⟩ := fraction64_read_eq_ok.mp read
    exact ⟨negative, digits, places, represented⟩
  · intro shown
    obtain ⟨negative, digits, places, represented⟩ := shown
    obtain ⟨decimal, read, _⟩ := represented_iff.mp represented
    exact ⟨_, map_eq_ok.mpr ⟨decimal, read, rfl⟩⟩

/-- Exactly the decimals with room in 64 bits are read, as the numbers that they show: as a sign
that is zero just for zero, an integer and a number of places, and as a fraction of either type. The
reading is the same with a check of each step that could leave its word, and no check fails. -/
theorem literals_exact (text : String) :
    (∀ raw, Raw.read text = .ok raw ↔ ∃ negative digits places,
      Represented text negative digits places ∧ raw.integer = digits ∧ raw.places = places ∧
        (raw.sign = .zero ↔ digits = 0) ∧ (raw.sign = .negative ↔ negative ∧ digits ≠ 0)) ∧
    (∀ value : Rat, Literal.read text = .ok value ↔ ∃ negative digits places,
      Represented text negative digits places ∧ value = valueOf negative digits places) ∧
    (∀ value : Fraction64, Literal.read text = .ok value ↔ ∃ negative digits places,
      Represented text negative digits places ∧ value.value = valueOf negative digits places) ∧
    ((∃ value : Fraction64, Literal.read text = .ok value) ↔
      ∃ negative digits places, Represented text negative digits places) ∧
    (∀ cause, Raw.read text ≠ .error (.breach cause)) ∧
    Rational.readGuarded text = Guarded.sound (Literal.read text) ∧
    Fraction64.readGuarded text = Guarded.sound (Literal.read text) := by
  refine ⟨fun _ => raw_read_eq_ok, fun _ => rational_read_eq_ok, fun _ => fraction64_read_eq_ok,
    exists_read_iff, fun cause => ?_, Rational.readGuarded_eq text, Fraction64.readGuarded_eq text⟩
  rw [Raw.read_eq]
  exact Guarded.sound_ne_breach _ cause

end Decimal

end LinearProgram
