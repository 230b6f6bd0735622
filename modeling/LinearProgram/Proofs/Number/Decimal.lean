import LinearProgram.Proofs.Number.Rational
import LinearProgram.Proofs.Outcome
import Mathlib.Data.List.TakeWhile

namespace LinearProgram

theorem Integer64.readDigits_eq_ok {limit : Nat} {digits : List Char}
    {start value : { n : Nat // n ≤ limit }} :
    readDigits limit digits start = .ok value ↔
      digits.all Char.isDigit ∧ Nat.ofDigitChars 10 digits start = value := by
  induction digits generalizing start with
  | nil => simp [readDigits, Subtype.ext_iff]
  | cons c digits ih =>
    rw [List.all_cons, Bool.and_eq_true, Nat.ofDigitChars_cons]
    by_cases digit : c.isDigit
    · by_cases fits : 10 * start.1 + (c.toNat - '0'.toNat) ≤ limit
      · simp only [readDigits, digit, ↓reduceIte, fits, ↓reduceDIte, true_and]
        exact ih
      · -- The value grows with each digit, so it never comes back below the limit.
        have grows := Nat.le_mul_of_pos_left (10 * start.1 + (c.toNat - '0'.toNat))
          (Nat.pow_pos (n := digits.length) (by decide : 0 < 10))
        have bound := value.2
        simp only [readDigits, digit, ↓reduceIte, fits, ↓reduceDIte, reduceCtorEq, true_and,
          false_iff, not_and]
        intro _ same
        rw [Nat.ofDigitChars_eq_ofDigitChars_zero] at same
        omega
    · simp [readDigits, digit]

namespace Decimal

theorem readPart_eq_ok {part : DecimalPart} {text : List Char}
    {value : { n : Nat // n ≤ Integer64.maximum }} :
    readPart part text = .ok value ↔
      text.all Char.isDigit ∧ Nat.ofDigitChars 10 text 0 = value := by
  unfold readPart Integer64.readNatural
  split
  · rename_i empty
    subst empty
    simp [Subtype.ext_iff]
  · rw [mapError_eq_ok, Integer64.readDigits_eq_ok]

inductive SignWritten : Bool → List Char → Prop where
  | minus : SignWritten true ['-']
  | plus : SignWritten false ['+']
  | none : SignWritten false []

inductive DigitsWritten (whole : List Char) : List Char → List Char → Prop where
  | pointed (fraction : List Char) : DigitsWritten whole fraction (whole ++ '.' :: fraction)
  | whole : DigitsWritten whole [] whole

structure Written (text : String) (negative : Bool) (whole fraction : List Char) : Prop where
  shape : ∃ sign body, text.toList = sign ++ body ∧ SignWritten negative sign ∧
    DigitsWritten whole fraction body
  plain : (whole ++ fraction).all Char.isDigit
  nonempty : whole ++ fraction ≠ []

theorem SignWritten.splitSign {negative : Bool} {sign : List Char}
    (written : SignWritten negative sign) {c : Char} {rest : List Char}
    (digitOrPoint : isDigitOrPoint c) :
    splitSign (sign ++ c :: rest) = (negative, c :: rest) := by
  cases written with
  | minus => rfl
  | plus => rfl
  | none =>
    unfold Decimal.splitSign
    split
    · rename_i minus
      cases minus
      exact absurd digitOrPoint (by decide)
    · rename_i plus
      cases plus
      exact absurd digitOrPoint (by decide)
    · rfl

theorem exists_signWritten (text : List Char) :
    ∃ sign, text = sign ++ (splitSign text).2 ∧ SignWritten (splitSign text).1 sign := by
  unfold splitSign
  split
  · exact ⟨_, rfl, .minus⟩
  · exact ⟨_, rfl, .plus⟩
  · exact ⟨_, rfl, .none⟩

theorem ext {first second : Decimal} (negative : first.negative = second.negative)
    (digits : first.digits = second.digits) (places : first.places = second.places) :
    first = second := by
  cases first
  cases second
  subst negative digits places
  rfl

theorem span_whole {whole : List Char} (plain : whole.all Char.isDigit) :
    whole.span (· ≠ '.') = (whole, []) := by
  have unpointed := Rational.ne_of_all_isDigit plain (by decide : '.'.isDigit = false)
  rw [List.span_eq_takeWhile_dropWhile, List.takeWhile_eq_self_iff.mpr unpointed,
    List.dropWhile_eq_nil_iff.mpr unpointed]

theorem span_pointed {whole : List Char} (plain : whole.all Char.isDigit) (fraction : List Char) :
    (whole ++ '.' :: fraction).span (· ≠ '.') = (whole, '.' :: fraction) := by
  have unpointed := Rational.ne_of_all_isDigit plain (by decide : '.'.isDigit = false)
  rw [List.span_eq_takeWhile_dropWhile, List.takeWhile_append_of_pos unpointed,
    List.dropWhile_append_of_pos unpointed]
  simp

theorem exists_digitsWritten (body : List Char) :
    body.span (· ≠ '.') = (body, []) ∨
      ∃ whole fraction, body = whole ++ '.' :: fraction ∧
        body.span (· ≠ '.') = (whole, '.' :: fraction) := by
  have whole := List.takeWhile_append_dropWhile (p := (· ≠ '.')) (l := body)
  have stopped := List.head?_dropWhile_not (· ≠ '.') body
  rw [List.span_eq_takeWhile_dropWhile]
  cases rest : body.dropWhile (· ≠ '.') with
  | nil =>
    rw [rest, List.append_nil] at whole
    exact .inl (by rw [whole])
  | cons c fraction =>
    rw [rest] at whole stopped
    obtain rfl : c = '.' := by simpa using stopped
    exact .inr ⟨_, _, whole.symm, rfl⟩

theorem ofDigitChars_append (whole fraction : List Char) :
    Nat.ofDigitChars 10 (whole ++ fraction) 0 =
      Nat.ofDigitChars 10 whole 0 * Nat.pow 10 fraction.length +
        Nat.ofDigitChars 10 fraction 0 := by
  rw [Nat.ofDigitChars_append, Nat.ofDigitChars_eq_ofDigitChars_zero, Nat.mul_comm]
  rfl

/-- The reading of digits succeeds exactly with the decimals that they are digits of. -/
theorem readUnsigned_eq_ok {source : String} {negative : Bool} {body : List Char}
    {decimal : Decimal} :
    readUnsigned source negative body = .ok decimal ↔
      ∃ whole fraction, DigitsWritten whole fraction body ∧
        (whole ++ fraction).all Char.isDigit ∧ decimal.negative = negative ∧
        decimal.digits = Nat.ofDigitChars 10 (whole ++ fraction) 0 ∧
        decimal.places = fraction.length := by
  constructor
  · intro read
    unfold readUnsigned at read
    rcases exists_digitsWritten body with unpointed | ⟨whole, fraction, rfl, pointed⟩
    · rw [unpointed] at read
      obtain ⟨digits, part, done⟩ := bind_eq_ok.mp read
      obtain ⟨plain, same⟩ := readPart_eq_ok.mp part
      cases done
      refine ⟨body, [], .whole, ?_, rfl, ?_, rfl⟩
      · rwa [List.append_nil]
      · rw [List.append_nil, same]
    · rw [pointed] at read
      simp only at read
      split at read
      · cases read
      obtain ⟨high, part, read⟩ := bind_eq_ok.mp read
      obtain ⟨highPlain, highSame⟩ := readPart_eq_ok.mp part
      obtain ⟨low, part, read⟩ := bind_eq_ok.mp read
      obtain ⟨lowPlain, lowSame⟩ := readPart_eq_ok.mp part
      split at read
      · split at read
        · cases read
          refine ⟨whole, fraction, .pointed fraction, ?_, rfl, ?_, rfl⟩
          · rw [List.all_append, highPlain, lowPlain, Bool.and_self]
          · rw [ofDigitChars_append, highSame, lowSame]
        · cases read
      · cases read
  · rintro ⟨whole, fraction, written, plain, rfl, digits, places⟩
    rw [List.all_append, Bool.and_eq_true] at plain
    have digits_le := digits.symm.trans_le decimal.digits_le
    have places_le := places.symm.trans_le decimal.places_le
    unfold readUnsigned
    cases written with
    | whole =>
      rw [List.append_nil] at digits digits_le
      rw [span_whole plain.1]
      refine bind_eq_ok.mpr ⟨⟨_, digits_le⟩, readPart_eq_ok.mpr ⟨plain.1, rfl⟩, ?_⟩
      exact congrArg Except.ok (ext rfl digits.symm places.symm)
    | pointed fraction =>
      rw [ofDigitChars_append] at digits digits_le
      have high_le : Nat.ofDigitChars 10 whole 0 ≤ Integer64.maximum :=
        (Nat.le_mul_of_pos_right _ (Nat.pow_pos (by decide))).trans
          ((Nat.le_add_right _ _).trans digits_le)
      have low_le : Nat.ofDigitChars 10 fraction 0 ≤ Integer64.maximum :=
        (Nat.le_add_left _ _).trans digits_le
      have countable : ¬ Nat.pow 2 32 ≤ fraction.length := by
        have large : 18 < Nat.pow 2 32 := by decide
        omega
      rw [span_pointed plain.1]
      simp only [countable, ↓reduceIte]
      refine bind_eq_ok.mpr ⟨⟨_, high_le⟩, readPart_eq_ok.mpr ⟨plain.1, rfl⟩, ?_⟩
      refine bind_eq_ok.mpr ⟨⟨_, low_le⟩, readPart_eq_ok.mpr ⟨plain.2, rfl⟩, ?_⟩
      rw [dif_pos places_le, dif_pos digits_le]
      exact congrArg Except.ok (ext rfl digits.symm places.symm)

theorem DigitsWritten.all_isDigitOrPoint {whole fraction body : List Char}
    (written : DigitsWritten whole fraction body) (plain : (whole ++ fraction).all Char.isDigit) :
    body.all isDigitOrPoint := by
  have ofDigits {text : List Char} (digits : text.all Char.isDigit) : text.all isDigitOrPoint := by
    rw [List.all_eq_true] at digits ⊢
    intro c member
    rw [isDigitOrPoint, digits c member, Bool.true_or]
  rw [List.all_append, Bool.and_eq_true] at plain
  cases written with
  | whole => exact ofDigits plain.1
  | pointed fraction =>
    rw [List.all_append, List.all_cons, ofDigits plain.1, ofDigits plain.2]
    rfl

theorem DigitsWritten.append_eq_nil_iff {whole fraction body : List Char}
    (written : DigitsWritten whole fraction body) (plain : (whole ++ fraction).all Char.isDigit) :
    whole ++ fraction = [] ↔ body = [] ∨ body = ['.'] := by
  cases written with
  | whole =>
    have unpointed : whole ≠ ['.'] := by
      rintro rfl
      exact absurd plain (by decide)
    simp [unpointed]
  | pointed fraction => simp [List.append_eq_singleton_iff]

/-- A text is read exactly if it is a decimal that has room, with the digits that it shows. -/
theorem read_eq_ok {source : String} {decimal : Decimal} :
    read source = .ok decimal ↔
      ∃ whole fraction, Written source decimal.negative whole fraction ∧
        decimal.digits = Nat.ofDigitChars 10 (whole ++ fraction) 0 ∧
        decimal.places = fraction.length := by
  constructor
  · intro readOk
    unfold read at readOk
    obtain ⟨sign, source_eq, signWritten⟩ := exists_signWritten source.toList
    simp only at readOk
    split at readOk
    · cases readOk
    rename_i nonempty
    split at readOk
    · cases readOk
    obtain ⟨whole, fraction, written, plain, negative, digits, places⟩ :=
      readUnsigned_eq_ok.mp readOk
    rw [← negative] at signWritten
    exact ⟨whole, fraction, ⟨⟨sign, _, source_eq, signWritten, written⟩, plain,
      (written.append_eq_nil_iff plain).not.mpr nonempty⟩, digits, places⟩
  · rintro ⟨whole, fraction, written, digits, places⟩
    obtain ⟨⟨sign, body, source_eq, signWritten, digitsWritten⟩, plain, filled⟩ := written
    have nonempty := (digitsWritten.append_eq_nil_iff plain).not.mp filled
    have marks := digitsWritten.all_isDigitOrPoint plain
    have cut : splitSign source.toList = (decimal.negative, body) := by
      cases body with
      | nil => exact absurd (.inl rfl) nonempty
      | cons c rest =>
        rw [source_eq]
        rw [List.all_cons, Bool.and_eq_true] at marks
        exact signWritten.splitSign marks.1
    rw [read, cut]
    simp only [nonempty, ↓reduceIte, marks, Bool.not_true, Bool.false_eq_true]
    exact readUnsigned_eq_ok.mpr ⟨whole, fraction, digitsWritten, plain, rfl, digits, places⟩

def capped (negative : Bool) (digits places : Nat) : Decimal where
  negative := negative
  digits := Nat.min digits Integer64.maximum
  places := Nat.min places 18
  digits_le := Nat.min_le_right _ _
  places_le := Nat.min_le_right _ _

def wholeDigits (decimal : Decimal) : List Char :=
  Nat.toDigits 10 (decimal.digits / decimal.denominator)

def fractionDigits (decimal : Decimal) : List Char :=
  List.leftpad decimal.places '0' (Nat.toDigits 10 (decimal.digits % decimal.denominator))

def magnitude (decimal : Decimal) : String :=
  String.ofList (if decimal.places = 0 then decimal.wholeDigits
    else decimal.wholeDigits ++ '.' :: decimal.fractionDigits)

def text (decimal : Decimal) : String :=
  if decimal.negative then "-" ++ decimal.magnitude else decimal.magnitude

variable (decimal : Decimal)

theorem wholeDigits_ne_nil : decimal.wholeDigits ≠ [] :=
  Nat.toDigits_ne_nil

theorem all_isDigit_wholeDigits : decimal.wholeDigits.all Char.isDigit :=
  Rational.all_isDigit_toDigits _

theorem all_isDigit_fractionDigits : decimal.fractionDigits.all Char.isDigit := by
  rw [fractionDigits, List.leftpad, List.all_append, Rational.all_isDigit_toDigits, Bool.and_true,
    List.all_eq_true]
  intro c member
  rw [List.eq_of_mem_replicate member]
  rfl

theorem ofDigitChars_wholeDigits :
    Nat.ofDigitChars 10 decimal.wholeDigits 0 = decimal.digits / decimal.denominator :=
  Nat.ofDigitChars_ten_toDigits

theorem ofDigitChars_fractionDigits :
    Nat.ofDigitChars 10 decimal.fractionDigits 0 = decimal.digits % decimal.denominator := by
  rw [fractionDigits, List.leftpad, Nat.ofDigitChars_append, Nat.ofDigitChars_replicate_zero,
    Nat.mul_zero, Nat.ofDigitChars_ten_toDigits]

theorem length_fractionDigits (fraction : decimal.places ≠ 0) :
    decimal.fractionDigits.length = decimal.places := by
  have short : (Nat.toDigits 10 (decimal.digits % decimal.denominator)).length ≤ decimal.places :=
    (Nat.length_toDigits_le_iff (by decide) (Nat.pos_of_ne_zero fraction)).mpr
      (Nat.mod_lt _ decimal.denominator_pos)
  rw [fractionDigits, List.length_leftpad, Nat.max_eq_left short]

def trailingDigits : List Char :=
  if decimal.places = 0 then [] else decimal.fractionDigits

theorem length_trailingDigits : decimal.trailingDigits.length = decimal.places := by
  unfold trailingDigits
  split
  · rename_i whole
    exact whole.symm
  · rename_i fraction
    exact decimal.length_fractionDigits fraction

theorem all_isDigit_digits :
    (decimal.wholeDigits ++ decimal.trailingDigits).all Char.isDigit := by
  rw [List.all_append, all_isDigit_wholeDigits, Bool.true_and, trailingDigits]
  split
  · rfl
  · exact decimal.all_isDigit_fractionDigits

theorem ofDigitChars_digits :
    Nat.ofDigitChars 10 (decimal.wholeDigits ++ decimal.trailingDigits) 0 = decimal.digits := by
  rw [ofDigitChars_append, length_trailingDigits, ofDigitChars_wholeDigits, trailingDigits]
  split
  · rename_i whole
    rw [denominator, whole]
    exact (Nat.mul_one _).trans (Nat.div_one _)
  · rw [ofDigitChars_fractionDigits]
    exact Nat.div_add_mod' _ _

theorem digitsWritten_magnitude :
    DigitsWritten decimal.wholeDigits decimal.trailingDigits decimal.magnitude.toList := by
  rw [magnitude, String.toList_ofList, trailingDigits]
  split
  · exact .whole
  · exact .pointed _

theorem written_text :
    Written decimal.text decimal.negative decimal.wholeDigits decimal.trailingDigits := by
  refine ⟨?_, decimal.all_isDigit_digits, List.append_ne_nil_of_left_ne_nil
    decimal.wholeDigits_ne_nil _⟩
  rw [text]
  cases decimal.negative with
  | true => exact ⟨_, _, String.toList_append, .minus, decimal.digitsWritten_magnitude⟩
  | false => exact ⟨[], _, rfl, .none, decimal.digitsWritten_magnitude⟩

theorem all_isDigitOrPoint_magnitude : decimal.magnitude.toList.all isDigitOrPoint :=
  decimal.digitsWritten_magnitude.all_isDigitOrPoint decimal.all_isDigit_digits

theorem exists_magnitude : ∃ c rest, decimal.magnitude.toList = c :: rest ∧ c.isDigit := by
  have digits := decimal.all_isDigit_wholeDigits
  cases whole : decimal.wholeDigits with
  | nil => exact absurd whole decimal.wholeDigits_ne_nil
  | cons c rest =>
    rw [whole, List.all_cons, Bool.and_eq_true] at digits
    rw [magnitude, String.toList_ofList, whole]
    split
    · exact ⟨c, rest, rfl, digits.1⟩
    · exact ⟨c, _, rfl, digits.1⟩

/-- A decimal is read back with the places that it is written with. -/
theorem read_text : read decimal.text = .ok decimal :=
  read_eq_ok.mpr ⟨_, _, decimal.written_text, decimal.ofDigitChars_digits.symm,
    decimal.length_trailingDigits.symm⟩

theorem value_eq : decimal.value =
    if decimal.negative then -((decimal.digits : Rat) / 10 ^ decimal.places)
    else (decimal.digits : Rat) / 10 ^ decimal.places := by
  rw [value, Rat.mkRat_eq_div, numerator, denominator]
  cases decimal.negative with
  | true => simp [neg_div]
  | false => simp

end Decimal

def Rational.IsDecimal (value : Rat) : Prop :=
  ∃ digits places : Nat, digits < 2 ^ 63 ∧ places ≤ 18 ∧
    (value = digits / 10 ^ places ∨ value = -(digits / 10 ^ places))

theorem Decimal.mem_range_value_iff {value : Rat} :
    value ∈ Set.range Decimal.value ↔ Rational.IsDecimal value := by
  constructor
  · intro reached
    obtain ⟨decimal, rfl⟩ := reached
    refine ⟨decimal.digits, decimal.places, ?_, decimal.places_le, ?_⟩
    · exact Nat.lt_of_le_of_lt decimal.digits_le (by decide)
    · rw [decimal.value_eq]
      cases decimal.negative with
      | true => exact .inr rfl
      | false => exact .inl rfl
  · intro few
    obtain ⟨digits, places, digits_lt, places_le, same⟩ := few
    have digits_le : digits ≤ Integer64.maximum := Nat.le_pred_of_lt digits_lt
    rcases same with rfl | rfl
    · exact ⟨⟨false, digits, places, digits_le, places_le⟩, Decimal.value_eq _⟩
    · exact ⟨⟨true, digits, places, digits_le, places_le⟩, Decimal.value_eq _⟩

end LinearProgram
