import LinearProgram.Number.Scalar
import LinearProgram.Proofs.Text.Words
import Mathlib.Data.Rat.Lemmas
import Mathlib.Data.List.TakeDrop

namespace LinearProgram.Rational

theorem all_isDigit_toDigits (n : Nat) : (Nat.toDigits 10 n).all Char.isDigit := by
  rw [List.all_eq_true]
  exact fun c member => Nat.isDigit_of_mem_toDigits (by decide) (by decide) member

theorem natural?_toDigits (n : Nat) : natural? (Nat.toDigits 10 n) = some n := by
  rw [natural?, if_pos ⟨Nat.toDigits_ne_nil, all_isDigit_toDigits n⟩,
    Nat.ofDigitChars_ten_toDigits]

theorem ne_of_all_isDigit {digits : List Char} (all : digits.all Char.isDigit) {mark : Char}
    (other : mark.isDigit = false) : ∀ c ∈ digits, decide (c ≠ mark) = true := by
  intro c member
  have digit := List.all_eq_true.mp all c member
  rw [decide_eq_true_eq]
  rintro rfl
  rw [other] at digit
  cases digit

def body (value : Rat) : List Char :=
  Nat.toDigits 10 value.num.natAbs ++
    if value.den = 1 then [] else '/' :: Nat.toDigits 10 value.den

theorem toList_render (value : Rat) :
    (render value).toList = (if value.num < 0 then ['-'] else []) ++ body value := by
  unfold render body
  split <;> split <;> simp [Nat.toList_repr]

theorem splitSign_of_isDigit {c : Char} (digit : c.isDigit) (rest : List Char) :
    Decimal.splitSign (c :: rest) = (false, c :: rest) := by
  unfold Decimal.splitSign
  split
  · rename_i minus
    cases minus
    exact absurd digit (by decide)
  · rename_i plus
    cases plus
    exact absurd digit (by decide)
  · rfl

theorem splitSign_render (value : Rat) :
    Decimal.splitSign (render value).toList = (decide (value.num < 0), body value) := by
  rw [toList_render]
  by_cases negative : value.num < 0
  · simp [negative, Decimal.splitSign]
  · have digits := all_isDigit_toDigits value.num.natAbs
    rw [if_neg negative, List.nil_append, decide_eq_false negative, body]
    cases written : Nat.toDigits 10 value.num.natAbs with
    | nil => exact absurd written Nat.toDigits_ne_nil
    | cons c rest =>
      rw [written, List.all_cons, Bool.and_eq_true] at digits
      exact splitSign_of_isDigit digits.1 _

theorem span_body (value : Rat) :
    (body value).span (· ≠ '/') = (Nat.toDigits 10 value.num.natAbs,
      if value.den = 1 then [] else '/' :: Nat.toDigits 10 value.den) := by
  have digits : ∀ c ∈ Nat.toDigits 10 value.num.natAbs, decide (c ≠ '/') = true :=
    ne_of_all_isDigit (all_isDigit_toDigits _) (by decide)
  rw [List.span_eq_takeWhile_dropWhile, body, List.takeWhile_append_of_pos digits,
    List.dropWhile_append_of_pos digits]
  split <;> simp

theorem parse?_render (value : Rat) : parse? (render value) = some value := by
  have sign : (if decide (value.num < 0) = true then -(value.num.natAbs : Int)
      else value.num.natAbs) = value.num := by
    simp only [decide_eq_true_eq]
    omega
  simp only [parse?, splitSign_render, span_body, natural?_toDigits, Option.bind_eq_bind,
    Option.bind_some, sign]
  by_cases whole : value.den = 1
  · have value_eq := Rat.mkRat_self value
    rw [whole] at value_eq
    simp [whole, value_eq]
  · simp [whole, natural?_toDigits, Rat.mkRat_self]

theorem render_injective : Function.Injective render := by
  intro first second same
  have read := parse?_render first
  rw [same, parse?_render second] at read
  exact (Option.some.inj read).symm

theorem isSolid_render (value : Rat) : IsSolid (render value) := by
  have sign : IsSolid (if value.num < 0 then "-" else "") := by split <;> decide
  have denominator : IsSolid (if value.den = 1 then "" else "/" ++ Nat.repr value.den) := by
    split
    · decide
    · exact IsSolid.append (by decide) (isSolid_repr _)
  exact (sign.append (isSolid_repr _)).append denominator

end LinearProgram.Rational
