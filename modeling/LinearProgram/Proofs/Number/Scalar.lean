import LinearProgram.Number.Scalar
import Mathlib.Algebra.Order.Ring.Rat
import Mathlib.Algebra.Field.Rat
import Mathlib.Algebra.Order.Field.Basic

namespace LinearProgram

/-- Numbers whose operations are those of an ordered field and never fail, except for a division by
zero. -/
class ExactScalar (F : Type) [Field F] [LinearOrder F] [Scalar F] : Prop where
  zero_eq : (Scalar.zero : F) = 0
  one_eq : (Scalar.one : F) = 1
  neg_eq (a : F) : Scalar.neg a = -a
  eq_iff (a b : F) : Scalar.eq a b = true ↔ a = b
  lt_iff (a b : F) : Scalar.lt a b = true ↔ a < b
  le_iff (a b : F) : Scalar.le a b = true ↔ a ≤ b
  divide_eq (a b : F) : b ≠ 0 → Scalar.divide a b = .ok (a / b)
  subtract_eq (a b : F) : Scalar.subtract a b = .ok (a - b)

attribute [simp] ExactScalar.zero_eq ExactScalar.one_eq ExactScalar.neg_eq ExactScalar.eq_iff
  ExactScalar.lt_iff ExactScalar.le_iff ExactScalar.subtract_eq

instance : ExactScalar Rat where
  zero_eq := rfl
  one_eq := rfl
  neg_eq _ := rfl
  eq_iff _ _ := beq_iff_eq
  lt_iff _ _ := decide_eq_true_iff
  le_iff _ _ := decide_eq_true_iff
  divide_eq _ _ _ := rfl
  subtract_eq _ _ := rfl

@[simp] theorem isZero_iff {F : Type} [Field F] [LinearOrder F] [Scalar F] [ExactScalar F]
    (value : F) : Scalar.isZero value = true ↔ value = 0 := by
  simp [Scalar.isZero]

/-- Whether a map from one type of numbers into another keeps all that can be seen of a number, and
every quotient and difference that the first type has room for. -/
structure Scalar.IsEmbedding {F G : Type} [Scalar F] [Scalar G] (f : F → G) : Prop where
  zero : Scalar.zero = f Scalar.zero
  one : Scalar.one = f Scalar.one
  neg (a : F) : Scalar.neg (f a) = f (Scalar.neg a)
  eq (a b : F) : Scalar.eq (f a) (f b) = Scalar.eq a b
  lt (a b : F) : Scalar.lt (f a) (f b) = Scalar.lt a b
  le (a b : F) : Scalar.le (f a) (f b) = Scalar.le a b
  render (a : F) : Scalar.render (f a) = Scalar.render a
  divide {a b c : F} (fits : Scalar.divide a b = .ok c) : Scalar.divide (f a) (f b) = .ok (f c)
  subtract {a b c : F} (fits : Scalar.subtract a b = .ok c) :
    Scalar.subtract (f a) (f b) = .ok (f c)

theorem Scalar.IsEmbedding.isZero {F G : Type} [Scalar F] [Scalar G] {f : F → G}
    (embedding : Scalar.IsEmbedding f) (a : F) : Scalar.isZero (f a) = Scalar.isZero a := by
  rw [Scalar.isZero, embedding.zero, embedding.eq, Scalar.isZero]

def Literal.ReadsThrough {F G : Type} [Literal F] [Literal G] (f : F → G) : Prop :=
  ∀ text : String, (Literal.read text : Except ParseError G) = (Literal.read text).map f

end LinearProgram
