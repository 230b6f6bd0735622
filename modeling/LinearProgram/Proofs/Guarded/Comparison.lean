import LinearProgram.Proofs.Algebraic.Recognition
import LinearProgram.Proofs.Guarded.Expression

namespace LinearProgram

-- The parts of a list from one place up to another, which have to come in order and be within it.
namespace Slice

variable {ε α : Type}

def between (start stop : Nat) (xs : List α) : Guarded ε (List α) := do
  Guarded.require (start ≤ stop) .slice
  Guarded.require (stop ≤ xs.length) .slice
  .ok ((xs.take stop).drop start)

def before (stop : Nat) (xs : List α) : Guarded ε (List α) :=
  between 0 stop xs

def behind (start : Nat) (xs : List α) : Guarded ε (List α) :=
  between start xs.length xs

theorem between_eq {start stop : Nat} {xs : List α} (front middle back : List α)
    (whole : xs = front ++ (middle ++ back)) (starts : start = front.length)
    (stops : stop = start + middle.length) : (between start stop xs : Guarded ε (List α)) =
      .ok middle := by
  subst whole starts stops
  have ordered : front.length ≤ front.length + middle.length := Nat.le_add_right _ _
  have within : front.length + middle.length ≤ (front ++ (middle ++ back)).length := by
    simp only [List.length_append]
    omega
  rw [between, Guarded.require_of ordered, Guarded.require_of within, Guarded.ok_bind,
    Guarded.ok_bind, List.drop_take, List.drop_left]
  simp

theorem before_append (front back : List α) :
    (before front.length (front ++ back) : Guarded ε (List α)) = .ok front :=
  between_eq [] front back rfl rfl (Nat.zero_add front.length).symm

end Slice

def Token.comparators (start : Nat) (tokens : List Token) : List (Nat × Comparator) :=
  (tokens.zipIdx start).filterMap fun entry =>
    match entry.1 with
    | .comparator c => some (entry.2, c)
    | _ => none

namespace Comparison

section Definitions

variable {F : Type} (number : String → Guarded ParseError F)

def readValueGuarded : List Token → Guarded ParseError F
  | [.number value] => readNumberGuarded number false value
  | [.plus, .number value] => readNumberGuarded number false value
  | [.minus, .number value] => readNumberGuarded number true value
  | [] => Guarded.fail (.new .missingValue)
  | tokens => Guarded.fail (.new (.notSingleValue tokens.length))

variable [Scalar F]

def readSimpleGuarded (c : Comparator) (place : Nat) (tokens : List Token) :
    Guarded ParseError (Comparison F) := do
  let left ← Slice.before place tokens
  let right ← Slice.behind (place + 1) tokens
  if isValue left && !isValue right then Guarded.fail (.new .valueBeforeExpression)
  else
    let expression ← (Expression.readGuarded number left).explain (·.wrap .unreadableLeft)
    let value ← (readValueGuarded number right).explain (·.wrap .unreadableRight)
    .ok (.simple c expression value)

def readChainedGuarded (c : Comparator) (first second : Nat) (tokens : List Token) :
    Guarded ParseError (Comparison F) := do
  let left ← Slice.before first tokens
  let leftValue ← (readValueGuarded number left).explain (·.wrap .unreadableLeftValue)
  let middle ← Slice.between (first + 1) second tokens
  let expression ← (Expression.readGuarded number middle).explain (·.wrap .unreadableMiddle)
  let right ← Slice.behind (second + 1) tokens
  let rightValue ← (readValueGuarded number right).explain (·.wrap .unreadableRightValue)
  .ok (.chained c leftValue expression rightValue)

def readGuarded (tokens : List Token) : Guarded ParseError (Comparison F) :=
  match Token.comparators 0 tokens with
  | [(place, c)] => readSimpleGuarded number c place tokens
  | [(first, c), (second, other)] =>
    if c = other then readChainedGuarded number c first second tokens
    else Guarded.fail (.new (.differentComparators c other))
  | [] => Guarded.fail (.new .missingComparator)
  | places => Guarded.fail (.new (.tooManyComparators places.length))

end Definitions

def placesOf (start : Nat) (side : List Token) :
    List (Comparator × List Token) → List (Nat × Comparator)
  | [] => []
  | (c, next) :: sides =>
    (start + side.length, c) :: placesOf (start + side.length + 1) next sides

theorem placesOf_cons (start : Nat) (token : Token) (side : List Token)
    (sides : List (Comparator × List Token)) :
    placesOf start (token :: side) sides = placesOf (start + 1) side sides := by
  have shifted : start + (token :: side).length = start + 1 + side.length := by
    rw [List.length_cons]
    omega
  cases sides with
  | nil => rfl
  | cons next sides => rw [placesOf, placesOf, shifted]

theorem length_placesOf (start : Nat) (side : List Token)
    (sides : List (Comparator × List Token)) :
    (placesOf start side sides).length = sides.length := by
  induction sides generalizing start side with
  | nil => rfl
  | cons next sides ih => rw [placesOf, List.length_cons, ih, List.length_cons]

theorem comparators_eq_placesOf (start : Nat) (tokens : List Token) :
    Token.comparators start tokens =
      placesOf start (splitSides tokens).1 (splitSides tokens).2 := by
  induction tokens generalizing start with
  | nil => rfl
  | cons token tokens ih =>
    have later := ih (start + 1)
    rw [Token.comparators] at later ⊢
    rw [List.zipIdx_cons, List.filterMap_cons, later]
    cases token with
    | comparator c => rfl
    | _ => exact (placesOf_cons start _ _ _).symm

variable {F : Type} [Literal F] {number : String → Guarded ParseError F}
  (reads : ∀ text, number text = Guarded.sound (Literal.read text))

include reads

theorem readValueGuarded_eq (tokens : List Token) :
    readValueGuarded number tokens = Guarded.sound (readValue tokens) := by
  fun_cases readValue (F := F) tokens with
  | case1 | case2 | case3 => exact readNumberGuarded_eq reads _ _
  | case4 => rfl
  | case5 => rw [readValueGuarded] <;> first | rfl | assumption

variable [Scalar F]

theorem readSimpleGuarded_eq (c : Comparator) (left right : List Token) :
    readSimpleGuarded number c left.length (left ++ .comparator c :: right) =
      Guarded.sound (readSimple c left right) := by
  have rightSide : Slice.behind (ε := ParseError) (left.length + 1)
      (left ++ .comparator c :: right) = .ok right :=
    Slice.between_eq (left ++ [.comparator c]) right [] (by simp) (by simp) (by simp; omega)
  rw [readSimpleGuarded, Slice.before_append, rightSide, readSimple]
  simp only [Guarded.ok_bind]
  split
  · rfl
  · rw [Expression.readGuarded_eq reads, readValueGuarded_eq reads, Guarded.explain_sound,
      Guarded.explain_sound]
    apply Guarded.sound_bind
    intro expression _
    exact Guarded.sound_bind fun _ _ => rfl

theorem readChainedGuarded_eq (c other : Comparator) (left middle right : List Token) :
    readChainedGuarded number c left.length (left.length + 1 + middle.length)
        (left ++ .comparator c :: (middle ++ .comparator other :: right)) =
      Guarded.sound (readChained c left middle right) := by
  have middleSide : Slice.between (ε := ParseError) (left.length + 1)
      (left.length + 1 + middle.length)
      (left ++ .comparator c :: (middle ++ .comparator other :: right)) = .ok middle :=
    Slice.between_eq (left ++ [.comparator c]) middle (.comparator other :: right) (by simp)
      (by simp) rfl
  have rightSide : Slice.behind (ε := ParseError) (left.length + 1 + middle.length + 1)
      (left ++ .comparator c :: (middle ++ .comparator other :: right)) = .ok right :=
    Slice.between_eq (left ++ .comparator c :: (middle ++ [.comparator other])) right []
      (by simp) (by simp; omega) (by simp; omega)
  rw [readChainedGuarded, Slice.before_append, middleSide, rightSide, readChained]
  simp only [Guarded.ok_bind, readValueGuarded_eq reads, Expression.readGuarded_eq reads,
    Guarded.explain_sound]
  apply Guarded.sound_bind
  intro leftValue _
  apply Guarded.sound_bind
  intro expression _
  exact Guarded.sound_bind fun _ _ => rfl

theorem readGuarded_eq (tokens : List Token) :
    readGuarded number tokens = Guarded.sound (read tokens) := by
  have whole := join_splitSides tokens
  rw [readGuarded, comparators_eq_placesOf, read]
  generalize splitSides tokens = cut at whole
  obtain ⟨left, sides⟩ := cut
  cases sides with
  | nil => rfl
  | cons side sides =>
    obtain ⟨first, middle⟩ := side
    cases sides with
    | nil =>
      have simple := readSimpleGuarded_eq reads first left middle
      rw [← whole]
      simpa [placesOf] using simple
    | cons side sides =>
      obtain ⟨second, right⟩ := side
      cases sides with
      | nil =>
        have chained := readChainedGuarded_eq reads first second left middle right
        rw [← whole]
        simp only [placesOf]
        split
        · simpa using chained
        · rfl
      | cons third sides =>
        have count := length_placesOf 0 left ((first, middle) :: (second, right) :: third :: sides)
        simp only [placesOf, List.length_cons] at count ⊢
        rw [count]
        rfl

end Comparison

end LinearProgram
