import LinearProgram.Number.Fraction64

namespace LinearProgram

variable {F : Type}

def readNumber [Literal F] (negative : Bool) (text : String) : Except ParseError F :=
  Literal.read (if negative then "-" ++ text else text)

namespace Term

def signed [Scalar F] (negative : Bool) (name : String) : Term F :=
  if negative then .scaled (Scalar.neg Scalar.one) name else .bare name

variable [Scalar F] [Literal F]

def readFirst (negative : Bool) : List Token → Except ParseError (Term F × List Token)
  | .number value :: .times :: .identifier name :: rest =>
    (readNumber negative value).map fun coefficient => (.scaled coefficient name, rest)
  | .number value :: .identifier name :: rest =>
    (readNumber negative value).map fun coefficient => (.scaled coefficient name, rest)
  | .identifier name :: rest => .ok (signed negative name, rest)
  | [.number value] => .error (.new (.constantTerm value))
  | .number value :: .plus :: _ => .error (.new (.constantTerm value))
  | .number value :: .minus :: _ => .error (.new (.constantTerm value))
  | [] => .error (.new .missingTerm)
  | token :: _ => .error (.new (.missingVariable token))

theorem length_of_readFirst {negative : Bool} {tokens rest : List Token} {term : Term F}
    (read : readFirst negative tokens = .ok (term, rest)) : rest.length < tokens.length := by
  unfold readFirst at read
  split at read
  case h_1 value name tail | h_2 value name tail =>
    cases number : readNumber (F := F) negative value <;>
      simp only [number, Except.map] at read <;> cases read
    simp only [List.length_cons]
    omega
  case h_3 name tail =>
    cases read
    simp
  all_goals cases read

def readSigned (tokens : List Token) : Except ParseError (List (Term F)) :=
  match tokens with
  | [] => .ok []
  | sign :: rest =>
    if sign = .plus ∨ sign = .minus then
      match _ : readFirst (sign = .minus) rest with
      | .error error => .error error
      | .ok (term, tail) => (readSigned tail).map (term :: ·)
    else .error (.new (.missingSign sign))
termination_by tokens.length
decreasing_by
  rename_i read
  have shorter := length_of_readFirst read
  simp only [List.length_cons]
  omega

end Term

def Expression.read [Scalar F] [Literal F] (tokens : List Token) : Except ParseError (Expression F) := do
  let (negative, rest) := match tokens with
    | .minus :: rest => (true, rest)
    | .plus :: rest => (false, rest)
    | rest => (false, rest)
  let (first, tail) ← Term.readFirst negative rest
  match ← Term.readSigned tail with
  | [] => .ok (.single first)
  | others => .ok (.sum (first :: others))

namespace Comparison

def splitSides : List Token → List Token × List (Comparator × List Token)
  | [] => ([], [])
  | .comparator c :: rest =>
    let (side, sides) := splitSides rest
    ([], (c, side) :: sides)
  | token :: rest =>
    let (side, sides) := splitSides rest
    (token :: side, sides)

def isValue : List Token → Bool
  | [.number _] => true
  | [.plus, .number _] => true
  | [.minus, .number _] => true
  | _ => false

def readValue [Literal F] : List Token → Except ParseError F
  | [.number value] => readNumber false value
  | [.plus, .number value] => readNumber false value
  | [.minus, .number value] => readNumber true value
  | [] => .error (.new .missingValue)
  | tokens => .error (.new (.notSingleValue tokens.length))

variable [Scalar F] [Literal F]

def readSimple (c : Comparator) (left right : List Token) : Except ParseError (Comparison F) :=
  if isValue left && !isValue right then .error (.new .valueBeforeExpression)
  else do
    let expression ← (Expression.read left).mapError (·.wrap .unreadableLeft)
    let value ← (readValue right).mapError (·.wrap .unreadableRight)
    .ok (.simple c expression value)

def readChained (c : Comparator) (left middle right : List Token) :
    Except ParseError (Comparison F) := do
  let leftValue ← (readValue left).mapError (·.wrap .unreadableLeftValue)
  let expression ← (Expression.read middle).mapError (·.wrap .unreadableMiddle)
  let rightValue ← (readValue right).mapError (·.wrap .unreadableRightValue)
  .ok (.chained c leftValue expression rightValue)

def read (tokens : List Token) : Except ParseError (Comparison F) :=
  match splitSides tokens with
  | (_, []) => .error (.new .missingComparator)
  | (left, [(c, right)]) => readSimple c left right
  | (left, [(first, middle), (second, right)]) =>
    if first = second then readChained first left middle right
    else .error (.new (.differentComparators first second))
  | (_, sides) => .error (.new (.tooManyComparators sides.length))

end Comparison

end LinearProgram
