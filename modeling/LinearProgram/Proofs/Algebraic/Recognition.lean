import LinearProgram.Proofs.Algebraic.Grammar

namespace LinearProgram

variable {F : Type}

namespace Comparison

inductive WrittenValue [Literal F] : List Token → F → Prop
  | signed {negative : Bool} {lead : List Token} {number : String} {value : F} :
    Token.OptionalSign negative lead → Token.Amounts negative number value →
      WrittenValue (lead ++ [.number number]) value

inductive Written [Scalar F] [Literal F] : List Token → Comparison F → Prop
  | simple {left right : List Token} {expression : Expression F} {value : F} (c : Comparator) :
    Expression.Written left expression → WrittenValue right value →
      Written (left ++ .comparator c :: right) (.simple c expression value)
  | chained {left middle right : List Token} {leftValue rightValue : F}
      {expression : Expression F} (c : Comparator) :
    WrittenValue left leftValue → Expression.Written middle expression →
      WrittenValue right rightValue →
        Written (left ++ .comparator c :: (middle ++ .comparator c :: right))
          (.chained c leftValue expression rightValue)

end Comparison

def Token.isComparator : Token → Bool
  | .comparator _ => true
  | _ => false

def Token.OneSided (tokens : List Token) : Prop :=
  ∀ token ∈ tokens, token.isComparator = false

section Sides

variable {negative : Bool} {tokens : List Token}

theorem Token.OneSided.append {first second : List Token} (start : OneSided first)
    (rest : OneSided second) : OneSided (first ++ second) :=
  List.forall_mem_append.mpr ⟨start, rest⟩

theorem Token.OptionalSign.oneSided {lead : List Token} (sign : OptionalSign negative lead) :
    OneSided lead := by
  cases sign with
  | absent => simp [OneSided]
  | present => cases negative <;> simp [OneSided, Token.sign, isComparator]

variable [Literal F]

theorem Comparison.WrittenValue.oneSided {value : F} (written : WrittenValue tokens value) :
    Token.OneSided tokens := by
  cases written with
  | signed sign _ => exact sign.oneSided.append (by simp [Token.OneSided, Token.isComparator])

variable [Scalar F]

theorem Term.Written.oneSided {term : Term F} (written : Written negative tokens term) :
    Token.OneSided tokens := by
  cases written <;> simp [Token.OneSided, Token.isComparator]

theorem Term.WrittenSigned.oneSided {terms : List (Term F)} (written : WrittenSigned tokens terms) :
    Token.OneSided tokens := by
  induction written with
  | nil => simp [Token.OneSided]
  | @cons negative _ _ _ _ first _ ih =>
    exact (Token.OptionalSign.present negative).oneSided.append (first.oneSided.append ih)

theorem Expression.Written.oneSided {expression : Expression F}
    (written : Written tokens expression) : Token.OneSided tokens := by
  cases written with
  | terms sign first rest => exact sign.oneSided.append (first.oneSided.append rest.oneSided)

end Sides

namespace Comparison

theorem splitSides_append {side : List Token} (oneSided : Token.OneSided side)
    (rest : List Token) :
    splitSides (side ++ rest) = (side ++ (splitSides rest).1, (splitSides rest).2) := by
  induction side with
  | nil => rfl
  | cons token side ih =>
    obtain ⟨plain, others⟩ := List.forall_mem_cons.mp oneSided
    rw [List.cons_append]
    cases token with
    | comparator c => cases plain
    | _ => rw [splitSides, ih others] <;> simp

theorem splitSides_eq {side : List Token} (oneSided : Token.OneSided side) :
    splitSides side = (side, []) := by
  simpa [splitSides] using splitSides_append oneSided []

theorem splitSides_comparator {side : List Token} (oneSided : Token.OneSided side)
    (c : Comparator) (rest : List Token) :
    splitSides (side ++ .comparator c :: rest) =
      (side, (c, (splitSides rest).1) :: (splitSides rest).2) := by
  rw [splitSides_append oneSided]
  simp [splitSides]

theorem join_splitSides (tokens : List Token) :
    (splitSides tokens).1 ++
      (splitSides tokens).2.flatMap (fun side => .comparator side.1 :: side.2) = tokens := by
  induction tokens with
  | nil => rfl
  | cons token tokens ih =>
    cases token with
    | comparator c => simpa [splitSides] using ih
    | _ => simpa [splitSides] using ih

theorem length_splitSides (tokens : List Token) :
    (splitSides tokens).2.length = tokens.countP Token.isComparator := by
  induction tokens with
  | nil => rfl
  | cons token tokens ih =>
    cases token with
    | comparator c => simpa [splitSides, Token.isComparator, List.countP_cons] using ih
    | _ => simpa [splitSides, Token.isComparator, List.countP_cons] using ih

section Values

variable [Literal F] {tokens : List Token}

theorem readValue_eq_ok {value : F} : readValue tokens = .ok value ↔ WrittenValue tokens value := by
  constructor
  · intro read
    unfold readValue at read
    split at read
    · exact .signed .absent read
    · exact .signed (.present false) read
    · exact .signed (.present true) read
    all_goals cases read
  · intro written
    cases written with
    | @signed negative _ _ _ sign amount =>
      cases sign with
      | absent => exact amount
      | present => cases negative <;> exact amount

theorem WrittenValue.isValue {value : F} (written : WrittenValue tokens value) :
    isValue tokens = true := by
  cases written with
  | @signed negative _ _ _ sign _ =>
    cases sign with
    | absent => rfl
    | present => cases negative <;> rfl

theorem exists_sign_of_isValue (value : isValue tokens = true) :
    ∃ negative lead number,
      Token.OptionalSign negative lead ∧ tokens = lead ++ [.number number] := by
  unfold isValue at value
  split at value
  · exact ⟨_, _, _, .absent, rfl⟩
  · exact ⟨_, _, _, .present false, rfl⟩
  · exact ⟨_, _, _, .present true, rfl⟩
  · cases value

variable [Scalar F]

theorem readSimple_eq_ok {c : Comparator} {left right : List Token} {comparison : Comparison F} :
    readSimple c left right = .ok comparison ↔ ∃ expression value,
      Expression.Written left expression ∧ WrittenValue right value ∧
        comparison = .simple c expression value := by
  constructor
  · intro read
    rw [readSimple] at read
    split at read
    · cases read
    · simp only [bind_eq_ok, mapError_eq_ok] at read
      obtain ⟨expression, readLeft, value, readRight, made⟩ := read
      exact ⟨expression, value, Expression.read_eq_ok.mp readLeft, readValue_eq_ok.mp readRight,
        (Except.ok.inj made).symm⟩
  · intro parts
    obtain ⟨expression, value, left, right, rfl⟩ := parts
    rw [readSimple, right.isValue]
    simp only [Bool.not_true, Bool.and_false, Bool.false_eq_true, ↓reduceIte, bind_eq_ok,
      mapError_eq_ok]
    exact ⟨expression, Expression.read_eq_ok.mpr left, value, readValue_eq_ok.mpr right, rfl⟩

theorem readChained_eq_ok {c : Comparator} {left middle right : List Token}
    {comparison : Comparison F} :
    readChained c left middle right = .ok comparison ↔ ∃ leftValue expression rightValue,
      WrittenValue left leftValue ∧ Expression.Written middle expression ∧
        WrittenValue right rightValue ∧
          comparison = .chained c leftValue expression rightValue := by
  simp only [readChained, bind_eq_ok, mapError_eq_ok, readValue_eq_ok, Expression.read_eq_ok,
    Except.ok.injEq]
  constructor
  · intro parts
    obtain ⟨leftValue, left, expression, middle, rightValue, right, made⟩ := parts
    exact ⟨leftValue, expression, rightValue, left, middle, right, made.symm⟩
  · intro parts
    obtain ⟨leftValue, expression, rightValue, left, middle, right, made⟩ := parts
    exact ⟨leftValue, left, expression, middle, rightValue, right, made.symm⟩

theorem read_eq_ok {comparison : Comparison F} :
    read tokens = .ok comparison ↔ Written tokens comparison := by
  constructor
  · intro read
    have joined := join_splitSides tokens
    unfold Comparison.read at read
    split at read
    · cases read
    · rename_i left c right sides
      obtain ⟨expression, value, writtenLeft, writtenRight, rfl⟩ := readSimple_eq_ok.mp read
      rw [← joined, sides]
      simpa using Written.simple c writtenLeft writtenRight
    · rename_i left first middle second right sides
      split at read
      · rename_i same
        obtain ⟨_, _, _, writtenLeft, writtenMiddle, writtenRight, rfl⟩ :=
          readChained_eq_ok.mp read
        rw [← joined, sides, ← same]
        simpa using Written.chained first writtenLeft writtenMiddle writtenRight
      · cases read
    · cases read
  · intro written
    cases written with
    | @simple left right expression value c writtenLeft writtenRight =>
      have sides := splitSides_comparator writtenLeft.oneSided c right
      rw [splitSides_eq writtenRight.oneSided] at sides
      rw [Comparison.read, sides]
      exact readSimple_eq_ok.mpr ⟨expression, value, writtenLeft, writtenRight, rfl⟩
    | @chained left middle right leftValue rightValue expression c writtenLeft writtenMiddle
        writtenRight =>
      have sides := splitSides_comparator writtenLeft.oneSided c
        (middle ++ .comparator c :: right)
      rw [splitSides_comparator writtenMiddle.oneSided,
        splitSides_eq writtenRight.oneSided] at sides
      rw [Comparison.read, sides]
      simp only [↓reduceIte]
      exact readChained_eq_ok.mpr
        ⟨leftValue, expression, rightValue, writtenLeft, writtenMiddle, writtenRight, rfl⟩

theorem not_written_of_isValue (value : isValue tokens = true) (expression : Expression F) :
    ¬ Expression.Written tokens expression := by
  intro written
  obtain ⟨_, lead, number, _, rfl⟩ := exists_sign_of_isValue value
  exact written.numbersScale.namesNext

end Values

section Rejections

variable [Literal F] [Scalar F] {tokens : List Token}

theorem read_of_no_comparator (none : tokens.countP Token.isComparator = 0) :
    (read tokens : Except ParseError (Comparison F)) = .error (.new .missingComparator) := by
  rw [← length_splitSides, List.length_eq_zero_iff] at none
  unfold Comparison.read
  split <;> simp_all

theorem read_of_value_first {left right : List Token} {c : Comparator}
    (value : isValue left = true) (single : Token.OneSided right) :
    ∃ error, (read (left ++ .comparator c :: right) : Except ParseError (Comparison F)) =
      .error error := by
  obtain ⟨_, lead, number, sign, parts⟩ := exists_sign_of_isValue value
  have oneSided : Token.OneSided left := by
    rw [parts]
    exact sign.oneSided.append (by simp [Token.OneSided, Token.isComparator])
  have sides := splitSides_comparator oneSided c right
  rw [splitSides_eq single] at sides
  rw [Comparison.read, sides]
  cases read : (readSimple c left right : Except ParseError (Comparison F)) with
  | error error => exact ⟨error, read⟩
  | ok comparison =>
    obtain ⟨expression, _, written, _⟩ := readSimple_eq_ok.mp read
    exact absurd written (not_written_of_isValue value expression)

theorem read_of_many_comparators (many : 2 < tokens.countP Token.isComparator) :
    (read tokens : Except ParseError (Comparison F)) =
      .error (.new (.tooManyComparators (tokens.countP Token.isComparator))) := by
  rw [← length_splitSides] at many ⊢
  unfold Comparison.read
  split <;> simp_all

end Rejections

end Comparison

/-- Tokens are read as the expression or the comparison that they are written as, and there is no
other way to read them: there have to be one or two comparators, a variable behind each number of
an expression, and no value in front of a single comparator. -/
theorem Comparison.read_recognizes_grammar [Scalar F] [Literal F] (tokens : List Token) :
    (∀ expression : Expression F,
      Expression.read tokens = .ok expression ↔ Expression.Written tokens expression) ∧
    (∀ comparison : Comparison F, read tokens = .ok comparison ↔ Written tokens comparison) ∧
    (tokens.countP Token.isComparator = 0 →
      (read tokens : Except ParseError (Comparison F)) = .error (.new .missingComparator)) ∧
    (2 < tokens.countP Token.isComparator →
      (read tokens : Except ParseError (Comparison F)) =
        .error (.new (.tooManyComparators (tokens.countP Token.isComparator)))) ∧
    (∀ before number after, tokens = before ++ .number number :: after →
      ¬ Token.NamesNext after →
        ∃ error, (Expression.read tokens : Except ParseError (Expression F)) = .error error) ∧
    (∀ left c right, tokens = left ++ .comparator c :: right → isValue left = true →
      Token.OneSided right →
        ∃ error, (read tokens : Except ParseError (Comparison F)) = .error error) := by
  refine ⟨fun _ => Expression.read_eq_ok, fun _ => read_eq_ok, read_of_no_comparator,
    read_of_many_comparators, ?_, ?_⟩
  · intro before number after parts nameless
    cases read : (Expression.read tokens : Except ParseError (Expression F)) with
    | error error => exact ⟨error, rfl⟩
    | ok expression =>
      have written := Expression.read_eq_ok.mp read
      rw [parts] at written
      exact absurd written.numbersScale.namesNext nameless
  · intro left c right parts value single
    rw [parts]
    exact read_of_value_first value single

def Comparison.chainTokens : List Token :=
  [.minus, .number "2", .comparator .lessEqual, .number "3", .times, .identifier "x",
    .minus, .identifier "max", .plus, .number ".5", .identifier "y", .comparator .lessEqual,
    .number "8"]

theorem Comparison.chain_recognized :
    (read chainTokens = .ok (.chained .lessEqual (-2)
      (.sum [.scaled 3 "x", .scaled (-1) "max", .scaled (1 / 2) "y"]) (8 : Rat))) ∧
    (read [.identifier "x"] : Except ParseError (Comparison Rat)) =
      .error (.new .missingComparator) ∧
    (read [.comparator .less, .comparator .less, .comparator .less] :
        Except ParseError (Comparison Rat)) = .error (.new (.tooManyComparators 3)) ∧
    (∃ error, (Expression.read [.identifier "x", .plus, .number "1"] :
      Except ParseError (Expression Rat)) = .error error) ∧
    ∃ error, (read [.number "0", .comparator .lessEqual, .identifier "x"] :
      Except ParseError (Comparison Rat)) = .error error := by
  have left : WrittenValue [.minus, .number "2"] (-2 : Rat) :=
    .signed (.present true) (by decide +kernel)
  have right : WrittenValue [.number "8"] (8 : Rat) := .signed .absent (by decide +kernel)
  have first : Term.Written false [.number "3", .times, .identifier "x"] (.scaled (3 : Rat) "x") :=
    .multiplied "x" (by decide +kernel)
  have last : Term.Written false [.number ".5", .identifier "y"] (.scaled (1 / 2 : Rat) "y") :=
    .scaled "y" (by decide +kernel)
  have middle := Expression.Written.terms .absent first
    (.cons (.negated "max") (.cons last .nil))
  refine ⟨((read_recognizes_grammar chainTokens).2.1 _).mpr (.chained _ left middle right), ?_, ?_,
    ?_, ?_⟩
  · exact (read_recognizes_grammar [.identifier "x"]).2.2.1 rfl
  · exact (read_recognizes_grammar _).2.2.2.1 (by decide)
  · exact (read_recognizes_grammar _).2.2.2.2.1 [.identifier "x", .plus] "1" [] rfl
      fun next => next
  · exact (read_recognizes_grammar _).2.2.2.2.2 [.number "0"] .lessEqual [.identifier "x"] rfl rfl
      (by simp [Token.OneSided, Token.isComparator])

end LinearProgram
