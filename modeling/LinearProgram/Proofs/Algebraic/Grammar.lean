import LinearProgram.Algebraic.Comparison
import LinearProgram.Proofs.Outcome

namespace LinearProgram

variable {F : Type}

def Token.sign (negative : Bool) : Token :=
  if negative then .minus else .plus

inductive Token.OptionalSign : Bool → List Token → Prop
  | absent : OptionalSign false []
  | present (negative : Bool) : OptionalSign negative [sign negative]

def Token.Amounts [Literal F] (negative : Bool) (number : String) (value : F) : Prop :=
  Literal.read (if negative then "-" ++ number else number) = .ok value

instance [Literal F] [DecidableEq F] (negative : Bool) (number : String) (value : F) :
    Decidable (Token.Amounts negative number value) :=
  inferInstanceAs (Decidable (_ = _))

inductive Term.Written [Scalar F] [Literal F] : Bool → List Token → Term F → Prop
  | bare (name : String) : Written false [.identifier name] (.bare name)
  | negated (name : String) :
    Written true [.identifier name] (.scaled (Scalar.neg Scalar.one) name)
  | scaled {negative : Bool} {number : String} {coefficient : F} (name : String) :
    Token.Amounts negative number coefficient →
      Written negative [.number number, .identifier name] (.scaled coefficient name)
  | multiplied {negative : Bool} {number : String} {coefficient : F} (name : String) :
    Token.Amounts negative number coefficient →
      Written negative [.number number, .times, .identifier name] (.scaled coefficient name)

inductive Term.WrittenSigned [Scalar F] [Literal F] : List Token → List (Term F) → Prop
  | nil : WrittenSigned [] []
  | cons {negative : Bool} {body rest : List Token} {term : Term F} {terms : List (Term F)} :
    Written negative body term → WrittenSigned rest terms →
      WrittenSigned (Token.sign negative :: (body ++ rest)) (term :: terms)

def Expression.ofTerms (first : Term F) : List (Term F) → Expression F
  | [] => .single first
  | others => .sum (first :: others)

/-- The tokens of an expression: terms that each have a sign, but for a plus at the start that may
be left out. -/
inductive Expression.Written [Scalar F] [Literal F] : List Token → Expression F → Prop
  | terms {negative : Bool} {lead body rest : List Token} {first : Term F}
      {others : List (Term F)} :
    Token.OptionalSign negative lead → Term.Written negative body first →
      Term.WrittenSigned rest others → Written (lead ++ (body ++ rest)) (ofTerms first others)

section Terms

variable [Scalar F] [Literal F] {negative : Bool} {tokens rest : List Token}

theorem Term.readFirst_of_written {body : List Token} {term : Term F}
    (written : Written negative body term) :
    readFirst negative (body ++ rest) = .ok (term, rest) := by
  cases written with
  | bare name | negated name => rfl
  | scaled name amount | multiplied name amount =>
    exact map_eq_ok.mpr ⟨_, amount, rfl⟩

theorem Term.written_of_readFirst {term : Term F}
    (read : readFirst negative tokens = .ok (term, rest)) :
    ∃ body, Written negative body term ∧ tokens = body ++ rest := by
  unfold readFirst at read
  split at read
  case h_1 number name _ =>
    obtain ⟨_, amount, made⟩ := map_eq_ok.mp read
    cases made
    exact ⟨_, .multiplied name amount, rfl⟩
  case h_2 number name _ =>
    obtain ⟨_, amount, made⟩ := map_eq_ok.mp read
    cases made
    exact ⟨_, .scaled name amount, rfl⟩
  case h_3 name _ =>
    cases read
    cases negative with
    | true => exact ⟨_, .negated name, rfl⟩
    | false => exact ⟨_, .bare name, rfl⟩
  all_goals cases read

theorem Term.readFirst_eq_ok {term : Term F} :
    readFirst negative tokens = .ok (term, rest) ↔
      ∃ body, Written negative body term ∧ tokens = body ++ rest := by
  constructor
  · exact written_of_readFirst
  · intro parts
    obtain ⟨body, written, rfl⟩ := parts
    exact readFirst_of_written written

theorem Term.readSigned_cons (negative : Bool) (tokens : List Token) :
    (readSigned (Token.sign negative :: tokens) : Except ParseError (List (Term F))) =
      (readFirst negative tokens >>= fun first => (readSigned first.2).map (first.1 :: ·)) := by
  have isSign : Token.sign negative = .plus ∨ Token.sign negative = .minus := by
    cases negative <;> simp [Token.sign]
  have sign : decide (Token.sign negative = .minus) = negative := by cases negative <;> rfl
  rw [readSigned, if_pos isSign]
  split <;> rename_i found <;> rw [sign] at found <;> rw [found] <;> rfl

theorem Term.readSigned_eq_ok {tokens : List Token} {terms : List (Term F)} :
    readSigned tokens = .ok terms ↔ WrittenSigned tokens terms := by
  constructor
  · intro read
    fun_induction readSigned (F := F) tokens generalizing terms with
    | case1 => cases read; exact .nil
    | case2 => cases read
    | case3 sign rest isSign first tail found ih =>
      obtain ⟨others, remaining, rfl⟩ := map_eq_ok.mp read
      obtain ⟨body, written, rfl⟩ := readFirst_eq_ok.mp found
      have signed : sign = Token.sign (sign = .minus) := by
        rcases isSign with rfl | rfl <;> rfl
      rw [signed]
      exact .cons written (ih remaining)
    | case4 => cases read
  · intro written
    induction written with
    | nil => rw [readSigned]
    | cons first _ ih =>
      rw [readSigned_cons, readFirst_of_written first]
      exact map_eq_ok.mpr ⟨_, ih, rfl⟩

def Expression.readTerms (negative : Bool) (tokens : List Token) :
    Except ParseError (Expression F) := do
  let (first, tail) ← Term.readFirst negative tokens
  match ← Term.readSigned tail with
  | [] => .ok (.single first)
  | others => .ok (.sum (first :: others))

theorem Expression.read_eq (tokens : List Token) :
    (read tokens : Except ParseError (Expression F)) =
      match tokens with
      | .minus :: rest => readTerms true rest
      | .plus :: rest => readTerms false rest
      | rest => readTerms false rest := by
  cases tokens with
  | nil => rfl
  | cons token rest => cases token <;> rfl

theorem Expression.readTerms_eq_ok {expression : Expression F} :
    readTerms negative tokens = .ok expression ↔ ∃ body rest first others,
      Term.Written negative body first ∧ Term.WrittenSigned rest others ∧ tokens = body ++ rest ∧
        expression = ofTerms first others := by
  simp only [readTerms, bind_eq_ok]
  constructor
  · intro read
    obtain ⟨⟨first, rest⟩, start, others, remaining, made⟩ := read
    obtain ⟨body, written, rfl⟩ := Term.readFirst_eq_ok.mp start
    have assembled : expression = ofTerms first others := by
      cases others <;> exact (Except.ok.inj made).symm
    exact ⟨body, rest, first, others, written, Term.readSigned_eq_ok.mp remaining, rfl, assembled⟩
  · intro parts
    obtain ⟨body, rest, first, others, written, remaining, rfl, rfl⟩ := parts
    refine ⟨(first, rest), Term.readFirst_of_written written, others,
      Term.readSigned_eq_ok.mpr remaining, ?_⟩
    cases others <;> rfl

theorem Expression.read_eq_ok {expression : Expression F} :
    read tokens = .ok expression ↔ Written tokens expression := by
  constructor
  · intro read
    rw [read_eq] at read
    split at read <;>
      obtain ⟨body, rest, first, others, written, remaining, rfl, rfl⟩ := readTerms_eq_ok.mp read
    · exact .terms (.present true) written remaining
    · exact .terms (.present false) written remaining
    · exact .terms .absent written remaining
  · intro written
    cases written with
    | @terms negative lead body rest first others sign start remaining =>
      have readRest := readTerms_eq_ok.mpr
        ⟨body, rest, first, others, start, remaining, rfl, rfl⟩
      rw [read_eq]
      cases sign with
      | present => cases negative <;> exact readRest
      | absent => cases start <;> exact readRest

end Terms

def Token.NamesNext : List Token → Prop
  | .identifier _ :: _ => True
  | .times :: .identifier _ :: _ => True
  | _ => False

def Token.NumbersScale : List Token → Prop
  | [] => True
  | .number _ :: rest => NamesNext rest ∧ NumbersScale rest
  | _ :: rest => NumbersScale rest

theorem Token.NumbersScale.namesNext {before after : List Token} {number : String}
    (scale : NumbersScale (before ++ .number number :: after)) : NamesNext after := by
  induction before with
  | nil => exact scale.1
  | cons token before ih =>
    cases token with
    | number _ => exact ih scale.2
    | _ => exact ih scale

theorem Token.OptionalSign.numbersScale {negative : Bool} {lead rest : List Token}
    (sign : OptionalSign negative lead) (scale : NumbersScale rest) :
    NumbersScale (lead ++ rest) := by
  cases sign with
  | absent => exact scale
  | present => cases negative <;> exact scale

section Coefficients

variable [Scalar F] [Literal F] {tokens : List Token}

theorem Term.Written.numbersScale {negative : Bool} {rest : List Token} {term : Term F}
    (written : Written negative tokens term) (scale : Token.NumbersScale rest) :
    Token.NumbersScale (tokens ++ rest) := by
  cases written with
  | bare | negated => exact scale
  | scaled | multiplied => exact ⟨trivial, scale⟩

theorem Term.WrittenSigned.numbersScale {terms : List (Term F)}
    (written : WrittenSigned tokens terms) : Token.NumbersScale tokens := by
  induction written with
  | nil => trivial
  | @cons negative _ _ _ _ first _ ih =>
    exact (Token.OptionalSign.present negative).numbersScale (first.numbersScale ih)

theorem Expression.Written.numbersScale {expression : Expression F}
    (written : Written tokens expression) : Token.NumbersScale tokens := by
  cases written with
  | terms sign first rest => exact sign.numbersScale (first.numbersScale rest.numbersScale)

end Coefficients

end LinearProgram
