import LinearProgram.Proofs.Algebraic.Lexing
import LinearProgram.Proofs.Algebraic.Recognition
import LinearProgram.Proofs.Number.Decimal
import LinearProgram.Proofs.Problem.Map
import LinearProgram.Proofs.Text.Lines

namespace LinearProgram

def Token.signText (negative : Bool) : String :=
  if negative then "-" else "+"

def Term.source : Term Decimal → String
  | .bare name => Token.signText false ++ " " ++ name
  | .scaled coefficient name =>
    Token.signText coefficient.negative ++ " " ++ (coefficient.magnitude ++ " " ++ name)

def Expression.source (expression : Expression Decimal) : String :=
  " ".intercalate (expression.terms.map Term.source)

def Comparison.source : Comparison Decimal → String
  | .simple comparator expression value =>
    expression.source ++ " " ++ (comparator.symbol ++ " " ++ value.text)
  | .chained comparator left expression right =>
    left.text ++ " " ++ (comparator.symbol ++ " " ++
      (expression.source ++ " " ++ (comparator.symbol ++ " " ++ right.text)))

def Problem.lines (problem : Problem Decimal) : List String :=
  [problem.sense.keyword ++ " " ++ problem.objective.source, "subject to"] ++
    problem.constraints.map Comparison.source ++ ["bounds"] ++
    problem.bounds.map Comparison.source ++ ["end"]

def Problem.source (problem : Problem Decimal) : String :=
  Text.unlines problem.lines

def Term.tokens : Term Decimal → List Token
  | .bare name => [Token.sign false, .identifier name]
  | .scaled coefficient name =>
    [Token.sign coefficient.negative, .number coefficient.magnitude, .identifier name]

def Expression.tokens (expression : Expression Decimal) : List Token :=
  expression.terms.flatMap Term.tokens

def Decimal.tokens (decimal : Decimal) : List Token :=
  (if decimal.negative then [.minus] else []) ++ [.number decimal.magnitude]

def Comparison.tokens : Comparison Decimal → List Token
  | .simple comparator expression value =>
    expression.tokens ++ .comparator comparator :: value.tokens
  | .chained comparator left expression right =>
    left.tokens ++ .comparator comparator ::
      (expression.tokens ++ .comparator comparator :: right.tokens)

section Printable

variable {F G : Type}

/-- A sum of one term reads as that term, and a sum of none leaves nothing to read. -/
def Expression.IsProper : Expression F → Prop
  | .single _ => True
  | .sum terms => 2 ≤ terms.length

instance : DecidablePred (Expression.IsProper (F := F))
  | .single _ => inferInstanceAs (Decidable True)
  | .sum terms => inferInstanceAs (Decidable (2 ≤ terms.length))

structure Expression.IsPrintable (expression : Expression F) : Prop where
  proper : expression.IsProper
  names : ∀ term ∈ expression.terms, Text.IsName term.name.toList

instance (expression : Expression F) : Decidable expression.IsPrintable :=
  decidable_of_iff (expression.IsProper ∧
      ∀ term ∈ expression.terms, Text.IsName term.name.toList)
    ⟨fun both => ⟨both.1, both.2⟩, fun printable => ⟨printable.proper, printable.names⟩⟩

structure Problem.IsPrintable (problem : Problem F) : Prop where
  objective : problem.objective.IsPrintable
  constraints : ∀ constraint ∈ problem.constraints, constraint.expression.IsPrintable
  bounds : ∀ bound ∈ problem.bounds, bound.expression.IsPrintable

instance (problem : Problem F) : Decidable problem.IsPrintable :=
  decidable_of_iff (problem.objective.IsPrintable ∧
      (∀ constraint ∈ problem.constraints, constraint.expression.IsPrintable) ∧
        ∀ bound ∈ problem.bounds, bound.expression.IsPrintable)
    ⟨fun all => ⟨all.1, all.2.1, all.2.2⟩,
      fun printable => ⟨printable.objective, printable.constraints, printable.bounds⟩⟩

theorem Expression.IsProper.exists_ofTerms {expression : Expression F}
    (proper : expression.IsProper) :
    ∃ first others, expression.terms = first :: others ∧ expression = ofTerms first others := by
  cases expression with
  | single term => exact ⟨term, [], rfl, rfl⟩
  | sum terms =>
    match terms, proper with
    | first :: second :: others, _ => exact ⟨first, second :: others, rfl, rfl⟩

theorem Expression.map_ofTerms (f : F → G) (first : Term F) (others : List (Term F)) :
    (ofTerms first others).map f = ofTerms (first.map f) (others.map (Term.map f)) := by
  cases others <;> rfl

theorem Expression.isPrintable_map (f : F → G) (expression : Expression F) :
    (expression.map f).IsPrintable ↔ expression.IsPrintable := by
  have proper : (expression.map f).IsProper ↔ expression.IsProper := by
    cases expression <;> simp [Expression.map, IsProper]
  have names : (∀ term ∈ (expression.map f).terms, Text.IsName term.name.toList) ↔
      ∀ term ∈ expression.terms, Text.IsName term.name.toList := by
    simp
  constructor
  · intro printable
    exact ⟨proper.mp printable.proper, names.mp printable.names⟩
  · intro printable
    exact ⟨proper.mpr printable.proper, names.mpr printable.names⟩

theorem Problem.IsPrintable.of_map {f : F → G} {problem : Problem F}
    (printable : (problem.map f).IsPrintable) : problem.IsPrintable := by
  have each {comparisons : List (Comparison F)}
      (mapped : ∀ comparison ∈ comparisons.map (Comparison.map f),
        comparison.expression.IsPrintable) :
      ∀ comparison ∈ comparisons, comparison.expression.IsPrintable := by
    intro comparison member
    have printed := mapped _ (List.mem_map_of_mem member)
    rw [Comparison.expression_map] at printed
    exact (Expression.isPrintable_map f _).mp printed
  exact ⟨(Expression.isPrintable_map f _).mp printable.objective, each printable.constraints,
    each printable.bounds⟩

end Printable

structure Token.Spelled (text : String) (tokens : List Token) : Prop where
  unbroken : IsUnbroken text
  scanned : scan text.toList = .ok tokens

namespace Token

theorem Spelled.join {first second : String} {before after : List Token}
    (start : Spelled first before) (rest : Spelled second after) :
    Spelled (first ++ " " ++ second) (before ++ after) := by
  constructor
  · exact (start.unbroken.append (by decide)).append rest.unbroken
  · rw [String.toList_append, String.toList_append, List.append_assoc]
    exact scan_append_blank (by decide) start.scanned rest.scanned

theorem Spelled.intercalate {α : Type} {items : List α} {text : α → String}
    {tokens : α → List Token} (each : ∀ item ∈ items, Spelled (text item) (tokens item)) :
    Spelled (" ".intercalate (items.map text)) (items.flatMap tokens) := by
  induction items with
  | nil => exact ⟨by simp [IsUnbroken], scan_nil⟩
  | cons item items ih =>
    obtain ⟨first, others⟩ := List.forall_mem_cons.mp each
    cases items with
    | nil => simpa using first
    | cons next items =>
      rw [List.map_cons, List.map_cons, String.intercalate_cons_cons, List.flatMap_cons]
      exact first.join (ih others)

theorem spelled_sign (negative : Bool) : Spelled (signText negative) [sign negative] := by
  cases negative <;> exact ⟨by decide, scan_of_whole rfl rfl⟩

theorem spelled_name {name : String} (isName : Text.IsName name.toList) :
    Spelled name [.identifier name] :=
  ⟨.of_all (Text.all_isNamePart isName) (by decide), scan_name isName⟩

theorem spelled_symbol (c : Comparator) : Spelled c.symbol [.comparator c] := by
  constructor
  · cases c <;> decide
  · exact scan_symbol c

end Token

theorem Decimal.spelled_magnitude (decimal : Decimal) :
    Token.Spelled decimal.magnitude [.number decimal.magnitude] := by
  obtain ⟨c, rest, written, _⟩ := decimal.exists_magnitude
  have nonempty : decimal.magnitude.toList ≠ [] := by simp [written]
  refine ⟨.of_all decimal.all_isDigitOrPoint_magnitude (by decide), ?_⟩
  rw [Token.scan_number nonempty decimal.all_isDigitOrPoint_magnitude, String.ofList_toList]

theorem Decimal.spelled_text (decimal : Decimal) : Token.Spelled decimal.text decimal.tokens := by
  have magnitude := decimal.spelled_magnitude
  rw [text, tokens]
  cases decimal.negative with
  | false => exact magnitude
  | true =>
    refine ⟨IsUnbroken.append (by decide) magnitude.unbroken, ?_⟩
    simpa using Token.scan_minus magnitude.scanned

theorem Term.spelled_source {term : Term Decimal} (isName : Text.IsName term.name.toList) :
    Token.Spelled term.source term.tokens := by
  cases term with
  | bare name => exact (Token.spelled_sign false).join (Token.spelled_name isName)
  | scaled coefficient name =>
    exact (Token.spelled_sign _).join (coefficient.spelled_magnitude.join
      (Token.spelled_name isName))

theorem Expression.IsPrintable.spelled {expression : Expression Decimal}
    (printable : expression.IsPrintable) : Token.Spelled expression.source expression.tokens :=
  .intercalate fun term member => Term.spelled_source (printable.names term member)

theorem Comparison.spelled_source {comparison : Comparison Decimal}
    (printable : comparison.expression.IsPrintable) :
    Token.Spelled comparison.source comparison.tokens := by
  cases comparison with
  | simple c expression value =>
    exact printable.spelled.join ((Token.spelled_symbol c).join value.spelled_text)
  | chained c left expression right =>
    exact left.spelled_text.join ((Token.spelled_symbol c).join
      (printable.spelled.join ((Token.spelled_symbol c).join right.spelled_text)))

theorem Decimal.amounts (decimal : Decimal) :
    Token.Amounts decimal.negative decimal.magnitude decimal.value :=
  map_eq_ok.mpr ⟨decimal, decimal.read_text, rfl⟩

theorem Decimal.writtenValue (decimal : Decimal) :
    Comparison.WrittenValue decimal.tokens decimal.value := by
  have amount := decimal.amounts
  rw [tokens]
  cases negative : decimal.negative with
  | true => exact .signed (.present true) (negative ▸ amount)
  | false => exact .signed .absent (negative ▸ amount)

theorem Term.exists_written (term : Term Decimal) : ∃ negative body,
    term.tokens = Token.sign negative :: body ∧ Written negative body (term.map Decimal.value) := by
  cases term with
  | bare name => exact ⟨false, _, rfl, .bare name⟩
  | scaled coefficient name => exact ⟨_, _, rfl, .scaled name coefficient.amounts⟩

theorem Term.writtenSigned (terms : List (Term Decimal)) :
    WrittenSigned (terms.flatMap tokens) (terms.map (Term.map Decimal.value)) := by
  induction terms with
  | nil => exact .nil
  | cons term terms ih =>
    obtain ⟨negative, body, signed, written⟩ := term.exists_written
    rw [List.flatMap_cons, signed]
    exact .cons written ih

theorem Expression.IsPrintable.written {expression : Expression Decimal}
    (printable : expression.IsPrintable) :
    Written expression.tokens (expression.map Decimal.value) := by
  obtain ⟨first, others, terms, shape⟩ := printable.proper.exists_ofTerms
  obtain ⟨negative, body, signed, written⟩ := first.exists_written
  have tokens : expression.tokens =
      [Token.sign negative] ++ (body ++ others.flatMap Term.tokens) := by
    rw [Expression.tokens, terms, List.flatMap_cons, signed, List.cons_append,
      List.singleton_append]
  rw [tokens, shape, map_ofTerms]
  exact .terms (.present negative) written (Term.writtenSigned others)

theorem Comparison.written {comparison : Comparison Decimal}
    (printable : comparison.expression.IsPrintable) :
    Written comparison.tokens (comparison.map Decimal.value) := by
  cases comparison with
  | simple c expression value =>
    exact .simple c printable.written value.writtenValue
  | chained c left expression right =>
    exact .chained c left.writtenValue printable.written right.writtenValue

end LinearProgram
