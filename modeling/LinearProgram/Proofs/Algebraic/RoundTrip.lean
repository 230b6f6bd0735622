import LinearProgram.Proofs.Algebraic.Language
import LinearProgram.Proofs.Algebraic.Layout
import LinearProgram.Proofs.Algebraic.Source

namespace LinearProgram

theorem Expression.IsPrintable.tokens_start {expression : Expression Decimal}
    (printable : expression.IsPrintable) :
    ∃ negative rest, expression.tokens = Token.sign negative :: rest := by
  obtain ⟨first, others, terms, _⟩ := printable.proper.exists_ofTerms
  obtain ⟨negative, body, signed, _⟩ := first.exists_written
  refine ⟨negative, body ++ others.flatMap Term.tokens, ?_⟩
  rw [Expression.tokens, terms, List.flatMap_cons, signed, List.cons_append]

/-- A comparison has a sign or a number at its start. -/
theorem Comparison.tokens_start {comparison : Comparison Decimal}
    (printable : comparison.expression.IsPrintable) : ∃ token rest,
      comparison.tokens = token :: rest ∧ ∀ name, token ≠ .identifier name := by
  cases comparison with
  | simple c expression value =>
    obtain ⟨negative, rest, start⟩ := printable.tokens_start
    refine ⟨_, _, congrArg (· ++ _) start, ?_⟩
    cases negative <;> simp [Token.sign]
  | chained c left expression right =>
    rw [tokens, Decimal.tokens]
    cases left.negative with
    | true => exact ⟨_, _, rfl, by simp⟩
    | false => exact ⟨_, _, rfl, by simp⟩

theorem Token.Spelled.isLine {text : String} {tokens : List Token}
    (spelled : Spelled text tokens) (nonempty : tokens ≠ []) : IsLine text := by
  refine ⟨spelled.unbroken, ?_⟩
  rw [← Bool.not_eq_true]
  intro blank
  have empty := spelled.scanned
  rw [scan_of_all_isBlank blank] at empty
  exact nonempty (Except.ok.inj empty).symm

section Comparisons

variable {comparison : Comparison Decimal} (printable : comparison.expression.IsPrintable)
include printable

theorem Comparison.tokens_ne_nil : comparison.tokens ≠ [] := by
  obtain ⟨token, rest, start, _⟩ := tokens_start printable
  rw [start]
  exact List.cons_ne_nil _ _

theorem Comparison.isLine_source : IsLine comparison.source :=
  (spelled_source printable).isLine (tokens_ne_nil printable)

theorem Comparison.split_source :
    Heading.split comparison.source.toList = (none, comparison.source.toList) := by
  obtain ⟨token, rest, start, unnamed⟩ := tokens_start printable
  exact Heading.split_of_scan (start ▸ (spelled_source printable).scanned) unnamed

theorem Comparison.read_source :
    read comparison.tokens = .ok (comparison.map Decimal.value) :=
  read_eq_ok.mpr (written printable)

end Comparisons

section Lists

variable {comparisons : List (Comparison Decimal)}
  (printable : ∀ comparison ∈ comparisons, comparison.expression.IsPrintable)
include printable

theorem Comparison.map_split_source :
    comparisons.map (fun comparison => Heading.split comparison.source.toList) =
      comparisons.map fun comparison => (none, comparison.source.toList) :=
  List.map_congr_left fun comparison member => split_source (printable comparison member)

theorem Comparison.tokenLines_append_sources (lines : List HeadedLine) (heading : Heading)
    (place : Option Section) :
    tokenLines (lines ++ headedSection heading (comparisons.map (·.source.toList))) place =
      tokenLines lines place ++
        if some heading.opens = place then comparisons.map tokens else [] := by
  apply tokenLines_append_section
  · intro comparison member
    exact (spelled_source (printable comparison member)).scanned
  · intro comparison member
    exact tokens_ne_nil (printable comparison member)

theorem Comparison.scan_sources (heading : Heading) :
    ∀ line ∈ headedSection heading (comparisons.map (·.source.toList)),
      ∃ tokens, Token.scan line.2 = .ok tokens := by
  simp only [headedSection, List.forall_mem_cons, List.forall_mem_map]
  refine ⟨⟨_, Token.scan_nil⟩, ?_⟩
  intro comparison member
  exact ⟨_, (spelled_source (printable comparison member)).scanned⟩

theorem Comparison.read_sources :
    List.Forall₂ (fun tokens comparison => read tokens = .ok comparison)
      (comparisons.map tokens) (comparisons.map (Comparison.map Decimal.value)) := by
  rw [List.forall₂_map_left_iff, List.forall₂_map_right_iff, List.forall₂_same]
  intro comparison member
  exact read_source (printable comparison member)

end Lists

namespace Problem

variable {problem : Problem Decimal}

def cutLines (problem : Problem Decimal) (objective : List Char) : List HeadedLine :=
  [(some (.objective problem.sense), objective)] ++
    headedSection .constraints (problem.constraints.map (·.source.toList)) ++
    headedSection .bounds (problem.bounds.map (·.source.toList)) ++ [(some .ending, [])]

theorem IsPrintable.isLine_lines (printable : problem.IsPrintable) :
    ∀ line ∈ problem.lines, IsLine line := by
  have keyword : IsLine problem.sense.keyword := by cases problem.sense <;> decide
  have objective : IsLine (problem.sense.keyword ++ " " ++ problem.objective.source) := by
    constructor
    · exact (keyword.unbroken.append (by decide)).append printable.objective.spelled.unbroken
    · simp [keyword.not_blank]
  simp only [lines, List.forall_mem_append, List.forall_mem_cons, List.forall_mem_map]
  refine ⟨⟨⟨⟨⟨objective, by decide, by simp⟩, ?_⟩, by decide, by simp⟩, ?_⟩, by decide, by simp⟩
  · intro constraint member
    exact Comparison.isLine_source (printable.constraints constraint member)
  · intro bound member
    exact Comparison.isLine_source (printable.bounds bound member)

theorem IsPrintable.headedLines_source (printable : problem.IsPrintable) : ∃ objective,
    headedLines problem.source = problem.cutLines objective ∧
      Token.scan objective = .ok problem.objective.tokens := by
  obtain ⟨objective, start, scanned⟩ :=
    Heading.split_sense problem.sense printable.objective.spelled.scanned
  refine ⟨objective, ?_, scanned⟩
  -- The objective has its content behind the heading, the other headings stand by themselves.
  have first : Heading.split (problem.sense.keyword ++ " " ++ problem.objective.source).toList =
      (some (.objective problem.sense), objective) := by
    rw [← start, String.toList_append, String.toList_append, List.append_assoc]
    rfl
  have subject : Heading.split "subject to".toList = (some .constraints, []) := by decide +kernel
  have bounds : Heading.split "bounds".toList = (some .bounds, []) := by decide +kernel
  have ending : Heading.split "end".toList = (some .ending, []) := by decide +kernel
  rw [source, headedLines_unlines printable.isLine_lines]
  simp only [lines, cutLines, headedSection, List.map_append, List.map_cons, List.map_nil,
    List.map_map, Function.comp_def, List.append_assoc, List.cons_append, List.nil_append, first,
    subject, bounds, ending, Comparison.map_split_source printable.constraints,
    Comparison.map_split_source printable.bounds]

theorem headings_cutLines (objective : List Char) :
    headings (problem.cutLines objective) =
      [.objective problem.sense, .constraints, .bounds, .ending] := by
  rw [cutLines, headings_concat, headings_append_section, headings_append_section]
  rfl

def sectionTokens (problem : Problem Decimal) : Option Section → List (List Token)
  | some .objective => [problem.objective.tokens]
  | some .constraints => problem.constraints.map Comparison.tokens
  | some .bounds => problem.bounds.map Comparison.tokens
  | some .ending | none => []

section Tokens

variable (printable : problem.IsPrintable) {objective : List Char}
  (scanned : Token.scan objective = .ok problem.objective.tokens)
include printable scanned

theorem IsPrintable.tokenLines_cutLines :
    tokenLines (problem.cutLines objective) = problem.sectionTokens := by
  have nonempty : problem.objective.tokens ≠ [] := by
    obtain ⟨negative, rest, start⟩ := printable.objective.tokens_start
    rw [start]
    exact List.cons_ne_nil _ _
  funext place
  rw [cutLines, tokenLines_concat_nil Token.scan_nil,
    Comparison.tokenLines_append_sources printable.bounds,
    Comparison.tokenLines_append_sources printable.constraints,
    tokenLines_headed _ scanned nonempty]
  rcases place with _ | place
  · rfl
  · cases place <;> simp [Heading.opens, sectionTokens]

theorem IsPrintable.cutLines_scan :
    ∀ line ∈ problem.cutLines objective, ∃ tokens, Token.scan line.2 = .ok tokens := by
  simp only [cutLines, List.forall_mem_append, List.forall_mem_singleton]
  exact ⟨⟨⟨⟨_, scanned⟩, Comparison.scan_sources printable.constraints _⟩,
    Comparison.scan_sources printable.bounds _⟩, _, Token.scan_nil⟩

theorem IsPrintable.cutLines_fit :
    ∀ entry ∈ withEarlier [] (problem.cutLines objective), LineFits Rat entry.1 entry.2 := by
  refine lines_fit_iff.mpr ⟨?_, printable.cutLines_scan scanned, ?_⟩
  · rw [headings_cutLines]
    simp [Heading.opens, Section.rank]
  · intro place tokens member
    rw [printable.tokenLines_cutLines scanned] at member
    rcases place with _ | place
    · cases member
    · cases place with
      | objective => exact trivial
      | constraints =>
        have read := (Comparison.read_sources printable.constraints).flip
        obtain ⟨constraint, _, read⟩ := exists_of_forall₂ read tokens member
        exact ⟨constraint, read⟩
      | bounds =>
        have read := (Comparison.read_sources printable.bounds).flip
        obtain ⟨bound, _, read⟩ := exists_of_forall₂ read tokens member
        exact ⟨bound, read⟩
      | ending => cases member

theorem IsPrintable.cutLines_describe :
    Describes (problem.cutLines objective) (problem.map Decimal.value) := by
  have tokens := printable.tokenLines_cutLines scanned
  constructor
  · rw [headings_cutLines]
    rfl
  · have read : Expression.read problem.objective.tokens =
        .ok (problem.map Decimal.value).objective :=
      Expression.read_eq_ok.mpr printable.objective.written
    simpa [tokens, sectionTokens] using read
  · rw [tokens]
    exact Comparison.read_sources printable.constraints
  · rw [tokens]
    exact Comparison.read_sources printable.bounds

end Tokens

theorem IsPrintable.read_source (printable : problem.IsPrintable) :
    read problem.source = .ok (problem.map Decimal.value) := by
  obtain ⟨objective, lines, scanned⟩ := printable.headedLines_source
  rw [read_eq_ok, lines]
  exact ⟨printable.cutLines_fit scanned, printable.cutLines_describe scanned⟩

/-- A problem whose numbers are decimals can be printed, and with whichever decimals its numbers
are written out, it is read back as it was. -/
theorem parse_inverts_source {problem : Problem Rat} (printable : problem.IsPrintable)
    (decimals : ∀ value ∈ problem.numbers, Rational.IsDecimal value) :
    (∃ written : Problem Decimal, written.map Decimal.value = problem) ∧
      ∀ written : Problem Decimal, written.map Decimal.value = problem →
        (parse written.source : Traced ParseError (Problem Rat)).outcome = .ok problem := by
  constructor
  · apply mem_range_map
    intro value member
    exact Decimal.mem_range_value_iff.mpr (decimals value member)
  · rintro written rfl
    rw [outcome_parse, printable.of_map.read_source]

def worded : Problem Rat where
  sense := .maximize
  objective := .sum [.bare "max", .scaled (-5 / 2) "end", .scaled 1 "x\x27[1]"]
  constraints := [.simple .notEqual (.single (.scaled (1 / 200) "bounds")) (-3),
    .chained .less (-1) (.sum [.bare "subject", .bare "to"]) (7 / 4)]
  bounds := [.simple .greaterEqual (.single (.bare "st")) 0]

def wordedDecimals : Problem Decimal where
  sense := .maximize
  objective := .sum [.bare "max", .scaled (.capped true 250 2) "end",
    .scaled (.capped false 1 0) "x\x27[1]"]
  constraints := [
    .simple .notEqual (.single (.scaled (.capped false 5 3) "bounds")) (.capped true 3 0),
    .chained .less (.capped true 10 1) (.sum [.bare "subject", .bare "to"]) (.capped false 175 2)]
  bounds := [.simple .greaterEqual (.single (.bare "st")) (.capped false 0 0)]

example : wordedDecimals.lines =
    ["maximize + max - 2.50 end + 1 x\x27[1]", "subject to", "+ 0.005 bounds != -3",
      "-1.0 < + subject + to < 1.75", "bounds", "+ st >= 0", "end"] := by
  decide +kernel

theorem worded_read :
    (parse wordedDecimals.source : Traced ParseError (Problem Rat)).outcome = .ok worded := by
  have same : wordedDecimals.map Decimal.value = worded := by decide +kernel
  have numbers : worded.numbers = wordedDecimals.numbers.map Decimal.value := by decide +kernel
  refine (parse_inverts_source (by decide +kernel) ?_).2 wordedDecimals same
  rw [numbers, List.forall_mem_map]
  intro decimal _
  exact Decimal.mem_range_value_iff.mp ⟨decimal, rfl⟩

end Problem

end LinearProgram
