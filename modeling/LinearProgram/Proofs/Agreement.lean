import LinearProgram.Proofs.Algebraic.Embedding
import LinearProgram.Proofs.Algebraic.Language
import LinearProgram.Proofs.Compile.Embedding
import LinearProgram.Proofs.Mps.Embedding
import LinearProgram.Proofs.Number.Decimal

namespace LinearProgram

/-- Fractions of 64 bits and unbounded fractions lead to the same results: a text is read as the same
problem or rejected with the same error, and as long as no number lacks room, a problem is compiled
to the same model or rejected with the same error, and a model is written as the same text. -/
theorem Problem.exact_types_agree :
    (∀ text : String, (Problem.parse text : Traced ParseError (Problem Rat)).outcome =
      (Problem.parse text).outcome.map (Problem.map Fraction64.value)) ∧
    ∀ (problem : Problem Fraction64) (stem : String),
      (∀ cause, (problem.compile stem).outcome ≠ .error (.overflow cause)) →
        ((problem.map Fraction64.value).compile stem).outcome =
          (problem.compile stem).outcome.map (Model.map Fraction64.value) ∧
        ∀ model, (problem.compile stem).outcome = .ok model →
          ∀ name text, (model.mps name).outcome = .ok text →
            ((model.map Fraction64.value).mps name).outcome = .ok text := by
  have embedding := Fraction64.isEmbedding_value
  constructor
  · intro text
    rw [outcome_parse, outcome_parse]
    exact read_map embedding Fraction64.readsThrough_value text
  · intro problem stem roomy
    have compiled := problem.compile_transfers embedding stem
    constructor
    · apply compiled.eq_map
      intro failure failed overflow
      obtain ⟨cause, rfl⟩ := overflow
      exact roomy cause failed
    · intro model _ name text written
      have transfers := Mps.mps_transfers embedding model name
      rw [written] at transfers
      obtain ⟨_, written', rfl⟩ := transfers
      exact written'

def Problem.tenthsText : String :=
  "max x - 0.1 y\nsuch that\n0.5 <= x + 0.20 y <= 2.25\nbounds\n-0.50 x <= 1\n"

def Problem.tenths : Problem Fraction64 := Problem.map Fraction64.ofDecimal {
  sense := .maximize
  objective := .sum [.bare "x", .scaled (.capped true 1 1) "y"]
  constraints := [.chained .lessEqual (.capped false 5 1)
    (.sum [.bare "x", .scaled (.capped false 20 2) "y"]) (.capped false 225 2)]
  bounds := [.simple .lessEqual (.single (.scaled (.capped true 50 2) "x")) (.capped false 1 0)] }

def Model.tenths : Model Fraction64 := Model.map Fraction64.ofDecimal {
  rows := [⟨"R1", .double, .capped false 5 1, .capped false 225 2⟩]
  columns := [⟨"x", .lower, .capped true 2 0, .capped false 0 0⟩,
    ⟨"y", .free, .capped false 0 0, .capped false 0 0⟩]
  entries := [⟨1, 1, .capped false 1 0⟩, ⟨1, 2, .capped false 2 1⟩]
  objective := [.capped false 1 0, .capped true 1 1]
  sense := .maximize }

def Model.tenthsFile : String :=
  Text.unlines ["NAME          tenths", "OBJSENSE", "    MAX", "ROWS", " N  COST", " L  R1",
    "COLUMNS", "    x         COST      1", "    x         R1        1",
    "    y         COST      -1/10", "    y         R1        1/5", "RHS",
    "    RHS       R1        9/4", "RANGES", "    RNG       R1        7/4", "BOUNDS",
    " LO BND       x         -2", " FR BND       y", "ENDATA"]

theorem Problem.tenths_agree :
    (Problem.parse tenthsText).outcome = .ok (tenths.map Fraction64.value) ∧
      ((tenths.map Fraction64.value).compile "R").outcome =
        .ok (Model.tenths.map Fraction64.value) ∧
      ((Model.tenths.map Fraction64.value).mps "tenths").outcome = .ok Model.tenthsFile := by
  have read : (Problem.parse tenthsText).outcome = .ok tenths := by decide +kernel
  have compiled : (tenths.compile "R").outcome = .ok Model.tenths := by decide +kernel
  have written : (Model.tenths.mps "tenths").outcome = .ok Model.tenthsFile := by decide +kernel
  obtain ⟨reads, compiles⟩ := exact_types_agree
  have roomy : ∀ cause, (tenths.compile "R").outcome ≠ .error (.overflow cause) := by
    intro cause overflow
    rw [compiled] at overflow
    cases overflow
  obtain ⟨same, writes⟩ := compiles tenths "R" roomy
  have read' := reads tenthsText
  rw [read] at read'
  rw [compiled] at same
  exact ⟨read', same, writes Model.tenths compiled "tenths" Model.tenthsFile written⟩

end LinearProgram
