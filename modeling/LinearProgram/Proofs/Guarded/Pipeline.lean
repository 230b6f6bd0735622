import LinearProgram.Proofs.Algebraic.Language
import LinearProgram.Proofs.Compile.Preservation
import LinearProgram.Proofs.Compile.Violation
import LinearProgram.Proofs.Guarded.Compile
import LinearProgram.Proofs.Guarded.Program
import LinearProgram.Proofs.Guarded.Writer

namespace LinearProgram

theorem Problem.CompilesTo.indicesFit {F : Type} [Scalar F] {problem : Problem F}
    {model : Model F} (made : problem.CompilesTo model) : model.IndicesFit := by
  intro entry member
  obtain ⟨firstRow, lastRow, column⟩ := made.indices entry member
  exact ⟨⟨firstRow, lastRow⟩, column⟩

section Exact

variable {F : Type} [Field F] [LinearOrder F] [Scalar F] [ExactScalar F]

theorem Problem.compile_ne_overflow (problem : Problem F) (stem : String) (cause : Overflow) :
    (problem.compile stem).outcome ≠ .error (.overflow cause) := by
  intro overflows
  have failure := failure?_compile stem problem
  rw [failure?_eq_some.mpr overflows] at failure
  obtain ⟨_, _, impossible⟩ := Option.map_eq_some_iff.mp failure.symm
  cases impossible

theorem Mps.exists_mps (model : Model F) (name : String) :
    ∃ text, (model.mps name).outcome = .ok text :=
  (exists_mps_iff model name).mpr fun row _ _ =>
    ⟨row.upper - row.lower, ExactScalar.subtract_eq row.upper row.lower⟩

end Exact

/-- With a check of each step that trusts its surroundings, texts are read, problems are compiled
and models are shown and written as they are without. So no check ever fails: not for any text, nor
for any problem, whether or not it was read from a text. -/
theorem Problem.pipeline_never_breaches :
    (∀ text : String, Guarded.Keeps (Problem.readGuarded Rational.readGuarded text)
      (Problem.parse text : Traced ParseError (Problem Rat)).outcome) ∧
    ∀ (problem : Problem Rat) (stem : String),
      Guarded.Keeps (problem.compileGuarded stem) (problem.compile stem).outcome ∧
      (∀ cause, (problem.compile stem).outcome ≠ .error (.overflow cause)) ∧
      ∀ model, (problem.compile stem).outcome = .ok model →
        (model.byColumnGuarded : Guarded Empty _) = .ok model.byColumn ∧
        (model.tableGuarded : Guarded Empty _) = .ok model.table ∧
        ∀ name, ∃ text, Mps.writeGuarded model name = .ok text ∧
          (model.mps name).outcome = .ok text := by
  constructor
  · intro text
    rw [outcome_parse]
    exact Guarded.keeps_of_eq (readGuarded_eq Rational.readGuarded_eq text)
  · intro problem stem
    refine ⟨Guarded.keeps_of_eq (compileGuarded_eq stem problem),
      problem.compile_ne_overflow stem, ?_⟩
    intro model compiled
    -- All that is done with a model relies on its entries lying in its rows and columns.
    have fit : model.IndicesFit := (compilesTo_of_ok compiled).indicesFit
    refine ⟨Model.byColumnGuarded_eq fit, Model.tableGuarded_eq fit, ?_⟩
    intro name
    obtain ⟨text, written⟩ := Mps.exists_mps model name
    have guarded := Mps.writeGuarded_eq fit name
    rw [written] at guarded
    exact ⟨text, guarded, written⟩

def Problem.hollow : Problem Rat where
  sense := .maximize
  objective := .sum [.bare "", .scaled 2 "x"]
  constraints :=
    [.simple .lessEqual (.sum []) 1, .simple .greaterEqual (.sum [.bare "x", .bare "x"]) 2,
      .simple .equal (.single (.bare "")) 3]
  bounds := [.simple .lessEqual (.single (.scaled (-2) "")) 4]

def Model.hollow : Model Rat where
  rows := [⟨"1", .upper, 0, 1⟩, ⟨"2", .lower, 2, 0⟩, ⟨"", .fixed, 3, 3⟩]
  columns := [⟨"", .lower, -2, 0⟩, ⟨"x", .free, 0, 0⟩]
  entries := [⟨2, 2, 1⟩, ⟨2, 2, 1⟩, ⟨3, 1, 1⟩]
  objective := [1, 2]
  sense := .maximize

theorem Problem.hollow_never_breaches :
    Guarded.Keeps (Problem.hollow.compileGuarded "") (.ok Model.hollow) ∧
      (Model.hollow.byColumnGuarded : Guarded Empty _) = .ok [[(3, 1)], [(2, 1), (2, 1)]] ∧
      ∃ text, Mps.writeGuarded Model.hollow "hollow" = .ok text := by
  have compiled : (Problem.hollow.compile "").outcome = .ok Model.hollow := by decide +kernel
  have columns : Model.hollow.byColumn = [[(3, 1)], [(2, 1), (2, 1)]] := by decide
  obtain ⟨keeps, _, shown⟩ := pipeline_never_breaches.2 Problem.hollow ""
  obtain ⟨byColumn, _, written⟩ := shown Model.hollow compiled
  obtain ⟨text, guarded, _⟩ := written "hollow"
  rw [compiled] at keeps
  rw [columns] at byColumn
  exact ⟨keeps, byColumn, text, guarded⟩

end LinearProgram
