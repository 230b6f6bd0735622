import LinearProgram.Algebraic.Program
import LinearProgram.Mps.Writer
import LinearProgram.Proofs.Compile.Acceptance
import LinearProgram.Proofs.Compile.Embedding
import LinearProgram.Proofs.Mps.Ranges
import LinearProgram.Proofs.Number.Decimal

namespace LinearProgram

variable {F : Type}

def Comparison.values : Comparison F → List F
  | .simple _ _ value => [value]
  | .chained _ left _ right => [left, right]

theorem Comparison.mem_values_iff {comparison : Comparison F} {interval : Interval F}
    (resolved : comparison.interval = .ok interval) (value : F) :
    value ∈ comparison.values ↔ value ∈ interval.lower ∨ value ∈ interval.upper := by
  cases comparison with
  | simple comparator _ _ | chained comparator _ _ _ =>
    cases comparator <;> cases resolved <;> simp [values, eq_comm, or_comm]

/-- Compilation overflows only while the values of a bound are divided by its coefficient. -/
theorem Problem.exists_overflow [Scalar F] {stem : String} {problem : Problem F} {cause : Overflow}
    (overflows : (problem.compile stem).outcome = .error (.overflow cause)) :
    ∃ bound ∈ problem.bounds, ∃ restriction name, bound.restriction = .ok restriction ∧
      bound.subject? = some name ∧
        columnInterval name restriction = .error (.overflow cause) := by
  have rejects {α : Type} {work : Except CompileError α} :
      work.mapError CompileFailure.rejected ≠ .error (.overflow cause) := by
    intro failed
    obtain ⟨_, _, impossible⟩ := mapError_eq_error.mp failed
    cases impossible
  rw [outcome_compile] at overflows
  obtain ⟨outline, outlined, overflows⟩ := (bind_eq_error.mp overflows).resolve_left rejects
  obtain ⟨entries, _, overflows⟩ := (bind_eq_error.mp overflows).resolve_left rejects
  have stopped : (outline.columns.names.toList.mapM fun name =>
      (boundedInterval name outline.bounds[name]?).map fun interval => interval.band name) =
        .error (.overflow cause) := by
    rcases bind_eq_error.mp overflows with stopped | ⟨_, _, impossible⟩
    · exact stopped
    · cases impossible
  rw [← failure?_eq_some, failure?_mapM] at stopped
  obtain ⟨name, _, failed⟩ := List.mem_filterMap.mp (List.mem_of_mem_head? stopped)
  rw [failure?_map, failure?_eq_some] at failed
  obtain ⟨_, _, collected⟩ := outline_eq_ok.mp (mapError_eq_ok.mp outlined)
  have assigned := assigned_of_boundsByName collected
  cases found : outline.bounds[name]? with
  | none =>
    rw [found] at failed
    cases failed
  | some restriction =>
    rw [found] at failed
    obtain ⟨bound, given, subject, resolved⟩ := (assigned.found name restriction).mp found
    exact ⟨bound, given, restriction, name, resolved, subject, failed⟩

/-- Whether the values of a bound have room in 64 bits once they are divided by the coefficient of
its variable; by one they are not divided. -/
def Comparison.QuotientsFit (bound : Comparison Fraction64) : Prop :=
  ∀ term ∈ bound.expression.form, term.coefficient.value ≠ 1 →
    ∀ value ∈ bound.values, Fraction64.Fits (value.value / term.coefficient.value)

def Comparison.WidthFits (constraint : Comparison Fraction64) : Prop :=
  ∀ lower upper, constraint.interval = .ok ⟨some lower, some upper⟩ →
    lower.value < upper.value → Fraction64.HaveDifference upper lower

namespace Fraction64

theorem exists_divide_interval_iff (interval : Interval Fraction64) (divisor : Fraction64) :
    (∃ quotient, interval.divide divisor = .ok quotient) ↔
      ∀ value, value ∈ interval.lower ∨ value ∈ interval.upper →
        Fits (value.value / divisor.value) := by
  have each (ending : Option Fraction64) :
      (∃ result, ending.mapM (Scalar.divide · divisor) = .ok result) ↔
        ∀ value ∈ ending, Fits (value.value / divisor.value) := by
    cases ending with
    | none => simp [pure, Except.pure]
    | some value =>
      have divides : (∃ c, Scalar.divide value divisor = .ok c) ↔ _ := exists_divide_iff
      simp only [Option.mapM_some, Option.mem_some, forall_eq', ← divides]
      cases Scalar.divide value divisor <;> simp [Functor.map, Except.map]
  simp only [or_imp, forall_and, ← each]
  unfold Interval.divide
  simp only [bind_eq_ok]
  constructor
  · intro divided
    obtain ⟨_, lower, first, upper, second, _⟩ := divided
    exact ⟨⟨lower, first⟩, upper, second⟩
  · intro divided
    obtain ⟨⟨lower, first⟩, upper, second⟩ := divided
    exact ⟨_, lower, first, upper, second, rfl⟩

/-- A restricted multiple of a variable leads to an overflow unless its ends have room once they are
divided. A vanishing factor is rejected before anything is divided. -/
theorem roomy_columnInterval_iff {name : String} {restriction : Restriction Fraction64}
    {term : Monomial Fraction64} (form : restriction.form = [term]) :
    (∀ cause, columnInterval name restriction ≠ .error (.overflow cause)) ↔
      (term.coefficient.value ≠ 1 →
        ∀ value, value ∈ restriction.interval.lower ∨ value ∈ restriction.interval.upper →
          Fits (value.value / term.coefficient.value)) := by
  have isOne : Scalar.eq term.coefficient Scalar.one = true ↔ term.coefficient.value = 1 :=
    beq_iff_eq
  have isZero : Scalar.isZero term.coefficient = true ↔ term.coefficient.value = 0 := beq_iff_eq
  simp only [columnInterval, form, isOne, isZero]
  by_cases one : term.coefficient.value = 1
  · simp [one]
  · by_cases zero : term.coefficient.value = 0
    · have nothing : Fits 0 := by decide
      simp [zero, nothing]
    · simp only [one, zero, ↓reduceIte, ne_eq, not_false_eq_true, true_imp_iff,
        ← exists_divide_interval_iff]
      cases restriction.interval.divide term.coefficient <;>
        simp [Except.mapError, bind, Except.bind, pure, Except.pure]

end Fraction64

theorem Comparison.quotientsFit_iff {bound : Comparison Fraction64}
    {restriction : Restriction Fraction64} {subject : String} (name : String)
    (resolved : bound.restriction = .ok restriction) (single : bound.subject? = some subject) :
    bound.QuotientsFit ↔
      ∀ cause, columnInterval name restriction ≠ .error (.overflow cause) := by
  obtain ⟨coefficient, form⟩ := form_eq_singleton resolved single
  obtain ⟨interval, written⟩ := restriction_eq_ok.mp resolved
  simp only [QuotientsFit, Fraction64.roomy_columnInterval_iff form, ← written, form,
    List.forall_mem_singleton, mem_values_iff interval]

theorem Comparison.widthFits_iff {constraint : Comparison Fraction64}
    {interval : Interval Fraction64} (resolved : constraint.interval = .ok interval)
    (name : String) :
    constraint.WidthFits ↔ (Mps.hasRange (interval.band name) →
      ∃ width, Scalar.subtract (interval.band name).upper (interval.band name).lower =
        .ok width) := by
  unfold WidthFits
  rw [resolved]
  rcases interval with ⟨_ | lower, _ | upper⟩
  · simp [Mps.hasRange, Interval.band, Interval.kind]
  · simp [Mps.hasRange, Interval.band, Interval.kind]
  · simp [Mps.hasRange, Interval.band, Interval.kind]
  · have different : Scalar.eq lower upper = true ↔ lower.value = upper.value := beq_iff_eq
    have ordered : Scalar.le lower upper = true ↔ lower.value ≤ upper.value := decide_eq_true_iff
    have subtracts : (∃ width, Scalar.subtract upper lower = .ok width) ↔ _ :=
      Fraction64.exists_subtract_iff
    have ranged : Mps.hasRange ((⟨some lower, some upper⟩ : Interval Fraction64).band name) ↔
        lower.value < upper.value := by
      simp only [Mps.hasRange, Interval.band, Interval.kind, different, Option.getD_some,
        Bool.and_eq_true, decide_eq_true_eq, ordered, lt_iff_le_and_ne, ne_eq]
      split <;> simp [*]
    rw [ranged]
    simp [Interval.band, subtracts]

namespace Problem

/-- Unless the values of a bound have no room once they are divided, compilation comes to an end. -/
theorem roomy_compile {problem : Problem Fraction64} {stem : String}
    (quotients : ∀ bound ∈ problem.bounds, bound.QuotientsFit) (cause : Overflow) :
    (problem.compile stem).outcome ≠ .error (.overflow cause) := by
  intro overflows
  obtain ⟨bound, given, restriction, name, resolved, single, failed⟩ := exists_overflow overflows
  exact (Comparison.quotientsFit_iff name resolved single).mp (quotients bound given) cause failed

theorem quotientsFit_of_compile {problem : Problem Fraction64} {stem : String}
    {model : Model Fraction64} (compiled : (problem.compile stem).outcome = .ok model) :
    ∀ bound ∈ problem.bounds, bound.QuotientsFit := by
  have made := compilesTo_of_ok compiled
  intro bound given
  obtain ⟨name, known, subject⟩ := made.subject bound given
  rw [← made.columns] at known
  obtain ⟨column, present, rfl⟩ := List.mem_map.mp known
  obtain ⟨restriction, interval, resolved, scaled, _⟩ :=
    made.bounded column present bound given subject
  rw [Comparison.quotientsFit_iff column.name resolved subject, scaled]
  intro cause impossible
  cases impossible

/-- A model that a problem is compiled to is written just when the width of each constraint can be
formed. -/
theorem exists_mps_iff_widthFits {problem : Problem Fraction64} {stem : String}
    {model : Model Fraction64} (compiled : (problem.compile stem).outcome = .ok model)
    (name : String) :
    (∃ text, (model.mps name).outcome = .ok text) ↔
      ∀ constraint ∈ problem.constraints, constraint.WidthFits := by
  have rows := (compilesTo_of_ok compiled).rows
  rw [Mps.exists_mps_iff]
  constructor
  · intro subtracts constraint given
    obtain ⟨row, present, interval, resolved, band⟩ := exists_of_forall₂ rows.flip constraint given
    rw [Comparison.widthFits_iff resolved row.name, ← band]
    exact subtracts row present
  · intro widths row present
    obtain ⟨constraint, given, interval, resolved, band⟩ := exists_of_forall₂ rows row present
    have fits := (Comparison.widthFits_iff resolved row.name).mp (widths constraint given)
    rw [← band] at fits
    exact fits

theorem exists_compile_map_iff (problem : Problem Fraction64) (stem : String) :
    (∃ image, ((problem.map Fraction64.value).compile stem).outcome = .ok image) ↔
      (problem.map Fraction64.value).Acceptable := by
  rw [← failure?_eq_none, failure?_compile, Option.map_eq_none_iff, List.head?_eq_none_iff,
    violations_eq_nil]

section

variable (stem : String) {problem : Problem Fraction64}
  (quotients : ∀ bound ∈ problem.bounds, bound.QuotientsFit)
include quotients

theorem compile_map_of_quotientsFit : ((problem.map Fraction64.value).compile stem).outcome =
    (problem.compile stem).outcome.map (Model.map Fraction64.value) := by
  apply (problem.compile_transfers Fraction64.isEmbedding_value stem).eq_map
  rintro _ failed ⟨cause, rfl⟩
  exact roomy_compile quotients cause failed

theorem exists_compile_iff_of_quotientsFit :
    (∃ model, (problem.compile stem).outcome = .ok model) ↔
      (problem.map Fraction64.value).Acceptable := by
  rw [← problem.exists_compile_map_iff stem, compile_map_of_quotientsFit stem quotients]
  cases (problem.compile stem).outcome <;> simp [Except.map]

/-- A problem that describes no linear program is rejected for the first of its violations. -/
theorem rejected_of_not_acceptable (unacceptable : ¬ (problem.map Fraction64.value).Acceptable) :
    ∃ first, (problem.map Fraction64.value).violations.head? = some first ∧
      (problem.compile stem).outcome = .error (.rejected first) := by
  have same := compile_map_of_quotientsFit stem quotients
  cases compiled : (problem.compile stem).outcome with
  | ok model =>
    have compiles := exists_compile_iff_of_quotientsFit stem quotients
    exact absurd (compiles.mp ⟨model, compiled⟩) unacceptable
  | error failure =>
    rw [compiled] at same
    obtain ⟨first, violated, rfl⟩ := Option.map_eq_some_iff.mp
      ((failure?_compile stem _).symm.trans (failure?_eq_some.mpr same))
    exact ⟨first, violated, rfl⟩

end

/-- Over fractions of 64 bits, a problem is compiled and its model written just when it describes a
linear program, the values of its bounds have room once they are divided, and so have the widths of
its constraints. As long as the values of its bounds have room, one that describes no linear program
is rejected. -/
theorem pipeline_finishes_iff (problem : Problem Fraction64) (stem name : String) :
    ((∃ model text, (problem.compile stem).outcome = .ok model ∧
        (model.mps name).outcome = .ok text) ↔
      (problem.map Fraction64.value).Acceptable ∧
        (∀ bound ∈ problem.bounds, bound.QuotientsFit) ∧
          ∀ constraint ∈ problem.constraints, constraint.WidthFits) ∧
    ((∀ bound ∈ problem.bounds, bound.QuotientsFit) →
      ¬ (problem.map Fraction64.value).Acceptable →
        ∃ first, (problem.map Fraction64.value).violations.head? = some first ∧
          (problem.compile stem).outcome = .error (.rejected first)) := by
  refine ⟨⟨?_, ?_⟩, rejected_of_not_acceptable stem⟩
  · intro finishes
    obtain ⟨model, text, compiled, written⟩ := finishes
    have quotients := quotientsFit_of_compile compiled
    exact ⟨(exists_compile_iff_of_quotientsFit stem quotients).mp ⟨model, compiled⟩, quotients,
      (exists_mps_iff_widthFits compiled name).mp ⟨text, written⟩⟩
  · intro fitting
    obtain ⟨acceptable, quotients, widths⟩ := fitting
    obtain ⟨model, compiled⟩ := (exists_compile_iff_of_quotientsFit stem quotients).mpr acceptable
    obtain ⟨text, written⟩ := (exists_mps_iff_widthFits compiled name).mpr widths
    exact ⟨model, text, compiled, written⟩

def doubled : Problem Fraction64 := Problem.map Fraction64.ofDecimal {
  sense := .minimize
  objective := .single (.bare "x")
  constraints := []
  bounds := [.simple .lessEqual (.single (.scaled (.capped false 2 0) "x")) (.capped false 3 0),
    .simple .greaterEqual (.single (.bare "x")) (.capped false 1 0)] }

theorem doubled_rejected :
    (doubled.compile "R").outcome = .error (.rejected (.duplicateBound "x")) := by
  have quotients : ∀ bound ∈ doubled.bounds, bound.QuotientsFit := by
    unfold Comparison.QuotientsFit
    decide +kernel
  have violated : (doubled.map Fraction64.value).violations = [.duplicateBound "x"] := by
    decide +kernel
  have unacceptable : ¬ (doubled.map Fraction64.value).Acceptable := by
    rw [← violations_eq_nil, violated]
    exact List.cons_ne_nil _ _
  obtain ⟨first, head, rejected⟩ :=
    (pipeline_finishes_iff doubled "R" "doubled").2 quotients unacceptable
  rw [violated] at head
  cases head
  exact rejected

/-- A row whose ends have no room over their common denominator ten, although its width has. -/
def wideText : String :=
  "minimize x + y\nsubject to\n1.1 <= x + y <= 1844674407370955162\n"

def wide : Problem Fraction64 := Problem.map Fraction64.ofDecimal {
  sense := .minimize
  objective := .sum [.bare "x", .bare "y"]
  constraints := [.chained .lessEqual (.capped false 11 1) (.sum [.bare "x", .bare "y"])
    (.capped false 1844674407370955162 0)]
  bounds := [] }

end Problem

def Model.wide : Model Fraction64 := Model.map Fraction64.ofDecimal {
  rows := [⟨"R1", .double, .capped false 11 1, .capped false 1844674407370955162 0⟩]
  columns := [⟨"x", .free, .capped false 0 0, .capped false 0 0⟩,
    ⟨"y", .free, .capped false 0 0, .capped false 0 0⟩]
  entries := [⟨1, 1, .capped false 1 0⟩, ⟨1, 2, .capped false 1 0⟩]
  objective := [.capped false 1 0, .capped false 1 0]
  sense := .minimize }

namespace Problem

def steepText : String :=
  "minimize x\nbounds\n0.000000000000000001 x <= 9223372036854775807\n"

def steep : Problem Fraction64 := Problem.map Fraction64.ofDecimal {
  sense := .minimize
  objective := .single (.bare "x")
  constraints := []
  bounds := [.simple .lessEqual (.single (.scaled (.capped false 1 18) "x"))
    (.capped false 9223372036854775807 0)] }

theorem readable_texts_overflow :
    ((Problem.parse wideText).outcome = .ok wide ∧ (wide.compile "R").outcome = .ok Model.wide ∧
        (Model.wide.mps "wide").outcome = .error .multiply) ∧
      (Problem.parse steepText).outcome = .ok steep ∧
        (steep.compile "R").outcome = .error (.overflow .multiply) := by
  have wideRead : (Problem.parse wideText).outcome = .ok wide := by decide +kernel
  have wideCompiled : (wide.compile "R").outcome = .ok Model.wide := by decide +kernel
  have wideStopped : (Model.wide.mps "wide").outcome = .error .multiply := by decide +kernel
  have steepRead : (Problem.parse steepText).outcome = .ok steep := by decide +kernel
  have steepStopped : (steep.compile "R").outcome = .error (.overflow .multiply) := by
    decide +kernel
  exact ⟨⟨wideRead, wideCompiled, wideStopped⟩, steepRead, steepStopped⟩

example : Fraction64.Fits (1844674407370955162 - 11 / 10) := by decide +kernel

end Problem

end LinearProgram
