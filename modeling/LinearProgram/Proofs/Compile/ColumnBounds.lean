import LinearProgram.Proofs.Compile.Acceptance
import LinearProgram.Proofs.Compile.Scaling
import LinearProgram.Proofs.Model.Canonical

namespace LinearProgram

variable {F : Type}

def Comparator.reversed : Comparator → Comparator
  | .equal => .equal
  | .lessEqual => .greaterEqual
  | .greaterEqual => .lessEqual
  | .less => .greater
  | .greater => .less
  | .notEqual => .notEqual

section Multiples

variable [Field F]

def Term.times (factor : F) : Term F → Term F
  | .bare name => .scaled factor name
  | .scaled coefficient name => .scaled (factor * coefficient) name

def Expression.times (factor : F) : Expression F → Expression F
  | .single term => .single (term.times factor)
  | .sum terms => .sum (terms.map (Term.times factor))

theorem Expression.form_times [LinearOrder F] [Scalar F] [ExactScalar F] (factor : F)
    (expression : Expression F) :
    (expression.times factor).form =
      expression.form.map fun term => ⟨factor * term.coefficient, term.name⟩ := by
  have monomial (term : Term F) : (term.times factor).monomial =
      ⟨factor * term.monomial.coefficient, term.monomial.name⟩ := by
    cases term <;> simp [Term.times, Term.monomial]
  cases expression with
  | single term | sum terms => simp [times, form, Expression.terms, monomial]

variable [LinearOrder F]

def Comparison.times (factor : F) : Comparison F → Comparison F
  | .simple comparator expression value =>
    .simple (if factor < 0 then comparator.reversed else comparator) (expression.times factor)
      (factor * value)
  | .chained comparator left expression right =>
    .chained (if factor < 0 then comparator.reversed else comparator) (factor * left)
      (expression.times factor) (factor * right)

end Multiples

namespace Interval

variable [Field F] [LinearOrder F]

/-- A band of a given name has its interval's ends and kind, and nothing more. -/
theorem band_ends_eq_iff [Scalar F] [ExactScalar F] {first second : Interval F} (name : String) :
    ((first.band name).kind = (second.band name).kind ∧
      (first.band name).lower = (second.band name).lower ∧
        (first.band name).upper = (second.band name).upper) ↔ first = second := by
  constructor
  · intro same
    obtain ⟨kind, lower, upper⟩ := same
    have bands : first.band name = second.band name := by
      rw [Band.mk.injEq]
      exact ⟨rfl, kind, lower, upper⟩
    rw [← first.interval_band name, bands, interval_band]
  · intro same
    rw [same]
    exact ⟨rfl, rfl, rfl⟩

variable [IsStrictOrderedRing F] {interval : Interval F}

/-- Ends that are left as they are for the factor one might as well be divided by it. -/
theorem unscale_eq (interval : Interval F) (factor : F) :
    interval.unscale factor =
      if factor < 0 then ⟨interval.upper.map (· / factor), interval.lower.map (· / factor)⟩
      else ⟨interval.lower.map (· / factor), interval.upper.map (· / factor)⟩ := by
  unfold unscale
  split
  · rename_i one
    rcases interval with ⟨lower, upper⟩
    simp [one]
  · rfl

theorem unscale_unscale {first second : F} (firstNonzero : first ≠ 0) (secondNonzero : second ≠ 0) :
    (interval.unscale first).unscale second = interval.unscale (first * second) := by
  have divided (ends : Option F) :
      (ends.map (· / first)).map (· / second) = ends.map (· / (first * second)) := by
    rw [Option.map_map]
    congr 1
    funext value
    exact div_div value first second
  rw [unscale_eq _ (first * second)]
  rcases lt_or_gt_of_ne firstNonzero with negative | positive
  · rw [unscale_eq _ first, if_pos negative]
    rcases lt_or_gt_of_ne secondNonzero with again | other
    · rw [unscale_eq, if_pos again, if_neg (mul_pos_of_neg_of_neg negative again).not_gt, divided,
        divided]
    · rw [unscale_eq, if_neg other.not_gt, if_pos (mul_neg_of_neg_of_pos negative other), divided,
        divided]
  · rw [unscale_eq _ first, if_neg positive.not_gt]
    rcases lt_or_gt_of_ne secondNonzero with negative | other
    · rw [unscale_eq, if_pos negative, if_pos (mul_neg_of_pos_of_neg positive negative), divided,
        divided]
    · rw [unscale_eq, if_neg other.not_gt, if_neg (mul_pos positive other).not_gt, divided, divided]

/-- A lower end is the least value of an interval that has values at all. -/
theorem mem_lower_iff (inhabited : ∃ x, interval.Contains x) (least : F) :
    least ∈ interval.lower ↔
      interval.Contains least ∧ ∀ x, interval.Contains x → least ≤ x := by
  rcases interval with ⟨lower, upper⟩
  obtain ⟨inside, above, below⟩ := inhabited
  constructor
  · intro isEnd
    have reached : least ≤ inside := above least isEnd
    refine ⟨⟨?_, ?_⟩, fun x contained => contained.1 least isEnd⟩
    · intro other same
      exact (Option.mem_unique same isEnd).le
    · intro other isUpper
      exact reached.trans (below other isUpper)
  · intro given
    obtain ⟨⟨fromLower, toUpper⟩, first⟩ := given
    -- Without a lower end there would be smaller values, and with another one that end itself.
    have stays {x : F} (bounded : ∀ l ∈ lower, l ≤ x) (small : x ≤ least) : least ≤ x :=
      first x ⟨bounded, fun other isUpper => small.trans (toUpper other isUpper)⟩
    cases lower with
    | none => exact absurd (stays (by simp) (sub_one_lt least).le) (sub_one_lt least).not_ge
    | some l =>
      have small : l ≤ least := fromLower l rfl
      exact congrArg some (le_antisymm small (stays (by simp) small))

/-- An upper end is a lower end in the mirror. -/
theorem mem_upper_iff (inhabited : ∃ x, interval.Contains x) (greatest : F) :
    greatest ∈ interval.upper ↔
      interval.Contains greatest ∧ ∀ x, interval.Contains x → x ≤ greatest := by
  have mirrored (x : F) : (interval.unscale (-1)).Contains x ↔ interval.Contains (-x) := by
    have nonzero : (-1 : F) ≠ 0 := neg_ne_zero.mpr one_ne_zero
    simpa using contains_unscale nonzero
  have isEnd : greatest ∈ interval.upper ↔ -greatest ∈ (interval.unscale (-1)).lower := by
    simp [unscale_eq, div_neg]
  have other : ∃ x, (interval.unscale (-1)).Contains x := by
    obtain ⟨x, contained⟩ := inhabited
    exact ⟨-x, by rwa [mirrored, neg_neg]⟩
  rw [isEnd, mem_lower_iff other]
  simp only [mirrored, neg_neg]
  rw [neg_surjective.forall]
  simp only [neg_neg, neg_le_neg_iff]

/-- An interval that has values is known by them. -/
theorem eq_of_contains_iff {first second : Interval F} (inhabited : ∃ x, first.Contains x)
    (same : ∀ x, first.Contains x ↔ second.Contains x) : first = second := by
  have other : ∃ x, second.Contains x := by simpa only [same] using inhabited
  have lower : first.lower = second.lower := by
    apply Option.ext
    intro least
    have isEnd := mem_lower_iff inhabited least
    simp only [same] at isEnd
    exact isEnd.trans (mem_lower_iff other least).symm
  have upper : first.upper = second.upper := by
    apply Option.ext
    intro greatest
    have isEnd := mem_upper_iff inhabited greatest
    simp only [same] at isEnd
    exact isEnd.trans (mem_upper_iff other greatest).symm
  rcases first with ⟨_, _⟩
  rcases second with ⟨_, _⟩
  cases lower
  cases upper
  rfl

end Interval

namespace Comparison

def Allows [Field F] [LinearOrder F] (bound : Comparison F) (x : F) : Prop :=
  bound.Holds fun _ => x

def column [Scalar F] (name : String) (bound : Comparison F) : Traced CompileFailure (Band F) := do
  let restriction ← (Traced.ofExcept bound.restriction).mapError .rejected
  columnBand name (some restriction)

structure IsBound [Field F] [Scalar F] (coefficient : F) (name : String) (bound : Comparison F) :
    Prop where
  operator : bound.HasLinearOperator
  nonzero : coefficient ≠ 0
  form : bound.expression.form = [⟨coefficient, name⟩]

theorem exists_interval {bound : Comparison F} (operator : bound.HasLinearOperator) :
    ∃ ends, bound.interval = .ok ends := by
  rw [← failure?_eq_none, failure?_interval, operatorViolation?_eq_none]
  exact operator

theorem interval_times [Field F] [LinearOrder F] [IsStrictOrderedRing F] {bound : Comparison F}
    {ends : Interval F} {factor : F} (resolved : bound.interval = .ok ends) :
    (bound.times factor).interval = .ok (ends.unscale factor⁻¹) := by
  rw [Interval.unscale_eq]
  by_cases negative : factor < 0
  · cases bound with
    | simple comparator _ _ | chained comparator _ _ _ =>
      cases comparator <;> cases resolved <;>
        simp [times, interval, Comparator.reversed, negative, mul_comm]
  · cases bound with
    | simple comparator _ _ | chained comparator _ _ _ =>
      cases comparator <;> cases resolved <;> simp [times, interval, negative, mul_comm]

section Compiled

variable [Scalar F]

/-- The column of a compiled model is the one that its bound makes. -/
theorem outcome_column_of_compile {stem : String} {problem : Problem F} {model : Model F}
    (compiled : (problem.compile stem).outcome = .ok model) {bound : Comparison F} {found : Band F}
    (present : found ∈ model.columns) (given : bound ∈ problem.bounds)
    (subject : bound.subject? = some found.name) :
    (bound.column found.name).outcome = .ok found := by
  have made := Problem.compilesTo_of_ok compiled
  obtain ⟨restriction, interval, resolved, scaled, band⟩ :=
    made.bounded found present bound given subject
  rw [column, Traced.outcome_bind, resolved, Traced.outcome_mapError]
  change (columnBand found.name (some restriction)).outcome = .ok found
  rw [outcome_columnBand, boundedInterval, scaled, band]
  rfl

end Compiled

variable [Field F] [LinearOrder F] [Scalar F] [ExactScalar F] {bound : Comparison F} {name : String}
  {coefficient factor : F} {ends : Interval F}

theorem IsBound.column_eq (isBound : bound.IsBound coefficient name)
    (resolved : bound.interval = .ok ends) :
    bound.column name = (ends.unscale coefficient).announce name := by
  have restriction : bound.restriction = .ok ⟨bound.expression.form, ends⟩ :=
    restriction_eq_ok.mpr ⟨resolved, rfl⟩
  have scaled : columnInterval name ⟨bound.expression.form, ends⟩ =
      .ok (ends.unscale coefficient) :=
    (columnInterval_eq_ok isBound.form).mpr ⟨isBound.nonzero, rfl⟩
  rw [column, restriction]
  change (Traced.ofExcept (columnInterval name ⟨bound.expression.form, ends⟩) >>= fun interval =>
    interval.announce name) = _
  rw [scaled]
  rfl

/-- A multiple of a bound is a bound on the same variable. -/
theorem IsBound.times (isBound : bound.IsBound coefficient name) (nonzero : factor ≠ 0) :
    (bound.times factor).IsBound (factor * coefficient) name where
  operator := by
    have operator := isBound.operator
    cases bound with
    | simple comparator _ _ | chained comparator _ _ _ =>
      simp only [Comparison.times, HasLinearOperator] at operator ⊢
      split
      · cases comparator <;> simp [Comparator.reversed] at operator ⊢
      · exact operator
  nonzero := mul_ne_zero nonzero isBound.nonzero
  form := by
    have terms : (bound.times factor).expression.form =
        bound.expression.form.map fun term => ⟨factor * term.coefficient, term.name⟩ := by
      cases bound with
      | simple _ expression _ | chained _ _ expression _ => exact expression.form_times factor
    rw [terms, isBound.form]
    rfl

variable [IsStrictOrderedRing F]

theorem IsBound.allows_iff (isBound : bound.IsBound coefficient name)
    (resolved : bound.interval = .ok ends) (x : F) :
    bound.Allows x ↔ (ends.unscale coefficient).Contains x := by
  have value : bound.expression.value (fun _ => x) = coefficient * x := by
    rw [← Expression.value_form, isBound.form]
    simp [Monomial.value]
  rw [Allows, holds_iff resolved, Interval.contains_unscale isBound.nonzero, value]

/-- Multiplying a bound changes neither the column nor what is reported about it. -/
theorem IsBound.column_times (isBound : bound.IsBound coefficient name) (nonzero : factor ≠ 0) :
    (bound.times factor).column name = bound.column name := by
  obtain ⟨ends, resolved⟩ := exists_interval isBound.operator
  rw [(isBound.times nonzero).column_eq (interval_times resolved), isBound.column_eq resolved,
    Interval.unscale_unscale (inv_ne_zero nonzero) (mul_ne_zero nonzero isBound.nonzero),
    inv_mul_cancel_left₀ nonzero]

/-- Bounds that some value satisfies give a variable the same column just when the same values
satisfy them. A multiple of a bound gives the same column as the bound, and ends that coincide once
they are divided by the coefficient make it fixed. -/
theorem column_canonical {first second : Comparison F} {c d : F} (firstBound : first.IsBound c name)
    (secondBound : second.IsBound d name) :
    (∃ one other, (first.column name).outcome = .ok one ∧ (second.column name).outcome = .ok other ∧
      ((∃ x, first.Allows x) → ((one.kind = other.kind ∧ one.lower = other.lower ∧
        one.upper = other.upper) ↔ ∀ x, first.Allows x ↔ second.Allows x))) ∧
    (∀ factor ≠ 0, (first.times factor).IsBound (factor * c) name ∧
      (first.times factor).column name = first.column name) ∧
    ∀ lower upper, first.interval = .ok ⟨some lower, some upper⟩ → lower / c = upper / c →
      (first.column name).outcome = .ok ⟨name, .fixed, lower / c, upper / c⟩ := by
  refine ⟨?_, ?_, ?_⟩
  · obtain ⟨ends, resolved⟩ := exists_interval firstBound.operator
    obtain ⟨others, otherwise⟩ := exists_interval secondBound.operator
    have allows := firstBound.allows_iff resolved
    have othersAllow := secondBound.allows_iff otherwise
    refine ⟨_, _, by rw [firstBound.column_eq resolved, outcome_announce],
      by rw [secondBound.column_eq otherwise, outcome_announce], ?_⟩
    intro inhabited
    simp only [Interval.band_ends_eq_iff, allows, othersAllow] at inhabited ⊢
    constructor
    · intro same x
      rw [same]
    · exact Interval.eq_of_contains_iff inhabited
  · intro factor nonzero
    exact ⟨firstBound.times nonzero, firstBound.column_times nonzero⟩
  · intro lower upper resolved same
    have scaled : (⟨some lower, some upper⟩ : Interval F).unscale c =
        ⟨some (upper / c), some (upper / c)⟩ := by
      rw [Interval.unscale_eq]
      split <;> simp [same]
    rw [firstBound.column_eq resolved, outcome_announce, scaled, same, Interval.band,
      Interval.kind_some_some, if_pos rfl]
    rfl

def negated : Comparison Rat :=
  .simple .lessEqual (.single (.scaled (-2) "x")) 20

def plain : Comparison Rat :=
  .simple .greaterEqual (.sum [.bare "x"]) (-10)

def pinched : Comparison Rat :=
  .chained .greaterEqual 6 (.single (.scaled (-3) "x")) 6

theorem negated_canonical :
    (∀ x, negated.Allows x ↔ plain.Allows x) ∧ (negated.column "x").outcome =
      .ok ⟨"x", .lower, -10, 0⟩ ∧ (negated.times (-4)).column "x" = negated.column "x" ∧
        (pinched.column "x").outcome = .ok ⟨"x", .fixed, -2, -2⟩ := by
  have negatedBound : negated.IsBound (-2) "x" := ⟨by decide, by decide, rfl⟩
  have plainBound : plain.IsBound 1 "x" := ⟨by decide, by decide, rfl⟩
  have pinchedBound : pinched.IsBound (-3) "x" := ⟨by decide, by decide, rfl⟩
  have column : (negated.column "x").outcome = .ok ⟨"x", .lower, -10, 0⟩ := by decide +kernel
  have other : (plain.column "x").outcome = .ok ⟨"x", .lower, -10, 0⟩ := by decide +kernel
  have met : negated.Allows 0 := by
    change [(-2 : Rat) * 0].sum ≤ 20
    decide +kernel
  have divided : (6 : Rat) / -3 = -2 := by decide +kernel
  obtain ⟨⟨one, another, made, remade, same⟩, multiples, _⟩ :=
    column_canonical negatedBound plainBound
  obtain ⟨_, _, fixed⟩ := column_canonical pinchedBound plainBound
  have equal : one = another := by
    rw [column] at made
    rw [other] at remade
    exact Except.ok.inj (made.symm.trans remade)
  refine ⟨(same ⟨0, met⟩).mp (equal ▸ ⟨rfl, rfl, rfl⟩), column, ?_, ?_⟩
  · exact (multiples (-4) (by decide)).2
  · simpa only [divided] using fixed 6 6 rfl rfl

end Comparison

end LinearProgram
