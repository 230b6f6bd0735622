import LinearProgram.Problem.Edit
import LinearProgram.Proofs.Compile.Representation
import LinearProgram.Proofs.Compile.Reordering

namespace LinearProgram

variable {F : Type}

/-- Items and their partners stay related when the partner of one item is replaced. -/
theorem forall₂_set {α β : Type} {related changed : α → β → Prop} {xs : List α} {ys : List β}
    {place : Nat} {x : α} {y : β} (all : List.Forall₂ related xs ys) (distinct : xs.Nodup)
    (found : xs[place]? = some x) (here : changed x y)
    (elsewhere : ∀ other partner, other ≠ x → related other partner → changed other partner) :
    List.Forall₂ changed xs (ys.set place y) := by
  obtain ⟨lengths, pairs⟩ := List.forall₂_iff_get.mp all
  obtain ⟨inside, rfl⟩ := List.getElem?_eq_some_iff.mp found
  apply List.forall₂_iff_get.mpr
  refine ⟨by rw [List.length_set, lengths], ?_⟩
  intro other first second
  simp only [List.get_eq_getElem, List.getElem_set]
  by_cases same : place = other
  · subst same
    simpa using here
  · rw [if_neg same]
    apply elsewhere _ _ _ (pairs other first (by simpa using second))
    intro equal
    exact same ((distinct.getElem_inj_iff.mp equal).symm)

theorem formsEntries_concat (names : List String) (forms : List (List (Monomial F)))
    (form : List (Monomial F)) :
    formsEntries names (forms ++ [form]) =
      formsEntries names forms ++ formEntries names (forms.length + 1) form := by
  simp [formsEntries, List.zipIdx_append, Nat.add_comm]

def Comparison.rowViolation? (names : List String) (constraint : Comparison F) :
    Option CompileError :=
  constraint.operatorViolation?.or
    ((constraint.expression.names.find? (· ∉ names)).map .unknownVariable)

def Comparison.columnViolation? [Zero F] [DecidableEq F] (names : List String)
    (before : List (Comparison F)) (bound : Comparison F) : Option CompileError :=
  (bound.boundViolation? names before).or <|
    match bound.expression.terms with
    | [.scaled coefficient name] =>
      if coefficient = 0 then some (.zeroBoundCoefficient name) else none
    | _ => none

theorem Comparison.rowViolation?_eq_none {names : List String} {constraint : Comparison F} :
    constraint.rowViolation? names = none ↔
      constraint.HasLinearOperator ∧ ∀ name ∈ constraint.expression.names, name ∈ names := by
  rw [rowViolation?, Option.or_eq_none_iff, operatorViolation?_eq_none, Option.map_eq_none_iff,
    List.find?_eq_none]
  simp

theorem Comparison.columnViolation?_eq_none [Field F] [DecidableEq F] {names : List String}
    {before : List (Comparison F)} {bound : Comparison F} :
    bound.columnViolation? names before = none ↔
      bound.boundViolation? names before = none ∧
        ∀ name, bound.expression.terms ≠ [.scaled 0 name] := by
  rw [columnViolation?, Option.or_eq_none_iff]
  apply and_congr_right
  intro _
  split
  · rename_i coefficient name terms
    by_cases zero : coefficient = 0
    · simp [zero, terms]
    · simp [zero, terms]
  · rename_i other
    simpa using other 0

variable [Scalar F]

/-- A row behind others takes its name from what the others leave of the counter. -/
theorem NameSource.nameRows_concat (stem : String) (taken : Columns) (last : Nat)
    (rows : List (Restriction F)) (row : Restriction F) :
    ∃ reached, (numbered stem taken last).nameRows (rows ++ [row]) =
      (numbered stem taken last).nameRows rows ++ (numbered stem taken reached).nameRows [row] := by
  induction rows generalizing last with
  | nil => exact ⟨last, rfl⟩
  | cons first rows ih =>
    rw [List.cons_append, nameRows, nameRows]
    cases first.bareName? with
    | some name =>
      obtain ⟨reached, named⟩ := ih last
      exact ⟨reached, congrArg (name :: ·) named⟩
    | none =>
      obtain ⟨reached, named⟩ := ih (nextFree stem taken taken.size (last + 1))
      exact ⟨reached, congrArg (_ :: ·) named⟩

theorem NameSource.exists_nameRows_singleton (stem : String) (taken : Columns) (last : Nat)
    (row : Restriction F) :
    ∃ name, (numbered stem taken last).nameRows [row] = [name] ∧
      (row.bareName? = some name ∨
        row.bareName? = none ∧ ∃ number, name = numberedName stem number) := by
  rw [nameRows]
  cases row.bareName? with
  | some name => exact ⟨name, rfl, .inl rfl⟩
  | none => exact ⟨_, rfl, .inr ⟨rfl, _, rfl⟩⟩

namespace Problem

theorem outline_addConstraint {problem : Problem F} {outline : Outline F} {added : Comparison F}
    {row : Restriction F} (outlined : problem.outline = .ok outline)
    (resolved : added.restriction = .ok row) :
    (problem.edit (.addConstraint added)).outline =
      .ok { outline with rows := outline.rows ++ [row] } := by
  obtain ⟨named, rows, collected⟩ := outline_eq_ok.mp outlined
  have grown := forall₂_concat (mapM_eq_ok.mp rows) resolved
  exact outline_eq_ok.mpr ⟨named, mapM_eq_ok.mpr grown, collected⟩

theorem outline_addBound {problem : Problem F} {outline : Outline F} {added : Comparison F}
    {bound : Restriction F} {name : String} (outlined : problem.outline = .ok outline)
    (resolved : added.restriction = .ok bound) (subject : added.subject? = some name)
    (known : name ∈ outline.columns.names.toList) (free : outline.bounds[name]? = none) :
    (problem.edit (.addBound added)).outline =
      .ok { outline with bounds := outline.bounds.insert name bound } := by
  obtain ⟨named, rows, collected⟩ := outline_eq_ok.mp outlined
  refine outline_eq_ok.mpr ⟨named, rows, ?_⟩
  have unbounded : ¬ outline.bounds.contains name := by
    rw [Std.TreeMap.contains_eq_isSome_getElem?, free]
    exact Bool.false_ne_true
  have inserted : addBound outline.columns outline.bounds added =
      .ok (outline.bounds.insert name bound) := by
    rw [addBound_of_restriction resolved, subject]
    simp only [known, unbounded, ↓reduceIte, Bool.false_eq_true]
  rw [boundsByName] at collected ⊢
  rw [edit, List.foldlM_append, collected]
  exact bind_eq_ok.mpr ⟨_, rfl, bind_eq_ok.mpr ⟨_, inserted, rfl⟩⟩

section Failures

variable [Field F] [DecidableEq F] {problem : Problem F}

omit [Scalar F] in
/-- A constraint that is added to a problem without violations is the only one to bring any. -/
theorem violations_addConstraint (clean : problem.violations = []) (added : Comparison F) :
    (problem.edit (.addConstraint added)).violations.head? =
      added.rowViolation? problem.objective.names := by
  simp only [violations, List.append_eq_nil_iff, List.map_eq_nil_iff] at clean
  obtain ⟨⟨⟨⟨repeats, operators⟩, bounds⟩, unknown⟩, zeros⟩ := clean
  have same : (problem.edit (.addConstraint added)).zeroBounds = [] := zeros
  rw [violations, same, edit, Comparison.rowViolation?, ← List.head?_filter, ← List.head?_map]
  simp only [repeats, bounds, List.filterMap_append, operators, List.flatMap_append,
    List.filter_append, unknown, List.flatMap_singleton, List.map_nil, List.nil_append,
    List.append_nil, List.filterMap_cons, List.filterMap_nil]
  cases added.operatorViolation? <;> rfl

omit [Scalar F] in
/-- Among distinct variables, those that a bound vanishes on are the one that it is on. -/
theorem head?_filter_zero {names : List String} {bound : Comparison F}
    (subject : ∃ name ∈ names, bound.subject? = some name) :
    ((names.filter fun name => bound.expression.terms = [.scaled 0 name]).map
        CompileError.zeroBoundCoefficient).head? =
      match bound.expression.terms with
      | [.scaled coefficient name] =>
        if coefficient = 0 then some (.zeroBoundCoefficient name) else none
      | _ => none := by
  obtain ⟨name, known, subject⟩ := subject
  rw [Comparison.subject?_eq_some, Expression.names] at subject
  obtain ⟨term, terms, rfl⟩ := List.map_eq_singleton_iff.mp subject
  rw [terms]
  cases term with
  | bare name => simp
  | scaled coefficient name =>
    by_cases zero : coefficient = 0
    · subst zero
      have vanishes : (names.find? fun other =>
          decide ([Term.scaled (0 : F) name] = [.scaled 0 other])).isSome :=
        List.find?_isSome.mpr ⟨name, known, decide_eq_true rfl⟩
      obtain ⟨other, found⟩ := Option.isSome_iff_exists.mp vanishes
      have holds := List.find?_some found
      cases of_decide_eq_true holds
      rw [List.head?_map, List.head?_filter, found]
      simp
    · simp [zero]

omit [Scalar F] in
theorem violations_addBound (clean : problem.violations = []) (added : Comparison F) :
    (problem.edit (.addBound added)).violations.head? =
      added.columnViolation? problem.objective.names problem.bounds := by
  simp only [violations, List.append_eq_nil_iff, List.map_eq_nil_iff] at clean
  obtain ⟨⟨⟨⟨repeats, operators⟩, bounds⟩, unknown⟩, zeros⟩ := clean
  have vanishing : (problem.edit (.addBound added)).zeroBounds =
      problem.objective.names.filter fun name => added.expression.terms = [.scaled 0 name] := by
    rw [zeroBounds, List.filter_eq_nil_iff] at zeros
    apply List.filter_congr
    intro name known
    simp [edit, zeros name known]
  rw [violations, vanishing, edit, Comparison.columnViolation?]
  simp only [repeats, operators, withEarlier_concat, List.filterMap_append, bounds, unknown,
    List.map_nil, List.nil_append, List.append_nil, List.filterMap_cons, List.filterMap_nil]
  cases violation : added.boundViolation? problem.objective.names problem.bounds with
  | some error => rfl
  | none => exact head?_filter_zero (Comparison.boundViolation?_eq_none.mp violation).2.1

end Failures

section Successes

variable {stem : String} {problem : Problem F} {model : Model F}

/-- A new constraint makes a new last row, and its terms are the last entries. -/
theorem compile_addConstraint (compiled : (problem.compile stem).outcome = .ok model)
    {added : Comparison F} (accepted : added.rowViolation? problem.objective.names = none) :
    ∃ interval name, added.interval = .ok interval ∧
      (added.rowName? = some name ∨
        added.rowName? = none ∧ ∃ number, name = NameSource.numberedName stem number) ∧
      ((problem.edit (.addConstraint added)).compile stem).outcome = .ok { model with
        rows := model.rows ++ [interval.band name]
        entries := model.entries ++
          formEntries problem.objective.names (model.rows.length + 1) added.expression.form } := by
  obtain ⟨outline, outlined, placed, banded, rows, objective, sense⟩ := compile_eq_ok.mp compiled
  obtain ⟨named, resolved, _⟩ := outline_eq_ok.mp outlined
  obtain ⟨names, _⟩ := Columns.hold_of_ofNames named
  obtain ⟨known, entries⟩ := matrixEntries_eq_ok.mp placed
  obtain ⟨operator, mentioned⟩ := Comparison.rowViolation?_eq_none.mp accepted
  obtain ⟨row, restricted⟩ := Comparison.exists_restriction operator
  obtain ⟨interval, form⟩ := Comparison.restriction_eq_ok.mp restricted
  obtain ⟨reached, continued⟩ :=
    NameSource.nameRows_concat stem outline.columns 0 outline.rows row
  obtain ⟨name, last, naming⟩ :=
    NameSource.exists_nameRows_singleton stem outline.columns reached row
  rw [Comparison.bareName?_of_restriction restricted] at naming
  have length : outline.rows.length = model.rows.length := by
    rw [rows, List.length_zipWith, NameSource.length_nameRows, Nat.min_self]
  refine ⟨row.interval, name, interval, naming, ?_⟩
  refine compile_eq_ok.mpr ⟨_, outline_addConstraint outlined restricted, ?_, banded, ?_,
    objective, sense⟩
  · rw [matrixEntries_eq_ok, List.map_append, List.map_singleton, List.forall_mem_append,
      formsEntries_concat, entries, names, List.length_map, length, form]
    refine ⟨⟨names ▸ known, ?_⟩, rfl⟩
    intro last member term written
    rw [List.mem_singleton.mp member] at written
    apply mentioned
    rw [← Expression.map_name_form]
    exact List.mem_map_of_mem written
  · rw [continued, last, List.zipWith_append (NameSource.length_nameRows _ _), ← rows]
    rfl

/-- A bound on a variable that had none changes the column of the variable, which was free. -/
theorem compile_addBound [Field F] [LinearOrder F] [ExactScalar F]
    (compiled : (problem.compile stem).outcome = .ok model) {added : Comparison F}
    (accepted : added.columnViolation? problem.objective.names problem.bounds = none) :
    ∃ interval coefficient name place, added.interval = .ok interval ∧
      added.expression.form = [⟨coefficient, name⟩] ∧
      model.columns[place]? = some (Interval.whole.band name) ∧
      ((interval.unscale coefficient).band name).kind ≠ .free ∧
      ((problem.edit (.addBound added)).compile stem).outcome = .ok { model with
        columns := model.columns.set place ((interval.unscale coefficient).band name) } := by
  obtain ⟨outline, outlined, placed, banded, rows, objective, sense⟩ := compile_eq_ok.mp compiled
  obtain ⟨named, _, collected⟩ := outline_eq_ok.mp outlined
  obtain ⟨names, distinct⟩ := Columns.hold_of_ofNames named
  have assigned := assigned_of_boundsByName collected
  obtain ⟨inOrder, nonzero⟩ := Comparison.columnViolation?_eq_none.mp accepted
  obtain ⟨operator, ⟨name, known, subject⟩, fresh⟩ := Comparison.boundViolation?_eq_none.mp inOrder
  obtain ⟨bound, restricted⟩ := Comparison.exists_restriction operator
  obtain ⟨coefficient, form⟩ := Comparison.form_eq_singleton restricted subject
  obtain ⟨interval, written⟩ := Comparison.restriction_eq_ok.mp restricted
  have divisible : coefficient ≠ 0 := by
    rw [ne_eq, ← terms_eq_scaled_zero_iff restricted form]
    exact nonzero name
  have free : outline.bounds[name]? = none := by
    rw [subject, ← assigned.contains_iff, Std.TreeMap.contains_eq_isSome_getElem?] at fresh
    simpa using fresh
  have column : boundedInterval name (outline.bounds.insert name bound)[name]? =
      .ok (bound.interval.unscale coefficient) := by
    rw [Std.TreeMap.getElem?_insert_self]
    exact (columnInterval_eq_ok form).mpr ⟨divisible, rfl⟩
  have here := List.getElem?_idxOf (names ▸ known)
  obtain ⟨before, found⟩ : ∃ before,
      model.columns[outline.columns.names.toList.idxOf name]? = some before := by
    have inside := (List.getElem?_eq_some_iff.mp here).1
    rw [banded.length_eq] at inside
    exact ⟨_, List.getElem?_eq_getElem inside⟩
  obtain ⟨whole, unbounded, rfl⟩ := related_of_forall₂ banded here found
  rw [free] at unbounded
  cases unbounded
  refine ⟨bound.interval, coefficient, name, _, interval, written ▸ form, found,
    Comparison.kind_unscale_ne_free interval, ?_⟩
  refine compile_eq_ok.mpr ⟨_, outline_addBound outlined restricted subject (names ▸ known) free,
    placed, ?_, rows, objective, sense⟩
  apply forall₂_set banded (names ▸ distinct) here ⟨_, column, rfl⟩
  intro other partner different related
  rwa [Std.TreeMap.getElem?_insert, if_neg]
  rw [Std.LawfulEqCmp.compare_eq_iff_eq]
  exact different.symm

end Successes

section Exact

variable [Field F] [LinearOrder F] [ExactScalar F] {stem : String} {problem : Problem F}

theorem exists_compile_iff :
    (∃ model, (problem.compile stem).outcome = .ok model) ↔ problem.violations = [] := by
  rw [← failure?_eq_none, failure?_compile, Option.map_eq_none_iff, List.head?_eq_none_iff]

theorem compile_of_head?_violations {error : CompileError}
    (first : problem.violations.head? = some error) :
    (problem.compile stem).outcome = .error (.rejected error) := by
  rw [← failure?_eq_some, failure?_compile, first]
  rfl

omit [Scalar F] [LinearOrder F] [ExactScalar F] in
theorem Acceptable.of_sublist [DecidableEq F] {smaller : Problem F}
    (acceptable : problem.Acceptable) (objective : smaller.objective = problem.objective)
    (constraints : smaller.constraints.Sublist problem.constraints)
    (bounds : smaller.bounds.Sublist problem.bounds) : smaller.Acceptable where
  distinct := objective ▸ acceptable.distinct
  operators := fun comparison member =>
    acceptable.operators comparison ((constraints.append bounds).subset member)
  single := fun bound member => objective ▸ acceptable.single bound (bounds.subset member)
  once := acceptable.once.sublist (bounds.map _)
  known := fun constraint member =>
    objective ▸ acceptable.known constraint (constraints.subset member)
  nonzero := fun bound member => acceptable.nonzero bound (bounds.subset member)

theorem exists_compile_of_sublist {model : Model F} {smaller : Problem F}
    (compiled : (problem.compile stem).outcome = .ok model)
    (objective : smaller.objective = problem.objective)
    (constraints : smaller.constraints.Sublist problem.constraints)
    (bounds : smaller.bounds.Sublist problem.bounds) :
    ∃ model, (smaller.compile stem).outcome = .ok model := by
  have clean := exists_compile_iff.mp ⟨model, compiled⟩
  rw [exists_compile_iff, violations_eq_nil]
  exact (violations_eq_nil.mp clean).of_sublist objective constraints bounds

/-- What is added to a problem that compiles decides by itself whether the problem still does. A
constraint makes a row and entries behind the others, a bound replaces one column that was free, and
all else stays. Whatever is taken away, the rest compiles. -/
theorem compile_edited {model : Model F} (compiled : (problem.compile stem).outcome = .ok model) :
    (∀ added : Comparison F,
      (∀ error, added.rowViolation? problem.objective.names = some error →
        ((problem.edit (.addConstraint added)).compile stem).outcome = .error (.rejected error)) ∧
      (added.rowViolation? problem.objective.names = none →
        ∃ interval name, added.interval = .ok interval ∧
          (added.rowName? = some name ∨
            added.rowName? = none ∧ ∃ number, name = NameSource.numberedName stem number) ∧
          ((problem.edit (.addConstraint added)).compile stem).outcome = .ok { model with
            rows := model.rows ++ [interval.band name]
            entries := model.entries ++ formEntries problem.objective.names
              (model.rows.length + 1) added.expression.form })) ∧
    (∀ added : Comparison F,
      (∀ error, added.columnViolation? problem.objective.names problem.bounds = some error →
        ((problem.edit (.addBound added)).compile stem).outcome = .error (.rejected error)) ∧
      (added.columnViolation? problem.objective.names problem.bounds = none →
        ∃ interval coefficient name place, added.interval = .ok interval ∧
          added.expression.form = [⟨coefficient, name⟩] ∧
          model.columns[place]? = some (Interval.whole.band name) ∧
          ((interval.unscale coefficient).band name).kind ≠ .free ∧
          ((problem.edit (.addBound added)).compile stem).outcome = .ok { model with
            columns := model.columns.set place ((interval.unscale coefficient).band name) })) ∧
    ∀ place : Nat,
      (∃ smaller, ((problem.edit (.dropConstraint place)).compile stem).outcome = .ok smaller) ∧
        ∃ smaller, ((problem.edit (.dropBound place)).compile stem).outcome = .ok smaller := by
  have clean := exists_compile_iff.mp ⟨model, compiled⟩
  refine ⟨?_, ?_, ?_⟩
  · intro added
    refine ⟨?_, compile_addConstraint compiled⟩
    intro error violation
    rw [← violations_addConstraint clean] at violation
    exact compile_of_head?_violations violation
  · intro added
    refine ⟨?_, compile_addBound compiled⟩
    intro error violation
    rw [← violations_addBound clean] at violation
    exact compile_of_head?_violations violation
  · intro place
    constructor
    · exact exists_compile_of_sublist compiled rfl (List.eraseIdx_sublist _ _) (.refl _)
    · exact exists_compile_of_sublist compiled rfl (.refl _) (List.eraseIdx_sublist _ _)

end Exact

def growing : Problem Rat where
  sense := .maximize
  objective := .sum [.bare "R1", .scaled 2 "x"]
  constraints := [.simple .lessEqual (.sum [.bare "x", .bare "R1"]) 4]
  bounds := [.simple .greaterEqual (.single (.bare "x")) 1]

end Problem

def Model.growing : Model Rat where
  rows := [⟨"R2", .upper, 0, 4⟩]
  columns := [⟨"R1", .free, 0, 0⟩, ⟨"x", .lower, 1, 0⟩]
  entries := [⟨1, 2, 1⟩, ⟨1, 1, 1⟩]
  objective := [1, 2]
  sense := .maximize

namespace Problem

theorem growing_edited :
    (growing.compile "R").outcome = .ok Model.growing ∧
      ((growing.edit (.addConstraint (.simple .equal (.single (.bare "x")) 2))).compile
          "R").outcome =
        .ok { Model.growing with
          rows := [⟨"R2", .upper, 0, 4⟩, ⟨"x", .fixed, 2, 2⟩]
          entries := [⟨1, 2, 1⟩, ⟨1, 1, 1⟩, ⟨2, 2, 1⟩] } ∧
      ((growing.edit (.addConstraint (.simple .lessEqual (.sum [.bare "x", .bare "y", .bare "z"])
          3))).compile "R").outcome = .error (.rejected (.unknownVariable "y")) ∧
      ((growing.edit (.addBound (.simple .lessEqual (.single (.scaled (-2) "R1")) 6))).compile
          "R").outcome =
        .ok { Model.growing with columns := [⟨"R1", .lower, -3, 0⟩, ⟨"x", .lower, 1, 0⟩] } ∧
      ((growing.edit (.addBound (.simple .lessEqual (.single (.scaled 0 "R1")) 6))).compile
          "R").outcome = .error (.rejected (.zeroBoundCoefficient "R1")) ∧
      ∃ smaller, ((growing.edit (.dropConstraint 0)).compile "R").outcome = .ok smaller := by
  have compiled : (growing.compile "R").outcome = .ok Model.growing := by decide +kernel
  obtain ⟨constraints, bounds, drops⟩ := compile_edited compiled
  refine ⟨compiled, ?_, (constraints _).1 _ (by decide +kernel), ?_,
    (bounds _).1 _ (by decide +kernel), (drops 0).1⟩
  · obtain ⟨interval, name, resolved, naming, grown⟩ :=
      (constraints (.simple .equal (.single (.bare "x")) 2)).2 (by decide +kernel)
    cases resolved
    have own : Comparison.rowName? (.simple .equal (.single (.bare "x")) (2 : Rat)) = some "x" := by
      decide +kernel
    rw [own] at naming
    rcases naming with same | ⟨other, _⟩
    · cases same
      rw [grown]
      decide +kernel
    · cases other
  · obtain ⟨interval, coefficient, name, place, resolved, form, found, changed, grown⟩ :=
      (bounds (.simple .lessEqual (.single (.scaled (-2) "R1")) 6)).2 (by decide +kernel)
    cases resolved
    cases form
    have first : place = 0 := by
      rcases place with _ | _ | place
      · rfl
      · exact absurd found (by decide +kernel)
      · cases found
    subst first
    rw [grown]
    decide +kernel

end Problem

end LinearProgram
