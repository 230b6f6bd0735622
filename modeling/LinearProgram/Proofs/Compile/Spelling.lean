import LinearProgram.Compile.Model
import LinearProgram.Number.Scalar
import Mathlib.Data.List.Forall2
import Mathlib.Logic.Relation

namespace LinearProgram

inductive DiffersOnce {α : Type} (related : α → α → Prop) : List α → List α → Prop where
  | here {x y : α} (xs : List α) (changed : related x y) :
    DiffersOnce related (x :: xs) (y :: xs)
  | later {xs ys : List α} (x : α) (changed : DiffersOnce related xs ys) :
    DiffersOnce related (x :: xs) (x :: ys)

theorem DiffersOnce.map_eq {α β : Type} {related : α → α → Prop} {f : α → β} {xs ys : List α}
    (changed : DiffersOnce related xs ys) (same : ∀ {x y}, related x y → f x = f y) :
    xs.map f = ys.map f := by
  induction changed with
  | here xs changed => rw [List.map_cons, List.map_cons, same changed]
  | later x _ ih => rw [List.map_cons, List.map_cons, ih]

variable {F : Type} [Scalar F]

inductive Term.Respelled : Term F → Term F → Prop where
  | coefficient (name : String) : Respelled (.bare name) (.scaled Scalar.one name)

inductive Expression.Respelled : Expression F → Expression F → Prop where
  | sum (term : Term F) : Respelled (.single term) (.sum [term])
  | single {term other : Term F} (changed : term.Respelled other) :
    Respelled (.single term) (.single other)
  | addend {terms others : List (Term F)} (changed : DiffersOnce Term.Respelled terms others) :
    Respelled (.sum terms) (.sum others)

inductive Comparison.Respelled : Comparison F → Comparison F → Prop where
  | turned (lower : F) (expression : Expression F) (upper : F) :
    Respelled (.chained .lessEqual lower expression upper)
      (.chained .greaterEqual upper expression lower)
  | equation (expression : Expression F) (value : F) :
    Respelled (.simple .equal expression value) (.chained .lessEqual value expression value)
  | simple (comparator : Comparator) {expression other : Expression F} (value : F)
    (changed : expression.Respelled other) :
    Respelled (.simple comparator expression value) (.simple comparator other value)
  | chained (comparator : Comparator) (left : F) {expression other : Expression F} (right : F)
    (changed : expression.Respelled other) :
    Respelled (.chained comparator left expression right) (.chained comparator left other right)

inductive Problem.Respelled : Problem F → Problem F → Prop where
  | objective (problem : Problem F) {other : Expression F}
    (changed : problem.objective.Respelled other) :
    Respelled problem { problem with objective := other }
  | constraint (problem : Problem F) {others : List (Comparison F)}
    (changed : DiffersOnce Comparison.Respelled problem.constraints others) :
    Respelled problem { problem with constraints := others }
  | bound (problem : Problem F) {others : List (Comparison F)}
    (changed : DiffersOnce Comparison.Respelled problem.bounds others) :
    Respelled problem { problem with bounds := others }

theorem Term.Respelled.monomial_eq {term other : Term F} (changed : term.Respelled other) :
    term.monomial = other.monomial := by
  cases changed
  rfl

theorem Expression.Respelled.form_eq {expression other : Expression F}
    (changed : expression.Respelled other) : expression.form = other.form := by
  cases changed with
  | sum term => rfl
  | single changed => exact congrArg List.singleton changed.monomial_eq
  | addend changed => exact changed.map_eq Term.Respelled.monomial_eq

theorem Comparison.Respelled.restriction_eq {comparison other : Comparison F}
    (changed : comparison.Respelled other) : comparison.restriction = other.restriction := by
  cases changed with
  | turned lower expression upper => rfl
  | equation expression value => rfl
  | simple comparator value changed =>
    simp only [restriction, Comparison.expression, changed.form_eq]
    cases comparator <;> rfl
  | chained comparator left right changed =>
    simp only [restriction, Comparison.expression, changed.form_eq]
    cases comparator <;> rfl

theorem addBound_congr (columns : Columns) (byName : Std.TreeMap String (Restriction F))
    {bound other : Comparison F} (same : bound.restriction = other.restriction) :
    addBound columns byName bound = addBound columns byName other := by
  unfold addBound
  rw [same]

theorem boundsByName_congr (columns : Columns) {bounds others : List (Comparison F)}
    (same : bounds.map Comparison.restriction = others.map Comparison.restriction) :
    boundsByName columns bounds = boundsByName columns others := by
  rw [← List.forall₂_eq_eq_eq, List.forall₂_map_left_iff, List.forall₂_map_right_iff] at same
  -- The bounds that are assigned already are the same in both runs.
  suffices general : ∀ byName, bounds.foldlM (addBound columns) byName =
      others.foldlM (addBound columns) byName from general ∅
  induction same with
  | nil => exact fun _ => rfl
  | cons first _ ih =>
    intro byName
    rw [List.foldlM_cons, List.foldlM_cons, addBound_congr columns byName first]
    congr 1
    funext larger
    exact ih larger

namespace Problem

/-- Compilation sees no more of a problem than its sense, the terms of its objective and what its
comparisons are resolved to. -/
theorem compile_congr {problem other : Problem F} (stem : String)
    (sense : problem.sense = other.sense) (objective : problem.objective.form = other.objective.form)
    (constraints : problem.constraints.map Comparison.restriction =
      other.constraints.map Comparison.restriction)
    (bounds : problem.bounds.map Comparison.restriction =
      other.bounds.map Comparison.restriction) :
    problem.compile stem = other.compile stem := by
  have rows : problem.constraints.mapM Comparison.restriction =
      other.constraints.mapM Comparison.restriction := by
    have mapped (comparisons : List (Comparison F)) :
        comparisons.mapM Comparison.restriction =
          (comparisons.map Comparison.restriction).mapM id := by
      rw [List.mapM_map]
      rfl
    rw [mapped, mapped, constraints]
  have outline : problem.outline = other.outline := by
    simp only [Problem.outline, objective, rows, boundsByName_congr _ bounds]
  simp only [compile, outline, objective, sense]

theorem Respelled.compile_eq {problem other : Problem F} (changed : problem.Respelled other)
    (stem : String) : problem.compile stem = other.compile stem := by
  cases changed with
  | objective changed => exact compile_congr stem rfl changed.form_eq rfl rfl
  | constraint changed =>
    exact compile_congr stem rfl rfl (changed.map_eq Comparison.Respelled.restriction_eq) rfl
  | bound changed =>
    exact compile_congr stem rfl rfl rfl (changed.map_eq Comparison.Respelled.restriction_eq)

/-- Problems that differ only in spelling are compiled to the same model or rejected with the same
error, and the same is reported on the way. -/
theorem compile_respelled {problem other : Problem F}
    (respelled : Relation.EqvGen Respelled problem other) (stem : String) :
    problem.compile stem = other.compile stem := by
  induction respelled with
  | rel problem other changed => exact changed.compile_eq stem
  | refl problem => rfl
  | symm problem other _ ih => exact ih.symm
  | trans problem between other _ _ first second => exact first.trans second

def spelled : Problem Rat where
  sense := .maximize
  objective := .sum [.scaled 3 "x", .bare "y"]
  constraints := [.simple .equal (.single (.bare "y")) 2,
    .chained .lessEqual 1 (.sum [.scaled 2 "x", .scaled 1 "y"]) 4]
  bounds := [.chained .greaterEqual 6 (.sum [.scaled (-2) "x"]) (-4)]

def respelled : Problem Rat where
  sense := .maximize
  objective := .sum [.scaled 3 "x", .scaled 1 "y"]
  constraints := [.chained .lessEqual 2 (.sum [.scaled 1 "y"]) 2,
    .chained .greaterEqual 4 (.sum [.scaled 2 "x", .bare "y"]) 1]
  bounds := [.chained .lessEqual (-4) (.single (.scaled (-2) "x")) 6]

theorem spelled_respelled :
    Relation.EqvGen Respelled spelled respelled ∧
      spelled.compile "R" = respelled.compile "R" := by
  have step {problem other : Problem Rat} (changed : problem.Respelled other) :
      Relation.EqvGen Respelled problem other := .rel _ _ changed
  have steps : Relation.EqvGen Respelled spelled respelled := by
    refine .trans _ _ _ (step (.objective _ (.addend (.later _ (.here _ (.coefficient "y")))))) ?_
    refine .trans _ _ _ (step (.constraint _ (.here _ (.equation _ 2)))) ?_
    refine .trans _ _ _ (step (.constraint _ (.here _ (.chained _ 2 2 (.sum _))))) ?_
    refine .trans _ _ _ (step (.constraint _ (.here _
      (.chained _ 2 2 (.addend (.here _ (.coefficient "y"))))))) ?_
    refine .trans _ _ _ (step (.constraint _ (.later _ (.here _ (.turned 1 _ 4))))) ?_
    -- The last steps lead to simpler spellings.
    refine .symm _ _ (.trans _ _ _ (step (.constraint _ (.later _ (.here _
      (.chained _ 4 1 (.addend (.later _ (.here _ (.coefficient "y"))))))))) ?_)
    refine .trans _ _ _ (step (.bound _ (.here _ (.turned (-4) _ 6)))) ?_
    exact step (.bound _ (.here _ (.chained _ 6 (-4) (.sum _))))
  exact ⟨steps, compile_respelled steps "R"⟩

end Problem

end LinearProgram
