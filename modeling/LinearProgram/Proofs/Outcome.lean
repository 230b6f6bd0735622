import LinearProgram.Traced
import Mathlib.Data.List.Forall2

namespace LinearProgram

variable {ε ε' α β σ : Type}

theorem bind_eq_ok {work : Except ε α} {next : α → Except ε β} {result : β} :
    (work >>= next) = .ok result ↔ ∃ value, work = .ok value ∧ next value = .ok result := by
  cases work <;> simp [bind, Except.bind]

theorem map_eq_ok {work : Except ε α} {f : α → β} {result : β} :
    work.map f = .ok result ↔ ∃ value, work = .ok value ∧ f value = result := by
  cases work <;> simp [Except.map]

theorem mapError_eq_ok {work : Except ε α} {f : ε → ε'} {result : α} :
    work.mapError f = .ok result ↔ work = .ok result := by
  cases work <;> simp [Except.mapError]

theorem bind_eq_error {work : Except ε α} {next : α → Except ε β} {error : ε} :
    (work >>= next) = .error error ↔
      work = .error error ∨ ∃ value, work = .ok value ∧ next value = .error error := by
  cases work <;> simp [bind, Except.bind]

theorem mapError_eq_error {work : Except ε α} {f : ε → ε'} {error : ε'} :
    work.mapError f = .error error ↔ ∃ cause, work = .error cause ∧ f cause = error := by
  cases work <;> simp [Except.mapError]

theorem mapM_eq_ok {f : α → Except ε β} {xs : List α} {ys : List β} :
    xs.mapM f = .ok ys ↔ List.Forall₂ (fun x y => f x = .ok y) xs ys := by
  induction xs generalizing ys with
  | nil => cases ys <;> simp [pure, Except.pure]
  | cons x xs ih =>
    simp only [List.mapM_cons, bind_eq_ok, List.forall₂_cons_left_iff, ih]
    constructor
    · intro ran
      obtain ⟨y, first, values, rest, done⟩ := ran
      cases done
      exact ⟨y, values, first, rest, rfl⟩
    · intro related
      obtain ⟨y, values, first, rest, rfl⟩ := related
      exact ⟨y, first, values, rest, rfl⟩

theorem mapM_eq_ok_of_iff {f : α → Except ε β} {Fits : α → Prop} {g : α → β}
    (fits : ∀ x y, f x = .ok y ↔ Fits x ∧ y = g x) {xs : List α} {ys : List β} :
    xs.mapM f = .ok ys ↔ (∀ x ∈ xs, Fits x) ∧ ys = xs.map g := by
  simp only [mapM_eq_ok, fits]
  induction xs generalizing ys with
  | nil => simp
  | cons x xs ih =>
    simp only [List.forall₂_cons_left_iff, ih, List.forall_mem_cons, List.map_cons]
    constructor
    · intro given
      obtain ⟨_, _, ⟨first, rfl⟩, ⟨rest, rfl⟩, rfl⟩ := given
      exact ⟨⟨first, rest⟩, rfl⟩
    · intro fitting
      obtain ⟨⟨first, rest⟩, rfl⟩ := fitting
      exact ⟨_, _, ⟨first, rfl⟩, ⟨rest, rfl⟩, rfl⟩

theorem related_of_forall₂ {related : α → β → Prop} {xs : List α} {ys : List β} {place : Nat}
    {x : α} {y : β} (all : List.Forall₂ related xs ys) (left : xs[place]? = some x)
    (right : ys[place]? = some y) : related x y := by
  have both : (x, y) ∈ xs.zip ys :=
    List.mem_of_getElem? (List.getElem?_zip_eq_some.mpr ⟨left, right⟩)
  exact List.forall₂_zip all both

theorem exists_of_forall₂ {related : α → β → Prop} {xs : List α} {ys : List β}
    (all : List.Forall₂ related xs ys) : ∀ y ∈ ys, ∃ x ∈ xs, related x y := by
  induction all with
  | nil => simp
  | @cons x y _ _ first _ ih =>
    intro other member
    rcases List.mem_cons.mp member with rfl | member
    · exact ⟨x, List.mem_cons_self, first⟩
    · obtain ⟨x', inside, holds⟩ := ih other member
      exact ⟨x', List.mem_cons_of_mem _ inside, holds⟩

theorem forall₂_concat {related : α → β → Prop} {xs : List α} {ys : List β} {x : α} {y : β}
    (all : List.Forall₂ related xs ys) (last : related x y) :
    List.Forall₂ related (xs ++ [x]) (ys ++ [y]) :=
  List.rel_append all (.cons last .nil)

def failure? : Except ε α → Option ε
  | .ok _ => none
  | .error error => some error

@[simp] theorem failure?_ok (value : α) : failure? (.ok value : Except ε α) = none := rfl

@[simp] theorem failure?_error (error : ε) : failure? (.error error : Except ε α) = some error :=
  rfl

theorem failure?_eq_none {work : Except ε α} :
    failure? work = none ↔ ∃ value, work = .ok value := by
  cases work <;> simp

theorem failure?_eq_some {work : Except ε α} {error : ε} :
    failure? work = some error ↔ work = .error error := by
  cases work <;> simp

@[simp] theorem failure?_map (work : Except ε α) (f : α → β) :
    failure? (work.map f) = failure? work := by
  cases work <;> rfl

@[simp] theorem failure?_mapError (work : Except ε α) (f : ε → ε') :
    failure? (work.mapError f) = (failure? work).map f := by
  cases work <;> rfl

theorem failure?_bind {work : Except ε α} {next : α → Except ε β} {last : Option ε}
    (rest : ∀ value, work = .ok value → failure? (next value) = last) :
    failure? (work >>= next) = (failure? work).or last := by
  cases work with
  | ok value => exact rest value rfl
  | error error => rfl

theorem failure?_mapM (f : α → Except ε β) (xs : List α) :
    failure? (xs.mapM f) = (xs.filterMap fun x => failure? (f x)).head? := by
  induction xs with
  | nil => rfl
  | cons x xs ih =>
    rw [List.mapM_cons, List.filterMap_cons]
    cases first : f x with
    | error e => rfl
    | ok y =>
      simp only [failure?_ok, ← ih]
      cases xs.mapM f <;> rfl

def withEarlier : List α → List α → List (List α × α)
  | _, [] => []
  | before, x :: rest => (before, x) :: withEarlier (before ++ [x]) rest

theorem map_snd_withEarlier (before xs : List α) : (withEarlier before xs).map Prod.snd = xs := by
  induction xs generalizing before with
  | nil => rfl
  | cons x xs ih => rw [withEarlier, List.map_cons, ih]

theorem forall_withEarlier (p : α → Prop) (before xs : List α) :
    (∀ entry ∈ withEarlier before xs, p entry.2) ↔ ∀ x ∈ xs, p x := by
  conv_rhs => rw [← map_snd_withEarlier before xs, List.forall_mem_map]

theorem withEarlier_map (f : α → β) (before xs : List α) :
    withEarlier (before.map f) (xs.map f) =
      (withEarlier before xs).map fun entry => (entry.1.map f, f entry.2) := by
  induction xs generalizing before with
  | nil => rfl
  | cons x xs ih =>
    rw [List.map_cons, withEarlier, withEarlier, List.map_cons, ← ih, List.map_append]
    rfl

theorem withEarlier_concat (before xs : List α) (x : α) :
    withEarlier before (xs ++ [x]) = withEarlier before xs ++ [(before ++ xs, x)] := by
  induction xs generalizing before with
  | nil => simp [withEarlier]
  | cons y ys ih => simp [withEarlier, ih]

theorem pairwise_iff_withEarlier {related : α → α → Prop} {xs : List α} :
    xs.Pairwise related ↔ ∀ entry ∈ withEarlier [] xs, ∀ x ∈ entry.1, related x entry.2 := by
  -- The elements before the list are related to all of it, so that the tail can be read alike.
  suffices general : ∀ before, (∀ entry ∈ withEarlier before xs, ∀ x ∈ entry.1, related x entry.2) ↔
      (∀ x ∈ before, ∀ y ∈ xs, related x y) ∧ xs.Pairwise related by
    simpa using (general []).symm
  induction xs with
  | nil => simp [withEarlier]
  | cons y ys ih =>
    intro before
    simp only [withEarlier, List.forall_mem_cons, ih, List.pairwise_cons, List.forall_mem_append]
    grind

theorem foldlM_eq_error {step : σ → α → Except ε σ} {xs : List α} {state : σ} {error : ε} :
    xs.foldlM step state = .error error ↔ ∃ before x after reached, xs = before ++ x :: after ∧
      before.foldlM step state = .ok reached ∧ step reached x = .error error := by
  constructor
  · intro failed
    induction xs generalizing state with
    | nil => cases failed
    | cons x xs ih =>
      rw [List.foldlM_cons] at failed
      rcases bind_eq_error.mp failed with first | ⟨next, first, rest⟩
      · exact ⟨[], x, xs, state, rfl, rfl, first⟩
      · obtain ⟨before, y, after, reached, rfl, ran, last⟩ := ih rest
        refine ⟨x :: before, y, after, reached, rfl, ?_, last⟩
        rw [List.foldlM_cons]
        exact bind_eq_ok.mpr ⟨next, first, ran⟩
  · rintro ⟨before, x, after, reached, rfl, ran, last⟩
    rw [List.foldlM_append]
    refine bind_eq_error.mpr (.inr ⟨reached, ran, ?_⟩)
    rw [List.foldlM_cons]
    exact bind_eq_error.mpr (.inl last)

theorem head?_filterMap_head? (f : α → List β) (xs : List α) :
    (xs.filterMap fun x => (f x).head?).head? = (xs.flatMap f).head? := by
  induction xs with
  | nil => rfl
  | cons x xs ih => cases first : f x <;> simp [first, ih]

section Fold

variable {step : σ → α → Except ε σ} (Reached : List α → σ → Prop)
  (keeps : ∀ before x state state', Reached before state → step state x = .ok state' →
    Reached (before ++ [x]) state')

include keeps

/-- What holds of the state after the elements before one, holds after all of them. -/
theorem foldlM_reaches {xs before : List α} {state final : σ} (start : Reached before state)
    (ended : xs.foldlM step state = .ok final) : Reached (before ++ xs) final := by
  induction xs generalizing before state with
  | nil => cases ended; simpa using start
  | cons x xs ih =>
    rw [List.foldlM_cons] at ended
    obtain ⟨next, first, rest⟩ := bind_eq_ok.mp ended
    simpa using ih (keeps before x state next start first) rest

/-- A fold fails with the first failure of a step after the elements before it. -/
theorem failure?_foldlM {fault : List α → α → Option ε}
    (fails : ∀ before x state, Reached before state → failure? (step state x) = fault before x)
    (xs before : List α) (state : σ) (start : Reached before state) :
    failure? (xs.foldlM step state) =
      ((withEarlier before xs).filterMap fun entry => fault entry.1 entry.2).head? := by
  induction xs generalizing before state with
  | nil => rfl
  | cons x xs ih =>
    rw [List.foldlM_cons, withEarlier, List.filterMap_cons, ← fails before x state start]
    cases first : step state x with
    | error e => rfl
    | ok next =>
      simpa [bind, Except.bind] using ih _ next (keeps before x state next start first)

/-- A fold succeeds if each element fits behind the elements before it. -/
theorem foldlM_succeeds_iff {Fits : List α → α → Prop}
    (fits : ∀ before x state, Reached before state →
      ((∃ next, step state x = .ok next) ↔ Fits before x))
    {xs before : List α} {state : σ} (start : Reached before state) :
    (∃ final, xs.foldlM step state = .ok final) ↔
      ∀ entry ∈ withEarlier before xs, Fits entry.1 entry.2 := by
  induction xs generalizing before state with
  | nil => simp [withEarlier, pure, Except.pure]
  | cons x xs ih =>
    simp only [List.foldlM_cons, bind_eq_ok, withEarlier, List.forall_mem_cons]
    constructor
    · intro succeeds
      obtain ⟨final, next, first, rest⟩ := succeeds
      exact ⟨(fits before x state start).mp ⟨next, first⟩,
        (ih (keeps before x state next start first)).mp ⟨final, rest⟩⟩
    · intro fitting
      obtain ⟨next, first⟩ := (fits before x state start).mpr fitting.1
      obtain ⟨final, rest⟩ := (ih (keeps before x state next start first)).mpr fitting.2
      exact ⟨final, next, first, rest⟩

end Fold

namespace Traced

@[simp] theorem outcome_ofExcept (outcome : Except ε α) : (ofExcept outcome).outcome = outcome :=
  rfl

@[simp] theorem outcome_mapError (f : ε → ε') (work : Traced ε α) :
    (work.mapError f).outcome = work.outcome.mapError f := rfl

@[simp] theorem outcome_pure (value : α) : (pure value : Traced ε α).outcome = .ok value := rfl

@[simp] theorem outcome_emitAll (events : List Event) :
    (emitAll events : Traced ε Unit).outcome = .ok () := rfl

@[simp] theorem outcome_emit (event : Event) : (emit event : Traced ε Unit).outcome = .ok () := rfl

theorem outcome_mapM (f : α → Traced ε β) (xs : List α) :
    (xs.mapM f).outcome = xs.mapM fun x => (f x).outcome := by
  induction xs with
  | nil => rfl
  | cons x xs ih =>
    rw [List.mapM_cons, List.mapM_cons, outcome_bind]
    congr 1
    funext y
    rw [outcome_bind, ih]
    rfl

end Traced

end LinearProgram
