import LinearProgram.Proofs.Outcome
import LinearProgram.Proofs.Transfer

namespace LinearProgram

/-- What can go wrong in a step that trusts its surroundings: a branch taken that should not be
reached, a cut outside a list or inside a character, an index outside an array, an assertion that
fails, a division by zero, a result out of the range of its word, or a loop at a standstill. -/
inductive Breach where
  | unreachable
  | slice
  | index
  | assertion
  | division
  | overflow
  | standstill
deriving DecidableEq

inductive Stop (ε : Type) where
  | breach (cause : Breach)
  | error (error : ε)
deriving DecidableEq

/-- Work that checks each step that could go wrong before it is taken. -/
abbrev Guarded (ε α : Type) : Type :=
  Except (Stop ε) α

namespace Guarded

variable {ε ε' α β σ τ : Type}

def breach (cause : Breach) : Guarded ε α :=
  .error (.breach cause)

def fail (error : ε) : Guarded ε α :=
  .error (.error error)

def sound (work : Except ε α) : Guarded ε α :=
  work.mapError .error

def require (condition : Prop) [Decidable condition] (cause : Breach) : Guarded ε Unit :=
  if condition then .ok () else breach cause

def demand (value? : Option α) (cause : Breach) : Guarded ε α :=
  match value? with
  | some value => .ok value
  | none => breach cause

def explain (f : ε → ε') (work : Guarded ε α) : Guarded ε' α :=
  work.mapError fun
    | .breach cause => .breach cause
    | .error error => .error (f error)

@[simp] theorem sound_ok (value : α) : sound (.ok value : Except ε α) = .ok value := rfl

@[simp] theorem sound_error (error : ε) : sound (.error error : Except ε α) = fail error := rfl

@[simp] theorem demand_some (value : α) (cause : Breach) :
    (demand (some value) cause : Guarded ε α) = .ok value := rfl

theorem require_of {condition : Prop} [Decidable condition] (holds : condition) (cause : Breach) :
    (require condition cause : Guarded ε Unit) = .ok () :=
  if_pos holds

@[simp] theorem ok_bind (value : α) (next : α → Except ε β) :
    ((.ok value : Except ε α) >>= next) = next value := rfl

/-- Sound work is never broken off by a breach. -/
theorem sound_ne_breach (work : Except ε α) (cause : Breach) :
    sound work ≠ .error (.breach cause) := by
  cases work <;> simp [fail]

structure Keeps (guarded : Guarded ε α) (work : Except ε α) : Prop where
  same : guarded = sound work
  whole : ∀ cause, guarded ≠ .error (.breach cause)

theorem keeps_of_eq {guarded : Guarded ε α} {work : Except ε α} (same : guarded = sound work) :
    Keeps guarded work :=
  ⟨same, fun cause => same ▸ sound_ne_breach work cause⟩

theorem sound_bind {work : Except ε α} {next : α → Except ε β} {next' : α → Guarded ε β}
    (rest : ∀ value, work = .ok value → next' value = sound (next value)) :
    (sound work >>= next') = sound (work >>= next) := by
  cases work with
  | error error => rfl
  | ok value => exact rest value rfl

theorem sound_map (work : Except ε α) (f : α → β) :
    (sound work).map f = sound (work.map f) := by
  cases work <;> rfl

theorem explain_sound (work : Except ε α) (f : ε → ε') :
    (sound work).explain f = sound (work.mapError f) := by
  cases work <;> rfl

theorem sound_mapM {f : α → Except ε β} {f' : α → Guarded ε β} {xs : List α}
    (each : ∀ x ∈ xs, f' x = sound (f x)) : xs.mapM f' = sound (xs.mapM f) := by
  induction xs with
  | nil => rfl
  | cons x xs ih =>
    obtain ⟨first, rest⟩ := List.forall_mem_cons.mp each
    rw [List.mapM_cons, List.mapM_cons, first, ih rest]
    apply sound_bind
    intro value _
    exact sound_bind fun _ _ => rfl

theorem mapM_ok {f : α → Guarded ε β} {g : α → β} {xs : List α}
    (each : ∀ x ∈ xs, f x = .ok (g x)) : xs.mapM f = .ok (xs.map g) := by
  induction xs with
  | nil => rfl
  | cons x xs ih =>
    obtain ⟨first, rest⟩ := List.forall_mem_cons.mp each
    rw [List.mapM_cons, first, ih rest]
    rfl

theorem findSomeM?_ok {f : α → Guarded ε (Option β)} {g : α → Option β}
    (each : ∀ x, f x = .ok (g x)) (xs : List α) : xs.findSomeM? f = .ok (xs.findSome? g) := by
  induction xs with
  | nil => rfl
  | cons x xs ih =>
    rw [List.findSomeM?_cons, each, ok_bind, List.findSome?_cons]
    cases g x with
    | none => exact ih
    | some y => rfl

theorem sound_foldlM {step : σ → α → Except ε σ} {step' : σ → α → Guarded ε σ}
    (each : ∀ state x, step' state x = sound (step state x)) (xs : List α) (state : σ) :
    xs.foldlM step' state = sound (xs.foldlM step state) := by
  induction xs generalizing state with
  | nil => rfl
  | cons x xs ih =>
    rw [List.foldlM_cons, List.foldlM_cons, each]
    exact sound_bind fun next _ => ih next

end Guarded

end LinearProgram
