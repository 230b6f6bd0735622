import LinearProgram.Event

namespace LinearProgram

structure Traced (ε α : Type) where
  events : List Event
  outcome : Except ε α

namespace Traced

variable {ε ε' α β : Type}

def ofExcept (outcome : Except ε α) : Traced ε α :=
  ⟨[], outcome⟩

def emitAll (events : List Event) : Traced ε Unit :=
  ⟨events, .ok ()⟩

def emit (event : Event) : Traced ε Unit :=
  emitAll [event]

def andThen (first : Traced ε α) (next : α → Traced ε β) : Traced ε β :=
  match first.outcome with
  | .error error => ⟨first.events, .error error⟩
  | .ok value => ⟨first.events ++ (next value).events, (next value).outcome⟩

instance : Monad (Traced ε) where
  pure value := ⟨[], .ok value⟩
  bind := andThen

instance : MonadExceptOf ε (Traced ε) where
  throw error := ⟨[], .error error⟩
  tryCatch first handle :=
    match first.outcome with
    | .ok _ => first
    | .error error => ⟨first.events ++ (handle error).events, (handle error).outcome⟩

def mapError (f : ε → ε') (work : Traced ε α) : Traced ε' α :=
  ⟨work.events, work.outcome.mapError f⟩

@[simp] theorem bind_mk_ok (events : List Event) (value : α) (next : α → Traced ε β) :
    ((⟨events, .ok value⟩ : Traced ε α) >>= next) =
      ⟨events ++ (next value).events, (next value).outcome⟩ := rfl

@[simp] theorem bind_mk_error (events : List Event) (error : ε) (next : α → Traced ε β) :
    ((⟨events, .error error⟩ : Traced ε α) >>= next) = ⟨events, .error error⟩ := rfl

@[simp] theorem pure_eq (value : α) : (pure value : Traced ε α) = ⟨[], .ok value⟩ := rfl

theorem outcome_bind (first : Traced ε α) (next : α → Traced ε β) :
    (first >>= next).outcome = first.outcome >>= fun value => (next value).outcome := by
  rcases first with ⟨events, _ | value⟩ <;> rfl

instance : LawfulMonad (Traced ε) :=
  .mk' (Traced ε)
    (fun first => by rcases first with ⟨events, _ | value⟩ <;> simp [Functor.map, andThen])
    (fun value next => by simp)
    (fun first f g => by
      rcases first with ⟨events, _ | value⟩
      · rfl
      · simp only [bind_mk_ok]
        rcases f value with ⟨more, _ | result⟩ <;> simp)

end Traced

end LinearProgram
