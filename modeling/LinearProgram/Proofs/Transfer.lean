import LinearProgram.Proofs.Outcome

namespace LinearProgram

variable {ε ε' α α' β β' γ σ τ : Type}

section Maps

theorem bind_of_map (work : Except ε α) (f : α → β) (next : β → Except ε γ) :
    work.map f >>= next = work >>= fun value => next (f value) := by
  cases work <;> rfl

theorem map_of_bind (work : Except ε α) (next : α → Except ε β) (f : β → γ) :
    (work >>= next).map f = work >>= fun value => (next value).map f := by
  cases work <;> rfl

theorem mapError_of_map (work : Except ε α) (f : α → β) (g : ε → ε') :
    (work.map f).mapError g = (work.mapError g).map f := by
  cases work <;> rfl

theorem mapError_mapError {ε'' : Type} (work : Except ε α) (f : ε → ε') (g : ε' → ε'') :
    (work.mapError f).mapError g = work.mapError fun error => g (f error) := by
  cases work <;> rfl

theorem mapError_of_bind (work : Except ε α) (next : α → Except ε β) (f : ε → ε') :
    (work >>= next).mapError f = work.mapError f >>= fun value => (next value).mapError f := by
  cases work <;> rfl

theorem mapError_of_mapM (step : α → Except ε β) (f : ε → ε') (xs : List α) :
    (xs.mapM step).mapError f = xs.mapM fun x => (step x).mapError f := by
  induction xs with
  | nil => rfl
  | cons x xs ih =>
    rw [List.mapM_cons, List.mapM_cons, mapError_of_bind, ← ih]
    congr 1
    funext y
    cases xs.mapM step <;> rfl

theorem mapError_of_foldlM (step : σ → α → Except ε σ) (f : ε → ε') (xs : List α) (state : σ) :
    (xs.foldlM step state).mapError f =
      xs.foldlM (fun state x => (step state x).mapError f) state := by
  induction xs generalizing state with
  | nil => rfl
  | cons x xs ih =>
    rw [List.foldlM_cons, List.foldlM_cons, mapError_of_bind]
    congr 1
    funext next
    exact ih next

variable {f : α → Except ε β} {f' : α' → Except ε β'} {arg : α → α'} {res : β → β'}

/-- Steps that commute with maps of what they read and return do so over a whole list. -/
theorem mapM_of_map (commutes : ∀ x, f' (arg x) = (f x).map res) (xs : List α) :
    (xs.map arg).mapM f' = (xs.mapM f).map (List.map res) := by
  induction xs with
  | nil => rfl
  | cons x xs ih =>
    rw [List.map_cons, List.mapM_cons, List.mapM_cons, ih, commutes]
    cases f x with
    | error e => rfl
    | ok y => cases xs.mapM f <;> rfl

theorem foldlM_of_map {step : σ → α → Except ε σ} {step' : τ → α → Except ε τ} {view : σ → τ}
    (commutes : ∀ state x, step' (view state) x = (step state x).map view) (xs : List α)
    (state : σ) : xs.foldlM step' (view state) = (xs.foldlM step state).map view := by
  induction xs generalizing state with
  | nil => rfl
  | cons x xs ih =>
    rw [List.foldlM_cons, List.foldlM_cons, commutes, bind_of_map, map_of_bind]
    congr 1
    funext next
    exact ih next

end Maps

/-- Whether work ends as other work does, with the same error or with a related result. When the
other stops for one of the given reasons, nothing is said about the work. -/
def Transfers (stops : ε → Prop) (related : α → β → Prop) : Except ε α → Except ε β → Prop
  | .ok value, work => ∃ result, work = .ok result ∧ related value result
  | .error error, work => stops error ∨ work = .error error

namespace Transfers

variable {stops : ε → Prop} {related : α → β → Prop} {related' : α' → β' → Prop}
  {other : Except ε α} {work : Except ε β}

theorem of_ok {value : α} {result : β} (same : related value result) :
    Transfers stops related (.ok value) (.ok result) :=
  ⟨result, rfl, same⟩

theorem of_error (error : ε) : Transfers stops related (.error error) (.error error) :=
  .inr rfl

theorem of_eq_map {f : α → β} (mapped : work = other.map f) :
    Transfers stops (fun value result => result = f value) other work := by
  subst mapped
  cases other with
  | error e => exact of_error e
  | ok value => exact of_ok rfl

theorem refl (other : Except ε α) :
    Transfers stops (fun value result => result = value) other other := by
  cases other with
  | error e => exact of_error e
  | ok value => exact of_ok rfl

theorem eq_map {f : α → β}
    (transfers : Transfers stops (fun value result => result = f value) other work)
    (finished : ∀ error, other = .error error → ¬ stops error) : work = other.map f := by
  cases other with
  | error e =>
    rcases transfers with stopped | same
    · exact absurd stopped (finished e rfl)
    · exact same
  | ok value =>
    obtain ⟨_, done, rfl⟩ := transfers
    exact done

theorem remember (transfers : Transfers stops related other work) :
    Transfers stops (fun value result => other = .ok value ∧ related value result) other work := by
  cases other with
  | error e => exact transfers
  | ok value =>
    obtain ⟨result, done, same⟩ := transfers
    exact ⟨result, done, rfl, same⟩

theorem bind {next : α → Except ε α'} {next' : β → Except ε β'}
    (first : Transfers stops related other work)
    (rest : ∀ value result, related value result →
      Transfers stops related' (next value) (next' result)) :
    Transfers stops related' (other >>= next) (work >>= next') := by
  cases other with
  | error e =>
    rcases first with stopped | rfl
    · exact .inl stopped
    · exact of_error e
  | ok value =>
    obtain ⟨result, rfl, same⟩ := first
    exact rest value result same

theorem mapError {f : ε → ε'} {stops' : ε' → Prop} (transfers : Transfers stops related other work)
    (implies : ∀ error, stops error → stops' (f error)) :
    Transfers stops' related (other.mapError f) (work.mapError f) := by
  cases other with
  | error e =>
    rcases transfers with stopped | rfl
    · exact .inl (implies e stopped)
    · exact of_error (f e)
  | ok value =>
    obtain ⟨result, rfl, same⟩ := transfers
    exact of_ok same

theorem map {f : α → α'} {f' : β → β'} (transfers : Transfers stops related other work)
    (implies : ∀ value result, related value result → related' (f value) (f' result)) :
    Transfers stops related' (other.map f) (work.map f') := by
  cases other with
  | error e =>
    rcases transfers with stopped | rfl
    · exact .inl stopped
    · exact of_error e
  | ok value =>
    obtain ⟨result, rfl, same⟩ := transfers
    exact of_ok (implies value result same)

theorem mapM {f : α → Except ε β} {f' : α → Except ε β'} {res : β → β'}
    (each : ∀ x, Transfers stops (fun value result => result = res value) (f x) (f' x))
    (xs : List α) :
    Transfers stops (fun values results => results = values.map res) (xs.mapM f)
      (xs.mapM f') := by
  induction xs with
  | nil => exact of_ok rfl
  | cons x xs ih =>
    rw [List.mapM_cons, List.mapM_cons]
    apply bind (each x)
    intro value result same
    apply bind ih
    intro values results others
    subst same others
    exact of_ok rfl

theorem foldlM {kept : σ → τ → Prop} {step : σ → α → Except ε σ} {step' : τ → α → Except ε τ}
    (each : ∀ state state' x, kept state state' →
      Transfers stops kept (step state x) (step' state' x))
    (xs : List α) {state : σ} {state' : τ} (start : kept state state') :
    Transfers stops kept (xs.foldlM step state) (xs.foldlM step' state') := by
  induction xs generalizing state state' with
  | nil => exact of_ok start
  | cons x xs ih =>
    rw [List.foldlM_cons, List.foldlM_cons]
    apply bind (each state state' x start)
    intro next next' reached
    exact ih reached

end Transfers

end LinearProgram
