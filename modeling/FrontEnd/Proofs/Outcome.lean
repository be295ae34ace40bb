/-!
Steps that read and change a state and may fail. What they did to the state stays when they fail.
-/

namespace FrontEnd

/-- What steps give from a state on, and the state that they leave. -/
def outcome (steps : ExceptT ε (StateM σ) α) (state : σ) : Except ε α × σ :=
  steps.run.run state

variable {ε σ α β : Type} {steps : ExceptT ε (StateM σ) α} {rest : α → ExceptT ε (StateM σ) β}
  {state after : σ} {value : α} {err : ε}

@[simp] theorem outcome_pure (value : α) (state : σ) :
    outcome (pure value : ExceptT ε (StateM σ) α) state = (.ok value, state) := rfl

@[simp] theorem outcome_throw (err : ε) (state : σ) :
    outcome (throw err : ExceptT ε (StateM σ) α) state = (.error err, state) := rfl

@[simp] theorem outcome_lift (result : Except ε α) (state : σ) :
    outcome (liftM result : ExceptT ε (StateM σ) α) state = (result, state) := by
  cases result <;> rfl

theorem lift_ok (value : α) :
    (liftM (Except.ok value : Except ε α) : ExceptT ε (StateM σ) α) = pure value := rfl

theorem lift_error (err : ε) :
    (liftM (Except.error err : Except ε α) : ExceptT ε (StateM σ) α) = throw err := rfl

theorem outcome_bind (steps : ExceptT ε (StateM σ) α) (rest : α → ExceptT ε (StateM σ) β)
    (state : σ) : outcome (steps >>= rest) state = match outcome steps state with
      | (.ok value, after) => outcome (rest value) after
      | (.error err, after) => (.error err, after) := by
  rcases ran : outcome steps state with ⟨_ | _, _⟩ <;>
  · simp only [outcome, StateT.run, ExceptT.run] at ran
    simp only [outcome, bind, ExceptT.bind, StateT.bind, StateT.run, ExceptT.run, ExceptT.mk, ran]
    rfl

theorem outcome_bind_ok (ran : outcome steps state = (.ok value, after)) :
    outcome (steps >>= rest) state = outcome (rest value) after := by
  rw [outcome_bind, ran]

theorem outcome_bind_error (ran : outcome steps state = (.error err, after)) :
    outcome (steps >>= rest) state = (.error err, after) := by
  rw [outcome_bind, ran]

/-- What is made of a result leaves the state as it is. -/
theorem outcome_bind_pure (steps : ExceptT ε (StateM σ) α) (wrap : α → β) (state : σ) :
    (outcome (do return wrap (← steps)) state).2 = (outcome steps state).2 := by
  rw [outcome_bind]
  rcases outcome steps state with ⟨_ | _, _⟩ <;> rfl

/-- Steps one after the other succeed only if all of them do. -/
theorem outcome_bind_inv {result : β} {last : σ}
    (ran : outcome (steps >>= rest) state = (.ok result, last)) :
    ∃ value after, outcome steps state = (.ok value, after) ∧
      outcome (rest value) after = (.ok result, last) := by
  rw [outcome_bind] at ran
  rcases first : outcome steps state with ⟨err | value, after⟩ <;> rw [first] at ran
  · cases ran
  · exact ⟨value, after, rfl, ran⟩

theorem outcome_get_bind (rest : σ → ExceptT ε (StateM σ) β) (state : σ) :
    outcome (get >>= rest) state = outcome (rest state) state := rfl

/-- Steps that cannot fail go on from what the first of them gave. -/
theorem run_bind_of {steps : StateM σ α} {rest : α → StateM σ β}
    (ran : steps.run state = (value, after)) :
    (steps >>= rest).run state = (rest value).run after := by
  rw [StateT.run_bind, ran]
  rfl

/-- Steps that agree for each of some values agree for all of them. -/
theorem mapM_congr [Monad m] [LawfulMonad m] {steps steps' : α → m β} {xs : List α}
    (same : ∀ x ∈ xs, steps x = steps' x) : xs.mapM steps = xs.mapM steps' := by
  induction xs with
  | nil => rfl
  | cons x rest ih =>
    rw [List.mapM_cons, List.mapM_cons, same x List.mem_cons_self,
      ih fun y member => same y (List.mem_cons_of_mem _ member)]

theorem forM_congr [Monad m] {steps steps' : α → m PUnit} {xs : List α}
    (same : ∀ x ∈ xs, steps x = steps' x) : xs.forM steps = xs.forM steps' := by
  induction xs with
  | nil => rfl
  | cons x rest ih =>
    unfold List.forM
    rw [same x List.mem_cons_self, ih fun y member => same y (List.mem_cons_of_mem _ member)]

/-- A result that depends on another is one only if the other is. -/
theorem bind_eq_ok {first : Except ε α} {next : α → Except ε β} {result : β}
    (given : first >>= next = .ok result) : ∃ value, first = .ok value ∧ next value = .ok result := by
  cases first with
  | error err => cases given
  | ok value => exact ⟨value, rfl, given⟩

theorem bind_eq_ok_iff {first : Except ε α} {next : α → Except ε β} {result : β} :
    first >>= next = .ok result ↔ ∃ value, first = .ok value ∧ next value = .ok result :=
  ⟨bind_eq_ok, fun ⟨_, same, given⟩ => same ▸ given⟩

/-- Results for all of some values are results for each of them. -/
theorem exists_of_mapM_eq_ok {steps : α → Except ε β} {values : List α} {results : List β}
    (given : values.mapM steps = .ok results) : ∀ value ∈ values, ∃ result, steps value = .ok result := by
  induction values generalizing results with
  | nil => exact List.forall_mem_nil _
  | cons value rest ih =>
    rw [List.mapM_cons] at given
    obtain ⟨result, first, given⟩ := bind_eq_ok given
    obtain ⟨others, behind, -⟩ := bind_eq_ok given
    exact List.forall_mem_cons.2 ⟨⟨result, first⟩, ih behind⟩

end FrontEnd
