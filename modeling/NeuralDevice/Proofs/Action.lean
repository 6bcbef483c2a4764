import NeuralDevice.Action

/-!
What actions do to the part of a state that a `view` shows. An action may leave it alone whatever happens, or
leave it alone if it fails; a sequence that leaves it alone up to a step fails cleanly if that step does.
-/

namespace NeuralDevice.Action

variable {ω τ α β : Type}

theorem apply_bind (first : Action ω α) (next : α → Action ω β) (state : ω) :
    (first >>= next).apply state =
      match first.apply state with
      | (.ok value, later) => (next value).apply later
      | (.error error, later) => (.error error, later) := by
  simp only [apply, ExceptT.run_bind, StateT.run_bind]
  rcases StateT.run (ExceptT.run first) state with ⟨error | value, later⟩ <;> rfl

theorem apply_bind_ok {first : Action ω α} {next : α → Action ω β} {before after : ω} {value : α}
    (done : first.apply before = (.ok value, after)) :
    (first >>= next).apply before = (next value).apply after := by
  rw [apply_bind, done]

theorem apply_bind_error {first : Action ω α} {next : α → Action ω β} {before after : ω}
    {error : Error} (failed : first.apply before = (.error error, after)) :
    (first >>= next).apply before = (.error error, after) := by
  rw [apply_bind, failed]

/-- Nothing follows a failure. -/
theorem throw_bind (error : Error) (next : α → Action ω β) :
    ((throw error : Action ω α) >>= next) = throw error := rfl

theorem apply_get (state : ω) : (get : Action ω ω).apply state = (.ok state, state) := rfl

theorem apply_ofResult (result : Result α) (state : ω) :
    (ofResult result : Action ω α).apply state = (result, state) := rfl

theorem apply_ofResult_bind {result : Result α} {value : α} (done : result = .ok value)
    (next : α → Action ω β) (state : ω) :
    (ofResult result >>= next).apply state = (next value).apply state := by
  rw [apply_bind_ok (apply_ofResult _ _ |>.trans (by rw [done]))]

theorem apply_ofStep (step : ω → Result α × ω) (state : ω) :
    (ofStep step).apply state = step state := rfl

theorem apply_attempt (action : Action ω α) (state : ω) :
    action.attempt.apply state = (.ok (action.apply state).1, (action.apply state).2) := rfl

theorem apply_onSecond (action : Action ω α) (state : β × ω) :
    (action.onSecond : Action (β × ω) α).apply state =
      ((action.apply state.2).1, (state.1, (action.apply state.2).2)) := rfl

/-- A sequence succeeds exactly when each of its steps does. -/
theorem apply_bind_eq_ok_iff {first : Action ω α} {next : α → Action ω β} {before after : ω} {value : β} :
    (first >>= next).apply before = (.ok value, after) ↔
      ∃ middle between, first.apply before = (.ok middle, between) ∧
        (next middle).apply between = (.ok value, after) := by
  constructor
  · intro done
    rcases ran : first.apply before with ⟨error | middle, between⟩
    · rw [apply_bind_error ran] at done
      cases done
    · rw [apply_bind_ok ran] at done
      exact ⟨middle, between, rfl, done⟩
  · intro parts
    rcases parts with ⟨middle, between, ran, done⟩
    rw [apply_bind_ok ran, done]

theorem apply_ofResult_eq_ok_iff {result : Result α} {before after : ω} {value : α} :
    (ofResult result : Action ω α).apply before = (.ok value, after) ↔ result = .ok value ∧ before = after := by
  rw [apply_ofResult, Prod.mk.injEq]

theorem apply_pure_eq_ok_iff {given value : α} {before after : ω} :
    (pure given : Action ω α).apply before = (.ok value, after) ↔ given = value ∧ before = after := by
  rw [show (pure given : Action ω α).apply before = (.ok given, before) from rfl, Prod.mk.injEq,
    Except.ok.injEq]

/-- Whatever the action yields, the view stays as it was. -/
def Keeps (view : ω → τ) (action : Action ω α) : Prop :=
  ∀ state, view (action.apply state).2 = view state

/-- If the action fails, the view stays as it was. -/
def FailsCleanly (view : ω → τ) (action : Action ω α) : Prop :=
  ∀ before after error, action.apply before = (.error error, after) → view after = view before

variable {view : ω → τ}

theorem Keeps.failsCleanly {action : Action ω α} (kept : action.Keeps view) :
    action.FailsCleanly view := by
  intro before after error failed
  have same := kept before
  rwa [failed] at same

theorem Keeps.pure (value : α) : (pure value : Action ω α).Keeps view := fun _ => rfl

theorem Keeps.throw (error : Error) : (throw error : Action ω α).Keeps view := fun _ => rfl

theorem Keeps.ofResult (result : Result α) : (ofResult result).Keeps view := fun _ => rfl

theorem Keeps.get : (get : Action ω ω).Keeps view := fun _ => rfl

theorem Keeps.modify {change : ω → ω} (kept : ∀ state, view (change state) = view state) :
    (modify change : Action ω Unit).Keeps view := kept

theorem Keeps.bind {first : Action ω α} {next : α → Action ω β} (kept : first.Keeps view)
    (each : ∀ value, (next value).Keeps view) : (first >>= next).Keeps view := by
  intro state
  have same := kept state
  rcases done : first.apply state with ⟨error | value, middle⟩
  · rw [apply_bind_error done]
    rwa [done] at same
  · rw [apply_bind_ok done, each value middle]
    rwa [done] at same

theorem Keeps.attempt {action : Action ω α} (kept : action.Keeps view) : action.attempt.Keeps view :=
  fun state => kept state

/-- A sequence fails cleanly if its last step does and the steps before it change nothing. -/
theorem Keeps.bind_failsCleanly {first : Action ω α} {next : α → Action ω β} (kept : first.Keeps view)
    (each : ∀ before value after, first.apply before = (.ok value, after) →
      (next value).FailsCleanly view) :
    (first >>= next).FailsCleanly view := by
  intro before after error failed
  have same := kept before
  rcases done : first.apply before with ⟨reason | value, middle⟩
  · rw [apply_bind_error done] at failed
    obtain ⟨-, rfl⟩ := Prod.mk.inj failed
    rwa [done] at same
  · rw [apply_bind_ok done] at failed
    rw [each before value middle done middle after error failed]
    rwa [done] at same

/-- A step that cannot fail may follow. -/
theorem FailsCleanly.bind_pure {action : Action ω α} (clean : action.FailsCleanly view) (result : α → β) :
    (action >>= fun value => pure (result value)).FailsCleanly view := by
  intro before after error failed
  rcases done : action.apply before with ⟨reason | value, middle⟩
  · rw [apply_bind_error done] at failed
    obtain ⟨-, rfl⟩ := Prod.mk.inj failed
    exact clean before middle reason done
  · rw [apply_bind_ok done] at failed
    cases failed

/-- A failed action may be followed by another way to the result. -/
theorem FailsCleanly.recover {action : Action ω α} {next : Result α → Action ω β} {result : α → β}
    (clean : action.FailsCleanly view) (succeeds : ∀ value, next (.ok value) = pure (result value))
    (otherwise : ∀ error, (next (.error error)).FailsCleanly view) :
    (action.attempt >>= next).FailsCleanly view := by
  intro before after error failed
  rw [apply_bind_ok (apply_attempt action before)] at failed
  rcases done : action.apply before with ⟨reason | value, middle⟩
  · rw [done] at failed
    rw [otherwise reason middle after error failed, clean before middle reason done]
  · rw [done, succeeds] at failed
    cases failed

/-- An action on the second part of a state shows there what it shows alone. -/
theorem Keeps.onSecond {γ : Type} {action : Action ω α} (kept : action.Keeps view) :
    (action.onSecond : Action (γ × ω) α).Keeps (view ∘ Prod.snd) :=
  fun state => kept state.2

theorem FailsCleanly.onSecond {γ : Type} {action : Action ω α} (clean : action.FailsCleanly view) :
    (action.onSecond : Action (γ × ω) α).FailsCleanly (view ∘ Prod.snd) := by
  intro before after error failed
  rw [apply_onSecond] at failed
  obtain ⟨reason, rfl⟩ := Prod.mk.inj failed
  exact clean before.2 _ error (Prod.ext reason rfl)

end NeuralDevice.Action
