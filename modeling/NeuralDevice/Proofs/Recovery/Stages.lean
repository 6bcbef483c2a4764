import NeuralDevice.Proofs.Action
import NeuralDevice.Recovery.Binding

/-!
The steps of a protected call. Each step is one operation on the handle or one call of an endpoint, so whatever
else happens to the handle happens between steps. Taken without a break, the steps are the protected call.
-/

namespace NeuralDevice

open NeuralDevice.Action

/-- How far a protected call has come. -/
inductive Stage (ε α : Type) where
  | entering
  | calling (endpoint : ε)
  | recovering (failing : ε)
  | retrying (recovered : ε)
  | marking (failing : ε) (error : Error)
  | finished (result : Result α)

namespace Held

variable {ε ω : Type} {factory : Factory ε ω} {blocking : Bool} {state : ω}

/-- What making an endpoint leaves a handle bound to. -/
def bindingOf : Result ε → Binding ε
  | .ok endpoint => .bound endpoint
  | .error _ => .unbound

theorem apply_rebind (binding : Binding ε) :
    (rebind factory blocking).apply (binding, state) =
      (((factory blocking).apply state).1,
        (bindingOf ((factory blocking).apply state).1, ((factory blocking).apply state).2)) := by
  rw [rebind, apply_ofStep]
  rcases made : (factory blocking).apply state with ⟨error | endpoint, later⟩ <;> simp only [made, bindingOf]

theorem apply_getOrCreate_of_none {binding : Binding ε} (free : binding.current? = none) :
    (getOrCreate factory blocking).apply (binding, state) =
      (rebind factory blocking).apply (binding, state) := by
  cases binding with
  | bound endpoint => cases free
  | unbound | dead => rfl

variable [Identified ε]

theorem apply_recover_of_other {current failing : ε}
    (other : Identified.identity current ≠ Identified.identity failing) :
    (recover factory failing blocking).apply (.bound current, state) =
      (.ok current, (.bound current, state)) := by
  simp only [recover, apply_bind_ok (apply_get (_ : Held ε ω)), if_neg other]
  rfl

theorem apply_recover_of_same {binding : Binding ε} {failing : ε}
    (same : ∀ current, binding = .bound current →
      Identified.identity current = Identified.identity failing) :
    (recover factory failing blocking).apply (binding, state) =
      (rebind factory blocking).apply (binding, state) := by
  simp only [recover, apply_bind_ok (apply_get (_ : Held ε ω))]
  cases binding with
  | bound current => simp only [if_pos (same current rfl)]
  | unbound | dead => rfl

end Held

namespace Stage

variable {ε ω α : Type} [Identified ε]

/-- The stage after a call of `endpoint`: an endpoint found dead leads on to `otherwise`. -/
def afterCall (otherwise : Error → Stage ε α) : Result α → Stage ε α
  | .ok value => .finished (.ok value)
  | .error error => if error.isDeadObject then otherwise error else .finished (.error error)

/-- The stage after the handle gave an endpoint or none. -/
def afterBinding (next : ε → Stage ε α) : Result ε → Stage ε α
  | .ok endpoint => next endpoint
  | .error error => .finished (.error error)

/-- The next step of a protected call. -/
def advance (factory : Factory ε ω) (blocking : Bool) (call : ε → Action ω α) :
    Stage ε α × Held ε ω → Stage ε α × Held ε ω
  | (.entering, held) =>
    let (endpoint, held) := (Held.getOrCreate factory blocking).apply held
    (afterBinding .calling endpoint, held)
  | (.calling endpoint, held) =>
    let (reply, held) := (Action.onSecond (call endpoint)).apply held
    (afterCall (fun _ => .recovering endpoint) reply, held)
  | (.recovering failing, held) =>
    let (endpoint, held) := (Held.recover factory failing blocking).apply held
    (afterBinding .retrying endpoint, held)
  | (.retrying recovered, held) =>
    let (reply, held) := (Action.onSecond (call recovered)).apply held
    (afterCall (.marking recovered) reply, held)
  | (.marking failing error, held) =>
    (.finished (.error error), ((Held.markDead failing).apply held).2)
  | (.finished result, held) => (.finished result, held)

/-- A number of steps without a break. -/
def advanceBy (factory : Factory ε ω) (blocking : Bool) (call : ε → Action ω α) :
    Nat → Stage ε α × Held ε ω → Stage ε α × Held ε ω
  | 0, point => point
  | steps + 1, point => advanceBy factory blocking call steps (advance factory blocking call point)

/-- The end of a protected call that did what an action does. -/
def endOf (action : Action (Held ε ω) α) (held : Held ε ω) : Stage ε α × Held ε ω :=
  (.finished (action.apply held).1, (action.apply held).2)

variable {factory : Factory ε ω} {blocking : Bool} {call : ε → Action ω α}

theorem advanceBy_finished (steps : Nat) (result : Result α) (held : Held ε ω) :
    advanceBy factory blocking call steps (.finished result, held) = (.finished result, held) := by
  induction steps with
  | zero => rfl
  | succ steps ih => exact ih

private theorem advanceBy_retrying (recovered : ε) (held : Held ε ω) :
    advanceBy factory blocking call 2 (.retrying recovered, held) =
      endOf (Held.retry recovered call) held := by
  rw [endOf, Held.retry, apply_bind_ok (apply_attempt _ held)]
  rcases replied : (Action.onSecond (call recovered)).apply held with ⟨error | value, later⟩
  · by_cases dead : error.isDeadObject = true
    · simp only [advanceBy, advance, replied, afterCall, dead, if_true]
      rfl
    · simp only [advanceBy, advance, replied, afterCall, dead, Bool.false_eq_true, if_false]
      rfl
  · simp only [advanceBy, advance, replied, afterCall]
    rfl

private theorem advanceBy_recovering (failing : ε) (held : Held ε ω) :
    advanceBy factory blocking call 3 (.recovering failing, held) =
      endOf (do
        let recovered ← Held.recover factory failing blocking
        Held.retry recovered call) held := by
  rcases found : (Held.recover factory failing blocking).apply held with ⟨error | recovered, later⟩
  · rw [endOf, apply_bind_error found, advanceBy]
    simp only [advance, found, afterBinding]
    exact advanceBy_finished 2 _ _
  · rw [endOf, apply_bind_ok found, advanceBy]
    simp only [advance, found, afterBinding]
    exact advanceBy_retrying recovered later

theorem advanceBy_entering (held : Held ε ω) :
    advanceBy factory blocking call 5 (.entering, held) =
      endOf (Held.protect factory blocking call) held := by
  rcases entered : (Held.getOrCreate factory blocking).apply held with ⟨error | endpoint, middle⟩
  · rw [endOf, Held.protect, apply_bind_error entered, advanceBy]
    simp only [advance, entered, afterBinding]
    exact advanceBy_finished 4 _ _
  · rw [endOf, Held.protect, apply_bind_ok entered, apply_bind_ok (apply_attempt _ middle), advanceBy,
      advanceBy]
    simp only [advance, entered, afterBinding]
    rcases replied : (Action.onSecond (call endpoint)).apply middle with ⟨error | value, later⟩
    · by_cases dead : error.isDeadObject = true
      · simp only [afterCall, dead, if_true]
        exact advanceBy_recovering endpoint later
      · simp only [afterCall, dead, Bool.false_eq_true, if_false]
        exact advanceBy_finished 3 _ _
    · simp only [afterCall]
      exact advanceBy_finished 3 _ _

end Stage

end NeuralDevice
