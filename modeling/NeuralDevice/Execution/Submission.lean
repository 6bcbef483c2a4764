import NeuralDevice.Action
import NeuralDevice.Time

/-!
Choosing between the synchronous and the asynchronous call. The synchronous one comes first if it is
preferred, and its answer is final unless the endpoint declined.
-/

namespace NeuralDevice

/-- How a synchronous attempt ended. -/
inductive SyncOutcome (α : Type) where
  /-- A final answer: success, or a failure that an asynchronous call would repeat. -/
  | completed (result : Result α)
  /-- The endpoint answered that it failed. -/
  | declined (error : Error)
  /-- The call itself failed. -/
  | transportFailed (error : Error)
  /-- The endpoint has no synchronous call. -/
  | unsupported

/-- The synchronous attempt if preferred, then the asynchronous one if the first was not final. -/
def submit (preferSynchronous : Bool) (synchronous : Action ω (SyncOutcome α))
    (asynchronous : Action ω α) : Action ω α := do
  if !preferSynchronous then return ← asynchronous
  match ← synchronous with
  | .completed result => Action.ofResult result
  | .transportFailed error => throw error
  | .declined _ | .unsupported => asynchronous

/-- The time until a deadline, or the fallback of a caller without one. -/
def remaining (deadline : Option TimePoint) (fallback : Option Duration) (now : TimePoint) :
    Option Duration :=
  match deadline with
  | some deadline => some (deadline.timeUntil now)
  | none => fallback

end NeuralDevice
