import NeuralDevice.Execution.Wait
import NeuralDevice.Time

/-!
Fences that tell when an execution finished. A fence fires at most once, and every handle on it sees the same
state.
-/

namespace NeuralDevice

inductive FenceState where
  | active
  | signaled
  | error
  deriving DecidableEq, Repr, Inhabited

def FenceState.name : FenceState → String
  | .active => "Active"
  | .signaled => "Signaled"
  | .error => "Error"

/-- A handle on a fence; a copy of a handle is the same handle. -/
structure Fence where
  number : Nat
  deriving DecidableEq, Repr, Inhabited

def Fence.sameAs (fence other : Fence) : Bool := fence == other

/-- The states of all fences, by number. -/
structure FenceTable where
  states : List FenceState
  deriving DecidableEq, Repr, Inhabited

namespace FenceTable

def empty : FenceTable := ⟨[]⟩

def create (table : FenceTable) (state : FenceState) : Fence × FenceTable :=
  (⟨table.states.length⟩, ⟨table.states ++ [state]⟩)

def state (table : FenceTable) (fence : Fence) : FenceState :=
  (table.states[fence.number]?).getD .active

/-- Lets a fence fire; one that fired before keeps its state. -/
def fire (table : FenceTable) (fence : Fence) (next : FenceState) : FenceTable :=
  if table.state fence = .active then ⟨table.states.set fence.number next⟩ else table

def signal (table : FenceTable) (fence : Fence) : FenceTable := table.fire fence .signaled

def signalError (table : FenceTable) (fence : Fence) : FenceTable := table.fire fence .error

/-- What a wait observes last. Nothing else runs meanwhile, so it is the state at its start; without a bound, the
wait for a fence that has not fired lasts forever. -/
def wait (table : FenceTable) (fence : Fence) (timeout : Option Duration) : Waited FenceState :=
  match table.state fence, timeout with
  | .active, none => .never
  | state, _ => .ended state

theorem wait_some (table : FenceTable) (fence : Fence) (timeout : Duration) :
    table.wait fence (some timeout) = .ended (table.state fence) := by
  unfold wait
  cases table.state fence <;> rfl

theorem wait_eq_ended_iff {table : FenceTable} {fence : Fence} {timeout : Option Duration} {seen : FenceState} :
    table.wait fence timeout = .ended seen ↔ table.state fence = seen ∧ (timeout = none → seen ≠ .active) := by
  unfold wait
  cases table.state fence <;> cases timeout <;> cases seen <;> simp

def text (table : FenceTable) (fence : Fence) : String :=
  let name := (table.state fence).name
  s!"SyncFence \x7b state: Some({name}) \x7d"

end FenceTable

end NeuralDevice
