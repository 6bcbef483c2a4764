import NeuralDevice.Action

/-!
A handle on an endpoint that may die. It is bound to at most one endpoint, and a caller whose call found the
endpoint dead replaces that endpoint only: if somebody else has replaced it already, the new one is used.
-/

namespace NeuralDevice

/-- Endpoints told apart by a number. -/
class Identified (ε : Type) where
  identity : ε → Nat

instance : Identified Nat := ⟨id⟩

inductive Binding (ε : Type) where
  | unbound
  | bound (endpoint : ε)
  | dead
  deriving Repr, Inhabited

/-- A binding beside the state that factories and calls act on. -/
abbrev Held (ε ω : Type) := Binding ε × ω

/-- Makes an endpoint; the flag tells whether it may wait for the service to come up. -/
abbrev Factory (ε ω : Type) := Bool → Action ω ε

namespace Binding

def stateName : Binding ε → String
  | .unbound => "Unbound"
  | .bound _ => "Bound"
  | .dead => "Dead"

def current? : Binding ε → Option ε
  | .bound endpoint => some endpoint
  | .unbound | .dead => none

/-- Takes note that an endpoint is unreachable, if it is still the bound one. -/
def markDead [Identified ε] (binding : Binding ε) (failing : ε) : Binding ε :=
  match binding with
  | .bound current =>
    if Identified.identity current = Identified.identity failing then .dead else binding
  | .unbound | .dead => binding

end Binding

namespace Held

variable {ε ω α : Type}

/-- Binds a new endpoint. If there is none, nothing is bound any more. -/
def rebind (factory : Factory ε ω) (blocking : Bool) : Action (Held ε ω) ε :=
  Action.ofStep fun (_, state) =>
    match (factory blocking).apply state with
    | (.ok endpoint, state) => (.ok endpoint, (.bound endpoint, state))
    | (.error error, state) => (.error error, (.unbound, state))

def getOrCreate (factory : Factory ε ω) (blocking : Bool) : Action (Held ε ω) ε := do
  match (← get).1 with
  | .bound endpoint => pure endpoint
  | .unbound | .dead => rebind factory blocking

/-- Replaces an endpoint, unless another one is bound already. -/
def recover [Identified ε] (factory : Factory ε ω) (failing : ε) (blocking : Bool) :
    Action (Held ε ω) ε := do
  match (← get).1 with
  | .bound current =>
    if Identified.identity current = Identified.identity failing then rebind factory blocking
    else pure current
  | .unbound | .dead => rebind factory blocking

def markDead [Identified ε] (failing : ε) : Action (Held ε ω) Unit :=
  modify fun (binding, state) => (binding.markDead failing, state)

/-- The second and last attempt of a call. -/
def retry [Identified ε] (recovered : ε) (call : ε → Action ω α) : Action (Held ε ω) α := do
  match ← (Action.onSecond (call recovered)).attempt with
  | .ok value => pure value
  | .error error => do
    if error.isDeadObject then markDead recovered
    throw error

/-- Runs a call; if it finds its endpoint dead, runs it once more on a recovered one. -/
def protect [Identified ε] (factory : Factory ε ω) (blocking : Bool) (call : ε → Action ω α) :
    Action (Held ε ω) α := do
  let endpoint ← getOrCreate factory blocking
  match ← (Action.onSecond (call endpoint)).attempt with
  | .ok value => pure value
  | .error error => do
    if !error.isDeadObject then throw error
    let recovered ← recover factory endpoint blocking
    retry recovered call

/-- As `protect`, for callers who wait for the service to come up. -/
def protectWaiting [Identified ε] (factory : Factory ε ω) (call : ε → Action ω α) :
    Action (Held ε ω) α :=
  protect factory true call

end Held

/-- A new handle, bound at once. -/
def Binding.create (factory : Factory ε ω) (blocking : Bool) : Action ω (Binding ε) :=
  Action.ofStep fun state =>
    match (Held.getOrCreate factory blocking).apply (.unbound, state) with
    | (.ok _, (binding, state)) => (.ok binding, state)
    | (.error error, (_, state)) => (.error error, state)

end NeuralDevice
