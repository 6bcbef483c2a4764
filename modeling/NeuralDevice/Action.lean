import NeuralDevice.Error

/-! Computations that change a state and may fail. What was changed before a failure stays changed. -/

namespace NeuralDevice

/-- Takes a state to a result and a later state. -/
abbrev Action (ω α : Type) := ExceptT Error (StateM ω) α

namespace Action

/-- A result that leaves the state alone. -/
def ofResult (result : Result α) : Action ω α := ExceptT.mk (pure result)

def apply (action : Action ω α) (state : ω) : Result α × ω := (ExceptT.run action).run state

def ofStep (step : ω → Result α × ω) : Action ω α := ExceptT.mk fun state => step state

/-- The outcome of an action as a value, so that a failure does not end what follows. -/
def attempt (action : Action ω α) : Action ω (Result α) :=
  ofStep fun state =>
    let (result, state) := action.apply state
    (.ok result, state)

/-- An action on the second part of a state. -/
def onSecond (action : Action ω α) : Action (β × ω) α :=
  ofStep fun (first, state) =>
    let (result, state) := action.apply state
    (result, (first, state))

end Action

end NeuralDevice
