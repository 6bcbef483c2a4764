import NeuralDevice.Form.Value
import NeuralDevice.Recovery.Binding

/-! Numbered endpoints that fail as foretold, for trying out handles on endpoints. -/

namespace NeuralDevice.Simulation

structure Endpoints where
  /-- Why the coming attempts to make an endpoint fail; `none` for one that does not fail. -/
  failures : List (Option Error)
  /-- The results of the coming calls. -/
  results : List (Result Json)
  made : Nat
  /-- Whether the attempts to make an endpoint were allowed to wait. -/
  waits : List Bool
  calls : List Json

namespace Endpoints

def ofFailures (failures : List (Option Error)) : Endpoints := ⟨failures, [], 0, [], []⟩

/-- Endpoints are numbered as they are made. Attempts that nothing is foretold of succeed. -/
def factory : Factory Nat Endpoints := fun mayWait =>
  Action.ofStep fun endpoints =>
    let next := { endpoints with
      failures := endpoints.failures.tail
      waits := endpoints.waits ++ [mayWait] }
    match endpoints.failures.head?.join with
    | some error => (.error error, next)
    | none => (.ok endpoints.made, { next with made := endpoints.made + 1 })

/-- A call of an endpoint. Calls that nothing is foretold of give nothing. -/
def call (note : Nat → Json) (endpoint : Nat) : Action Endpoints Json :=
  Action.ofStep fun endpoints =>
    (endpoints.results.headD (.ok .null),
      { endpoints with
        results := endpoints.results.tail
        calls := endpoints.calls ++ [note endpoint] })

def clear (endpoints : Endpoints) : Endpoints := { endpoints with waits := [], calls := [] }

end Endpoints

end NeuralDevice.Simulation
