/-!
Watching an endpoint for its death. Whoever waits for the endpoint registers; a death tells everybody who is
registered and still there, once, and whoever registers later is told at once.
-/

namespace NeuralDevice

/-- The watch on one endpoint, with the waiters of type `κ` that are registered. -/
structure Monitor (κ : Type) where
  hasDied : Bool
  nextNumber : Nat
  pending : List (Nat × κ)
  deriving Repr

namespace Monitor

variable {κ : Type}

def new : Monitor κ := ⟨false, 0, []⟩

instance : Inhabited (Monitor κ) := ⟨new⟩

/-- Registers a waiter. There is no registration when the endpoint is dead: the waiter is to be told. -/
def protect (monitor : Monitor κ) (waiter : κ) : Option Nat × Monitor κ :=
  if monitor.hasDied then (none, monitor)
  else
    (some monitor.nextNumber,
      { monitor with
        nextNumber := monitor.nextNumber + 1
        pending := monitor.pending ++ [(monitor.nextNumber, waiter)] })

def drop (monitor : Monitor κ) (registration : Option Nat) : Monitor κ :=
  match registration with
  | none => monitor
  | some number =>
    { monitor with pending := monitor.pending.filter fun (other, _) => other != number }

/-- The endpoint died: the waiters to be told, and the monitor that waits no more. -/
def serviceDied (monitor : Monitor κ) (isThere : κ → Bool) : List κ × Monitor κ :=
  ((monitor.pending.map (·.2)).filter isThere, { monitor with hasDied := true, pending := [] })

end Monitor

end NeuralDevice
