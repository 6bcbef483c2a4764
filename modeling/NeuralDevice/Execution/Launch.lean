import NeuralDevice.Conversion.Codes
import NeuralDevice.Execution.Completion
import NeuralDevice.Execution.Death
import NeuralDevice.Remote.Transport

/-!
Asynchronous executions. The first thing that happens decides the result: an earlier death of the endpoint, a
notification or a death during the launch. A launch that fails fails the execution whatever else happened.
-/

namespace NeuralDevice

/-- The error for a status that an endpoint reports as its own failure. -/
def failedWith (call : String) (status : ErrorStatus) : Error :=
  let name := Named.name status
  .ofStatus status s!"{call} failed with {name}"

def checkStatus (dialect : Dialect) (call : String) (code : Int32) : Result Unit :=
  match ErrorStatus.ofWire dialect code with
  | .none => pure ()
  | status => throw (failedWith call status)

/-- What an execution knows while it is launched: its result so far, and the watch on its endpoint. -/
structure Waiting where
  completion : Completion
  monitor : Monitor Nat

namespace Waiting

/-- Starts to wait. The waiter is known by the number its registration gets. -/
def start (monitor : Monitor Nat) : Option Nat × Waiting :=
  match monitor.protect monitor.nextNumber with
  | (none, monitor) => (none, ⟨Completion.empty.completeDead, monitor⟩)
  | (some number, monitor) => (some number, ⟨.empty, monitor⟩)

/-- Takes one event; `report` reads a notification. -/
def observe (report : η → Result ExecutionResult) (waiter : Nat) (waiting : Waiting) :
    LaunchEvent η → Waiting
  | .notified notification =>
    { waiting with completion := waiting.completion.complete (report notification) }
  | .died =>
    let (told, monitor) := waiting.monitor.serviceDied fun _ => true
    ⟨if told.contains waiter then waiting.completion.completeDead else waiting.completion, monitor⟩

end Waiting

/-- Watches the endpoint during a launch: what arrived, and the watch after it. -/
def Monitor.watch (monitor : Monitor Nat) (report : η → Result ExecutionResult)
    (events : List (LaunchEvent η)) : Completion × Monitor Nat :=
  let waiter := monitor.nextNumber
  let (registration, waiting) := Waiting.start monitor
  let waiting := events.foldl (Waiting.observe report waiter) waiting
  (waiting.completion, waiting.monitor.drop registration)

/-- The result of an execution from the end of its launch and what arrived. -/
def launchResult (dialect : Dialect) (call : String) (status : Except TransportError Int32)
    (completion : Completion) (timeout : Option Duration) : Result (Waited ExecutionResult) :=
  match status with
  | .error failure => throw failure.error
  | .ok code => do
    checkStatus dialect call code
    completion.wait timeout

end NeuralDevice
