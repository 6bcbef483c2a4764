import NeuralDevice.Action
import NeuralDevice.Conversion.Codes
import NeuralDevice.Execution.Fence
import NeuralDevice.Memory.Store

/-!
Calls to remote endpoints. An endpoint sees the shared files and fences and its own state, and nothing of the
caller's host memory.
-/

namespace NeuralDevice

/-- How a call can fail before the endpoint answers. -/
inductive TransportError where
  | dead
  | failed (status : Int32)
  | serviceSpecific (code : Int32)
  deriving DecidableEq, Repr

namespace TransportError

def text : TransportError → String
  | .dead => "remote endpoint is dead"
  | .failed status => s!"transaction failed with status {status}"
  | .serviceSpecific code => s!"service-specific error {code}"

/-- The error a caller gets; only a dead endpoint is reported as one. -/
def error : TransportError → Error
  | .dead => .deadObject "remote endpoint died during the call"
  | .failed status => .generalFailure s!"transport failure with status {status}"
  | .serviceSpecific code => .generalFailure s!"service-specific error {code}"

/-- As `error`, but the codes of a service are statuses. -/
def errorWithStatus : TransportError → Error
  | .serviceSpecific code =>
    .ofStatus (ErrorStatus.ofWire .aidl code)
      s!"remote call failed with service-specific error {code}"
  | .dead => error .dead
  | .failed status => error (.failed status)

end TransportError

/-- Number of a death monitor. An endpoint tells it when it dies. -/
abbrev Recipient := Nat

/-- What callers and endpoints share, and the state `σ` of the endpoints. -/
structure Shared (σ : Type) where
  files : FileStore
  fences : FenceTable
  /-- The recipients that were told of a death during calls so far. -/
  notices : List Recipient
  remote : σ

abbrev Call (σ α : Type) := ExceptT TransportError (StateM (Shared σ)) α

/-- Something that happens while an endpoint launches an execution. -/
inductive LaunchEvent (η : Type) where
  | notified (notification : η)
  | died
  deriving Repr

/-- The answer to a launch: what happened meanwhile, and the status or the failure of the call. -/
structure Launch (η : Type) where
  events : List (LaunchEvent η)
  status : Except TransportError Int32

end NeuralDevice
