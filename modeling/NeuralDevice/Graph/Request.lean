import NeuralDevice.Location
import NeuralDevice.Memory.Store
import NeuralDevice.Time

/-! Executions of a model: arguments, the pools they live in, and timing. -/

namespace NeuralDevice

inductive ArgumentLifetime where
  | pool
  | noValue
  | pointer
  deriving DecidableEq, Repr, Inhabited

instance : Named ArgumentLifetime where
  all := [.pool, .noValue, .pointer]
  name
    | .pool => "POOL"
    | .noValue => "NO_VALUE"
    | .pointer => "POINTER"

structure Argument where
  lifetime : ArgumentLifetime
  location : DataLocation
  dimensions : List UInt32
  deriving DecidableEq, Repr, Inhabited

namespace Argument

/-- An argument in a region of a request pool. -/
def ofPool (poolIndex offset length : UInt32) : Argument :=
  ⟨.pool, .inPool poolIndex offset length, []⟩

def ofPointer (pointer : HostPointer) : Result Argument := do
  let location ← DataLocation.ofPointer pointer
  pure ⟨.pointer, location, []⟩

def withoutValue : Argument := ⟨.noValue, .empty, []⟩

end Argument

/-- A memory of a request: shared memory, or a token for memory kept by the driver. -/
inductive MemoryPool where
  | memory (memory : Memory)
  | token (token : UInt32)
  deriving DecidableEq, Repr

structure Request where
  inputs : List Argument
  outputs : List Argument
  pools : List MemoryPool
  deriving DecidableEq, Repr, Inhabited

def Request.hasNoPointerData (request : Request) : Bool :=
  (request.inputs ++ request.outputs).all fun argument => argument.location.pointer.isNone

/-- How long an execution took; `none` means not measured. -/
structure Timing where
  timeOnDevice : Option Duration
  timeInDriver : Option Duration
  deriving DecidableEq, Repr, Inhabited

def Timing.notMeasured : Timing := ⟨none, none⟩

end NeuralDevice
