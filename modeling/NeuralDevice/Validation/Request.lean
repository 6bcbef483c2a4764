import NeuralDevice.Graph.Request
import NeuralDevice.Validation.Basic

/-! Rules for requests. -/

namespace NeuralDevice

inductive RequestFault where
  | zeroToken
  | strayPointer (what : String)
  | missingPool (what : String) (pool : UInt32) (count : Nat)
  | strayValue (what : String)
  | missingPointer (what : String)
  | shortBuffer (what : String) (length : UInt32) (size : UInt64)
  deriving DecidableEq, Repr

def RequestFault.error : RequestFault → Error
  | .zeroToken => .invalidArgument "Request memory domain token must not be zero"
  | .strayPointer what => .invalidArgument s!"{what} with lifetime POOL must not carry a host pointer"
  | .missingPool what pool count =>
    .invalidArgument s!"{what} references pool {pool} but the request has {count} pools"
  | .strayValue what =>
    .invalidArgument s!"{what} without a value must have no location or dimensions"
  | .missingPointer what => .invalidArgument s!"{what} has lifetime POINTER but no host pointer"
  | .shortBuffer what length size =>
    .invalidArgument s!"{what} length {length} exceeds its host buffer of {size} bytes"

/-- An argument's region lies inside its pool or host buffer; one without a value has no region. -/
def Argument.check (argument : Argument) (pools : List MemoryPool) (what : String) : Result Unit :=
  let location := argument.location
  match argument.lifetime with
  | .pool =>
    if location.pointer.isSome then throw (RequestFault.strayPointer what).error
    else
      match pools[location.poolIndex.toNat]? with
      | some (.memory memory) => checkRange location.offset location.length memory.size.toNat what
      | some (.token _) => pure ()
      | none => throw (RequestFault.missingPool what location.poolIndex pools.length).error
  | .noValue =>
    if !location.isEmpty || !argument.dimensions.isEmpty then
      throw (RequestFault.strayValue what).error
    else pure ()
  | .pointer =>
    match location.pointer with
    | none => throw (RequestFault.missingPointer what).error
    | some pointer =>
      if pointer.size.toNat < location.length.toNat then
        throw (RequestFault.shortBuffer what location.length pointer.size).error
      else pure ()

/-- A token is not zero; tokens came with 1.3. -/
def MemoryPool.check : MemoryPool → Result Version
  | .memory _ => pure .v1_0
  | .token number => if number = 0 then throw RequestFault.zeroToken.error else pure .v1_3

/-- All arguments of one kind, numbered in messages. -/
def checkArguments (pools : List MemoryPool) (kind : String) (arguments : List Argument) :
    Result Unit :=
  arguments.zipIdx.forM fun (argument, index) => argument.check pools s!"{kind} {index}"

instance : Validate Request where
  validate request := do
    let version ← newestVersion MemoryPool.check .v1_0 request.pools
    checkArguments request.pools "Input" request.inputs
    checkArguments request.pools "Output" request.outputs
    pure version

end NeuralDevice
