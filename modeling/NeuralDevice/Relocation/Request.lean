import NeuralDevice.Graph.Request
import NeuralDevice.Relocation.Builder

/-!
Moving the arguments of a request out of host memory before it is sent, and the results back afterwards.
Inputs are copied into a new pool; outputs get regions of another new pool. Results are all read before the
first of them is written to host memory.
-/

namespace NeuralDevice

/-- Why a request cannot be relocated or its results not be moved back. -/
inductive RelocationFault where
  | readOnlyOutput
  | outputCount (given relocated : Nat)
  | lifetime (output : Nat) (lifetime : ArgumentLifetime)
  | length (output : Nat) (relocated given : UInt32)
  | pool (output : Nat) (pool : UInt32) (last : Nat)
  deriving DecidableEq, Repr

def RelocationFault.error : RelocationFault → Error
  | .readOnlyOutput => .invalidArgument "output argument must reference writable memory"
  | .outputCount given relocated =>
    .internalConsistency
      s!"original request has {given} outputs but the flattened request has {relocated}"
  | .lifetime output found =>
    let name := Named.name found
    .internalConsistency s!"relocated output {output} has lifetime {name} instead of POOL"
  | .length output relocated given =>
    .internalConsistency
      s!"relocated output {output} has length {relocated} but the original has {given}"
  | .pool output found last =>
    .internalConsistency
      s!"relocated output {output} lives in pool {found} instead of output pool {last}"

/-- The input with its bytes copied out of host memory. -/
def Argument.relocateInput (host : HostMemory) (argument : Argument) :
    StateT ConstantBuilder (Except Error) Argument := fun builder =>
  match argument.location.pointer with
  | none => pure (argument, builder)
  | some pointer => do
    let data ← pointer.read host argument.location.length.toNat
    let (location, builder) ← builder.append data
    pure ({ argument with lifetime := .pool, location }, builder)

/-- The output with a region of its own; the host memory must be able to take the result. -/
def Argument.relocateOutput (argument : Argument) :
    StateT OutputBuilder (Except Error) Argument := fun builder =>
  match argument.location.pointer with
  | none => pure (argument, builder)
  | some pointer => do
    if !pointer.isWritable then throw RelocationFault.readOnlyOutput.error
    pointer.checkLength argument.location.length.toNat
    let (location, builder) ← builder.append argument.location.length
    pure ({ argument with lifetime := .pool, location }, builder)

/-- The pools with the constants appended, if there are any. -/
def ConstantBuilder.appendTo (builder : ConstantBuilder) (pools : List MemoryPool) (store : FileStore) :
    Result (List MemoryPool × FileStore) := do
  if builder.isEmpty then return (pools, store)
  let (memory, store) ← builder.finish store
  pure (pools ++ [.memory memory], store)

/-- The pools with the reserved regions appended, if there are any. -/
def OutputBuilder.appendTo (builder : OutputBuilder) (pools : List MemoryPool) (store : FileStore) :
    Result (List MemoryPool × FileStore) := do
  if builder.isEmpty then return (pools, store)
  let (memory, store) ← builder.finish store
  pure (pools ++ [.memory memory], store)

namespace Request

/-- The request with all arguments outside host memory, and the files with the new pools. -/
def relocate (host : HostMemory) (store : FileStore) (request : Request) :
    Result (Request × FileStore) := do
  if request.hasNoPointerData then return (request, store)
  let inputPool ← nextPoolIndex request.pools.length
  let (inputs, constants) ← (request.inputs.mapM (Argument.relocateInput host)).run (.new inputPool)
  let (pools, store) ← constants.appendTo request.pools store
  let outputPool ← nextPoolIndex pools.length
  let (outputs, regions) ← (request.outputs.mapM Argument.relocateOutput).run (.new outputPool)
  let (pools, store) ← regions.appendTo pools store
  pure (⟨inputs, outputs, pools⟩, store)

/-- The result of one output and where it belongs; nothing for an output outside host memory. -/
def outputResult (memory : Memory) (last : Nat) (store : FileStore) (output : Nat)
    (given relocated : Argument) : Result (Option (HostPointer × List UInt8)) :=
  match given.location.pointer with
  | none => pure none
  | some pointer => do
    let location := relocated.location
    if relocated.lifetime ≠ .pool then
      throw (RelocationFault.lifetime output relocated.lifetime).error
    if location.length ≠ given.location.length then
      throw (RelocationFault.length output location.length given.location.length).error
    if location.poolIndex.toNat ≠ last then
      throw (RelocationFault.pool output location.poolIndex last).error
    let data ← memory.read store location.offset.toNat location.length.toNat
    pure (some (pointer, data))

/-- The results of all outputs in host memory, read from the last pool of the relocated request. -/
def results (request relocated : Request) (store : FileStore) :
    Result (List (HostPointer × List UInt8)) :=
  match relocated.pools.getLast? with
  | some (.memory memory) => do
    if request.outputs.length ≠ relocated.outputs.length then
      throw (RelocationFault.outputCount request.outputs.length relocated.outputs.length).error
    let results ← (request.outputs.zip relocated.outputs).zipIdx.mapM
      fun ((given, moved), output) =>
        outputResult memory (relocated.pools.length - 1) store output given moved
    pure (results.filterMap id)
  | some (.token _) | none => pure []

end Request

/-- Writes results in order, up to the first that cannot be written. -/
def HostMemory.writeAll (host : HostMemory) :
    List (HostPointer × List UInt8) → Result Unit × HostMemory
  | [] => (.ok (), host)
  | (pointer, data) :: rest =>
    match pointer.write host data with
    | .ok host => writeAll host rest
    | .error error => (.error error, host)

def Request.restore (request relocated : Request) (store : FileStore) (host : HostMemory) :
    Result Unit × HostMemory :=
  match request.results relocated store with
  | .ok results => host.writeAll results
  | .error error => (.error error, host)

end NeuralDevice
