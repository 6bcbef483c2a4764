import NeuralDevice.Conversion.Shared
import NeuralDevice.Wire.Aidl

/-! Conversions of the AIDL version. -/

namespace NeuralDevice.Wire.Aidl

/-- Marks an absent deadline, bound or measurement. -/
def noValue : Int64 := -1

/-- Nanoseconds since the epoch. -/
def deadlineToWire (deadline : Option TimePoint) : Result Int64 :=
  match deadline with
  | none => pure noValue
  | some deadline =>
    if deadline.sinceEpoch < 0 then throw ConversionFault.earlyDeadline.error
    else narrow "deadline" deadline.sinceEpoch

/-- Nanoseconds. -/
def durationToWire (duration : Option Duration) : Result Int64 :=
  match duration with
  | none => pure noValue
  | some duration => narrow "duration" duration.nanoseconds

def durationToCanonical (nanoseconds : Int64) (what : String) : Result (Option Duration) :=
  if nanoseconds = noValue then pure none
  else if nanoseconds.toInt < 0 then throw (ConversionFault.negativeSpan what nanoseconds).error
  else pure (some (.ofNanoseconds nanoseconds.toInt.toNat))

def timingToCanonical (timing : Timing) : Result NeuralDevice.Timing := do
  let timeOnDevice ← durationToCanonical timing.timeOnDevice "timeOnDevice"
  let timeInDriver ← durationToCanonical timing.timeInDriver "timeInDriver"
  pure ⟨timeOnDevice, timeInDriver⟩

def timingToWire (timing : NeuralDevice.Timing) : Result Timing := do
  let timeOnDevice ← durationToWire timing.timeOnDevice
  let timeInDriver ← durationToWire timing.timeInDriver
  pure ⟨timeOnDevice, timeInDriver⟩

/-- Missing figures stand for none. -/
def performanceToCanonical (performance : OperandPerformance) :
    Result NeuralDevice.OperandPerformance := do
  let type ← Coded.ofWire .aidl performance.type
  pure ⟨type, performance.info.getD .none⟩

def Capabilities.toCanonical (capabilities : Capabilities) : Result NeuralDevice.Capabilities := do
  let table ← PerformanceTable.ofWire performanceToCanonical capabilities.operandPerformance
  pure
    ⟨capabilities.relaxedScalar.getD .none, capabilities.relaxedTensor.getD .none, table,
      capabilities.ifPerformance.getD .none, capabilities.whilePerformance.getD .none⟩

def Capabilities.ofCanonical (capabilities : NeuralDevice.Capabilities) : Result Capabilities := do
  let table ← capabilities.operandPerformance.toWire .aidl
  pure
    ⟨some capabilities.relaxedScalar, some capabilities.relaxedTensor, table,
      some capabilities.ifPerformance, some capabilities.whilePerformance⟩

def Operand.toCanonical (operand : Operand) : Result NeuralDevice.Operand := do
  let type ← Coded.ofWire .aidl operand.type
  let dimensions ← rewidthAll "operand dimension" operand.dimensions
  let lifetime ← WireEnum.ofWire .aidl operand.lifetime
  let location ← Location.optionalToCanonical operand.location
  let extraParams ← ExtraParams.toCanonical operand.extraParams
  pure ⟨type, dimensions, operand.scale, operand.zeroPoint, lifetime, location, extraParams⟩

def Operand.ofCanonical (operand : NeuralDevice.Operand) : Result Operand := do
  let type ← operand.type.toWire .aidl
  let dimensions ← rewidthAll "operand dimension" operand.dimensions
  let lifetime ← WireEnum.toWire .aidl operand.lifetime
  let location ← operand.location.toWire
  let extraParams ← operand.extraParams.toWire
  pure ⟨type, dimensions, operand.scale, operand.zeroPoint, lifetime, some location, extraParams⟩

def Subgraph.toCanonical (subgraph : Subgraph) : Result NeuralDevice.Subgraph := do
  let operands ← subgraph.operands.mapM Operand.toCanonical
  let operations ← subgraph.operations.mapM (Operation.toCanonical .aidl)
  let inputIndexes ← rewidthAll "subgraph input index" subgraph.inputIndexes
  let outputIndexes ← rewidthAll "subgraph output index" subgraph.outputIndexes
  pure ⟨operands, operations, inputIndexes, outputIndexes⟩

def Subgraph.ofCanonical (subgraph : NeuralDevice.Subgraph) : Result Subgraph := do
  let operands ← subgraph.operands.mapM Operand.ofCanonical
  let operations ← subgraph.operations.mapM (Operation.toWire .aidl)
  let inputIndexes ← rewidthAll "subgraph input index" subgraph.inputIndexes
  let outputIndexes ← rewidthAll "subgraph output index" subgraph.outputIndexes
  pure ⟨operands, operations, inputIndexes, outputIndexes⟩

def Model.toCanonical (store : FileStore) (model : Model) : Result NeuralDevice.Model := do
  let main ← required model.main "main subgraph"
  let main ← main.toCanonical
  let referenced ← model.referenced.mapM Subgraph.toCanonical
  let pools ← model.pools.mapM (Memory.toCanonical store)
  let vendors ← model.vendors.mapM VendorEntry.toCanonical
  pure ⟨main, referenced, model.operandValues, pools, model.relaxFloat32, vendors⟩

def Model.ofCanonical (model : NeuralDevice.Model) : Result Model := do
  if !model.hasNoPointerData then throw ConversionFault.pointerModel.error
  let main ← Subgraph.ofCanonical model.main
  let referenced ← model.referenced.mapM Subgraph.ofCanonical
  let pools ← model.pools.mapM Memory.toWire
  let vendors ← model.vendors.mapM VendorEntry.toWire
  pure ⟨some main, referenced, model.operandValues, pools, model.relaxFloat32, vendors⟩

def Pool.toCanonical (store : FileStore) (pool : Pool) : Result MemoryPool := do
  let content ← required pool.content "request memory pool"
  match content with
  | .inl memory => do
    let memory ← memory.toCanonical store
    pure (.memory memory)
  | .inr token => do
    let token ← rewidth "memory token" token
    pure (.token token)

def Pool.ofCanonical (pool : MemoryPool) : Result Pool :=
  match pool with
  | .memory memory => do
    let memory ← memory.toWire
    pure ⟨some (.inl memory)⟩
  | .token token => do
    let token ← rewidth "memory token" token
    pure ⟨some (.inr token)⟩

def requestToCanonical (store : FileStore) (request : Request) : Result NeuralDevice.Request :=
  request.toCanonical (Pool.toCanonical store)

def requestToWire (request : NeuralDevice.Request) : Result Request := do
  if !request.hasNoPointerData then throw ConversionFault.pointerRequest.error
  let inputs ← request.inputs.mapM Argument.toWire
  let outputs ← request.outputs.mapM Argument.toWire
  let pools ← request.pools.mapM Pool.ofCanonical
  pure ⟨inputs, outputs, pools⟩

end NeuralDevice.Wire.Aidl
