import NeuralDevice.Conversion.Shared
import NeuralDevice.Wire.Hal

/-! Conversions of versions 1.0 and 1.2. -/

namespace NeuralDevice

/-- Received consumer counts must be those of the operations. -/
def checkConsumers (expected found : List UInt32) : Result Unit := do
  if found.length ≠ expected.length then
    throw (ConversionFault.consumerCounts found.length expected.length).error
  (expected.zip found).zipIdx.forM fun ((expected, found), operand) =>
    if expected = found then pure ()
    else throw (ConversionFault.consumerCount operand expected found).error

/-- A span in microseconds; the largest number marks one that was not measured. -/
def Wire.Hal.notMeasured : UInt64 := 0xffffffffffffffff

def Wire.Hal.spanToCanonical (microseconds : UInt64) : Option Duration :=
  if microseconds = Wire.Hal.notMeasured then none else some (.ofMicroseconds microseconds.toNat)

/-- Whole microseconds below the mark of an unmeasured span. -/
def Wire.Hal.spanToWire (span : Option Duration) : Result UInt64 :=
  match span with
  | none => pure Wire.Hal.notMeasured
  | some span =>
    if span.microseconds < Wire.Hal.notMeasured.toNat then pure (UInt64.ofNat span.microseconds)
    else throw (ConversionFault.unrepresentableSpan span).error

def Wire.Hal.timingToCanonical (timing : Wire.Hal.Timing) : Result NeuralDevice.Timing :=
  pure ⟨Wire.Hal.spanToCanonical timing.timeOnDevice, Wire.Hal.spanToCanonical timing.timeInDriver⟩

def Wire.Hal.timingToWire (timing : NeuralDevice.Timing) : Result Wire.Hal.Timing := do
  let timeOnDevice ← Wire.Hal.spanToWire timing.timeOnDevice
  let timeInDriver ← Wire.Hal.spanToWire timing.timeInDriver
  pure ⟨timeOnDevice, timeInDriver⟩

def Wire.Hal.poolToCanonical (store : FileStore) (memory : Wire.Hal.Memory) : Result MemoryPool := do
  let memory ← memory.toCanonical store
  pure (.memory memory)

def Wire.Hal.requestToCanonical (store : FileStore) (request : Wire.Hal.Request) :
    Result NeuralDevice.Request :=
  request.toCanonical (Wire.Hal.poolToCanonical store)

/-- Tokens cannot be sent before 1.3. -/
def Wire.Hal.poolToWire : MemoryPool → Result Wire.Hal.Memory
  | .memory memory => memory.toWire
  | .token token =>
    throw (ConversionFault.unrepresentable "memory domain token" (toString token) .v1_0).error

def Wire.Hal.requestToWire (request : NeuralDevice.Request) : Result Wire.Hal.Request := do
  if !request.hasNoPointerData then throw ConversionFault.pointerRequest.error
  let pools ← request.pools.mapM Wire.Hal.poolToWire
  let inputs ← request.inputs.mapM Argument.toWire
  let outputs ← request.outputs.mapM Argument.toWire
  pure ⟨inputs, outputs, pools⟩

namespace Wire.Hal.V1_0

def Capabilities.toCanonical (capabilities : Capabilities) : Result NeuralDevice.Capabilities := do
  let float32 ← required capabilities.float32 "float32Performance"
  let quantized8 ← required capabilities.quantized8 "quantized8Performance"
  pure ⟨float32, float32, .ofTwoFigures float32 quantized8, .none, .none⟩

/-- Only the figures of float and of quantized tensors are kept. -/
def Capabilities.ofCanonical (capabilities : NeuralDevice.Capabilities) : Result Capabilities :=
  let table := capabilities.operandPerformance
  pure ⟨table.lookup (.builtin .tensorFloat32), table.lookup (.builtin .tensorQuant8Asymm)⟩

def Operand.toCanonical (operand : Operand) : Result NeuralDevice.Operand := do
  let type ← Coded.ofWire .v1_0 operand.type
  let lifetime ← WireEnum.ofWire .v1_0 operand.lifetime
  let location ← Wire.Location.optionalToCanonical operand.location
  pure ⟨type, operand.dimensions, operand.scale, operand.zeroPoint, lifetime, location, .none⟩

/-- The operand with the number of operations that consume it still to be filled in. -/
def Operand.ofCanonical (operand : NeuralDevice.Operand) : Result Operand := do
  if operand.extraParams ≠ .none then
    throw (ConversionFault.unrepresentable "Operand extra params of type" operand.type.name .v1_0).error
  let type ← operand.type.toWire .v1_0
  let lifetime ← WireEnum.toWire .v1_0 operand.lifetime
  let location ← operand.location.toWire
  pure ⟨type, operand.dimensions, 0, operand.scale, operand.zeroPoint, lifetime, some location⟩

def Model.toCanonical (store : FileStore) (model : Model) : Result NeuralDevice.Model := do
  let operations ← model.operations.mapM (Wire.Operation.toCanonical .v1_0)
  let expected ← countConsumers model.operands.length operations
  checkConsumers expected (model.operands.map (·.consumers))
  let operands ← model.operands.mapM Operand.toCanonical
  let pools ← model.pools.mapM (Wire.Memory.toCanonical store)
  pure ⟨⟨operands, operations, model.inputIndexes, model.outputIndexes⟩, [], model.operandValues, pools,
    false, []⟩

def Model.ofCanonical (model : NeuralDevice.Model) : Result Model := do
  let refuse (what value : String) := throw (ConversionFault.unrepresentable what value .v1_0).error
  if !model.hasNoPointerData then throw ConversionFault.pointerModel.error
  if !model.referenced.isEmpty then
    refuse "Model with referenced subgraphs" (toString model.referenced.length)
  if model.relaxFloat32 then refuse "Model setting" "relaxComputationFloat32toFloat16"
  if !model.vendors.isEmpty then refuse "Model using extensions" (toString model.vendors.length)
  let operands ← model.main.operands.mapM Operand.ofCanonical
  let counts ← countConsumers operands.length model.main.operations
  let operations ← model.main.operations.mapM (Operation.toWire .v1_0)
  let pools ← model.pools.mapM Memory.toWire
  pure
    ⟨operands.zipWith (fun operand count => { operand with consumers := count }) counts, operations,
      model.main.inputIndexes, model.main.outputIndexes, model.operandValues, pools⟩

end Wire.Hal.V1_0

namespace Wire.Hal.V1_2

def performanceToCanonical (performance : Wire.OperandPerformance) :
    Result NeuralDevice.OperandPerformance := do
  let type ← Coded.ofWire .v1_2 performance.type
  let info ← required performance.info "operand performance info"
  pure ⟨type, info⟩

def Capabilities.toCanonical (capabilities : Capabilities) : Result NeuralDevice.Capabilities := do
  let table ← PerformanceTable.ofWire performanceToCanonical capabilities.operandPerformance
  let scalar ← required capabilities.relaxedScalar "relaxedFloat32toFloat16PerformanceScalar"
  let tensor ← required capabilities.relaxedTensor "relaxedFloat32toFloat16PerformanceTensor"
  pure ⟨scalar, tensor, table, .none, .none⟩

def Capabilities.ofCanonical (capabilities : NeuralDevice.Capabilities) : Result Capabilities := do
  let table ← capabilities.operandPerformance.toWire .v1_2
  pure ⟨some capabilities.relaxedScalar, some capabilities.relaxedTensor, table⟩

def Operand.toCanonical (operand : Operand) : Result NeuralDevice.Operand := do
  let type ← Coded.ofWire .v1_2 operand.type
  let lifetime ← WireEnum.ofWire .v1_2 operand.lifetime
  let location ← Wire.Location.optionalToCanonical operand.location
  let extraParams ← Wire.ExtraParams.toCanonical operand.extraParams
  pure ⟨type, operand.dimensions, operand.scale, operand.zeroPoint, lifetime, location, extraParams⟩

/-- The operand with the number of operations that consume it still to be filled in. -/
def Operand.ofCanonical (operand : NeuralDevice.Operand) : Result Operand := do
  let type ← operand.type.toWire .v1_2
  let lifetime ← WireEnum.toWire .v1_2 operand.lifetime
  let location ← operand.location.toWire
  let extraParams ← operand.extraParams.toWire
  pure ⟨type, operand.dimensions, 0, operand.scale, operand.zeroPoint, lifetime, some location,
    extraParams⟩

def Model.toCanonical (store : FileStore) (model : Model) : Result NeuralDevice.Model := do
  let operations ← model.operations.mapM (Wire.Operation.toCanonical .v1_2)
  let expected ← countConsumers model.operands.length operations
  checkConsumers expected (model.operands.map (·.consumers))
  let operands ← model.operands.mapM Operand.toCanonical
  let pools ← model.pools.mapM (Wire.Memory.toCanonical store)
  let vendors ← model.vendors.mapM Wire.VendorEntry.toCanonical
  pure ⟨⟨operands, operations, model.inputIndexes, model.outputIndexes⟩, [], model.operandValues, pools,
    model.relaxFloat32, vendors⟩

def Model.ofCanonical (model : NeuralDevice.Model) : Result Model := do
  if !model.hasNoPointerData then throw ConversionFault.pointerModel.error
  if !model.referenced.isEmpty then
    throw (ConversionFault.unrepresentable "Model with referenced subgraphs"
      (toString model.referenced.length) .v1_2).error
  let operands ← model.main.operands.mapM Operand.ofCanonical
  let counts ← countConsumers operands.length model.main.operations
  let operations ← model.main.operations.mapM (Operation.toWire .v1_2)
  let pools ← model.pools.mapM Memory.toWire
  let vendors ← model.vendors.mapM VendorEntry.toWire
  pure
    ⟨operands.zipWith (fun operand count => { operand with consumers := count }) counts, operations,
      model.main.inputIndexes, model.main.outputIndexes, model.operandValues, pools,
      model.relaxFloat32, vendors⟩

end Wire.Hal.V1_2

end NeuralDevice
