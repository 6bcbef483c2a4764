import NeuralDevice.Conversion.Codes
import NeuralDevice.Graph.Model
import NeuralDevice.Graph.Request
import NeuralDevice.Wire.Message

/-!
Conversions of the messages that all dialects share. They are written once for every width of numbers: in
versions 1.0 and 1.2 the widths agree and nothing can fail to fit.
-/

namespace NeuralDevice

variable {index extent width : Type} [Word index] [Word extent] [Word width]

/-- The file descriptors received with a message, duplicated. -/
def Wire.NativeHandle.toCanonical (store : FileStore) (handle : Wire.NativeHandle) : Result Handle :=
  Handle.duplicate store handle.descriptors handle.ints

def Handle.toWire (handle : Handle) : Wire.NativeHandle := ⟨handle.descriptors, handle.ints⟩

def Wire.Memory.toCanonical (store : FileStore) (memory : Wire.Memory width) :
    Result NeuralDevice.Memory := do
  let native ← required memory.handle "memory handle"
  let handle ← native.toCanonical store
  let size ← rewidth "memory size" memory.size
  pure ⟨handle, size, memory.name⟩

def Memory.toWire (memory : Memory) : Result (Wire.Memory width) := do
  let size ← rewidth "memory size" memory.size
  pure ⟨memory.name, size, some memory.handle.toWire⟩

def Wire.Location.toCanonical (location : Wire.Location index extent) : Result DataLocation := do
  let poolIndex ← rewidth "DataLocation pool index" location.poolIndex
  let offset ← rewidth "DataLocation offset" location.offset
  let length ← rewidth "DataLocation length" location.length
  pure ⟨none, poolIndex, offset, length⟩

/-- An absent location is empty. -/
def Wire.Location.optionalToCanonical (location : Option (Wire.Location index extent)) :
    Result DataLocation :=
  match location with
  | none => pure .empty
  | some location => location.toCanonical

def DataLocation.toWire (location : DataLocation) : Result (Wire.Location index extent) := do
  if location.pointer.isSome then throw ConversionFault.pointerLocation.error
  let poolIndex ← rewidth "DataLocation pool index" location.poolIndex
  let offset ← rewidth "DataLocation offset" location.offset
  let length ← rewidth "DataLocation length" location.length
  pure ⟨poolIndex, offset, length⟩

def Wire.ExtraParams.toCanonical (params : Option (Wire.ExtraParams index)) :
    Result NeuralDevice.ExtraParams :=
  match params with
  | none => pure .none
  | some (.inl quant) => do
    let channelDim ← rewidth "channelDim" quant.channelDim
    pure (.channelQuant ⟨quant.scales, channelDim⟩)
  | some (.inr data) => pure (.vendor data)

def ExtraParams.toWire (params : ExtraParams) : Result (Option (Wire.ExtraParams index)) :=
  match params with
  | .none => pure Option.none
  | .channelQuant quant => do
    let channelDim ← rewidth "channelDim" quant.channelDim
    pure (some (.inl ⟨quant.scales, channelDim⟩))
  | .vendor data => pure (some (.inr data))

def Wire.Operation.toCanonical (dialect : Dialect) (operation : Wire.Operation index) :
    Result NeuralDevice.Operation := do
  let type ← Coded.ofWire dialect operation.type
  let inputs ← rewidthAll "operation input" operation.inputs
  let outputs ← rewidthAll "operation output" operation.outputs
  pure ⟨type, inputs, outputs⟩

def Operation.toWire (dialect : Dialect) (operation : Operation) : Result (Wire.Operation index) := do
  let type ← operation.type.toWire dialect
  let inputs ← rewidthAll "operation input" operation.inputs
  let outputs ← rewidthAll "operation output" operation.outputs
  pure ⟨type, inputs, outputs⟩

def Wire.VendorEntry.toCanonical (entry : Wire.VendorEntry index) :
    Result NeuralDevice.VendorEntry := do
  let vendor ← rewidth "extension prefix" entry.vendor
  pure ⟨entry.name, vendor⟩

def VendorEntry.toWire (entry : VendorEntry) : Result (Wire.VendorEntry index) := do
  let vendor ← rewidth "extension prefix" entry.vendor
  pure ⟨entry.name, vendor⟩

def Wire.Argument.toCanonical (argument : Wire.Argument index extent) :
    Result NeuralDevice.Argument := do
  let location ← Wire.Location.optionalToCanonical argument.location
  let dimensions ← rewidthAll "argument dimension" argument.dimensions
  pure ⟨if argument.hasNoValue then .noValue else .pool, location, dimensions⟩

/-- Only arguments in pools and those without a value can be sent. -/
def ArgumentLifetime.isWithoutValue : ArgumentLifetime → Result Bool
  | .pool => pure false
  | .noValue => pure true
  | .pointer => throw ConversionFault.pointerRequest.error

def Argument.toWire (argument : Argument) : Result (Wire.Argument index extent) := do
  let hasNoValue ← argument.lifetime.isWithoutValue
  let location ← argument.location.toWire
  let dimensions ← rewidthAll "argument dimension" argument.dimensions
  pure ⟨hasNoValue, some location, dimensions⟩

def Wire.Request.toCanonical (pool : π → Result MemoryPool) (request : Wire.Request index extent π) :
    Result NeuralDevice.Request := do
  let inputs ← request.inputs.mapM Wire.Argument.toCanonical
  let outputs ← request.outputs.mapM Wire.Argument.toCanonical
  let pools ← request.pools.mapM pool
  pure ⟨inputs, outputs, pools⟩

def Wire.OutputShape.toCanonical (shape : Wire.OutputShape index) :
    Result NeuralDevice.OutputShape := do
  let dimensions ← rewidthAll "output dimension" shape.dimensions
  pure ⟨dimensions, shape.isSufficient⟩

def OutputShape.toWire (shape : OutputShape) : Result (Wire.OutputShape index) := do
  let dimensions ← rewidthAll "output dimension" shape.dimensions
  pure ⟨dimensions, shape.isSufficient⟩

def Wire.ExtensionType.toCanonical (entry : Wire.ExtensionType index) :
    Result NeuralDevice.ExtensionType := do
  let type ← rewidth "extension operand type" entry.type
  let byteSize ← rewidth "extension operand byte size" entry.byteSize
  pure ⟨type, entry.isTensor, byteSize⟩

def ExtensionType.toWire (entry : ExtensionType) : Result (Wire.ExtensionType index) := do
  let type ← rewidth "extension operand type" entry.type
  let byteSize ← rewidth "extension operand byte size" entry.byteSize
  pure ⟨type, entry.isTensor, byteSize⟩

def Wire.Extension.toCanonical (extension : Wire.Extension index) :
    Result NeuralDevice.Extension := do
  let operandTypes ← extension.operandTypes.mapM Wire.ExtensionType.toCanonical
  pure ⟨extension.name, operandTypes⟩

def Extension.toWire (extension : Extension) : Result (Wire.Extension index) := do
  let operandTypes ← extension.operandTypes.mapM ExtensionType.toWire
  pure ⟨extension.name, operandTypes⟩

def OperandPerformance.toWire (dialect : Dialect) (performance : OperandPerformance) :
    Result Wire.OperandPerformance := do
  let type ← performance.type.toWire dialect
  pure ⟨type, some performance.info⟩

/-- The figures of the types a dialect can name; the others are left out. -/
def PerformanceTable.toWire (dialect : Dialect) (table : PerformanceTable) :
    Result (List Wire.OperandPerformance) :=
  (table.entries.filter fun entry => entry.type.isNameable dialect).mapM
    (OperandPerformance.toWire dialect)

/-- A received table must name known types in ascending order. -/
def PerformanceTable.ofWire (entry : Wire.OperandPerformance → Result OperandPerformance)
    (entries : List Wire.OperandPerformance) : Result PerformanceTable := do
  let entries ← (entries.mapM entry).mapError fun cause =>
    (ConversionFault.operandPerformance cause).error
  (PerformanceTable.create entries).mapError fun cause => (ConversionFault.capabilities cause).error

end NeuralDevice
