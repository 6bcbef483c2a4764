import NeuralDevice.Performance
import NeuralDevice.Wire.Field

/-!
Messages that all dialects share up to the width of their numbers: `index` is the type of indexes, counts
and dimensions, `extent` that of offsets and lengths, `width` that of memory sizes. Each type has the field
that writes and reads it.
-/

namespace NeuralDevice.Wire

/-- Descriptors and integers of a memory object. -/
structure NativeHandle where
  descriptors : List Int32
  ints : List Int32
  deriving DecidableEq, Repr, Inhabited

def NativeHandle.field : Field NativeHandle :=
  ((Field.numbers 1).both (Field.numbers 2)).convert
    (fun (descriptors, ints) => ⟨descriptors, ints⟩)
    (fun handle => (handle.descriptors, handle.ints))

structure Memory (width : Type) where
  name : String
  size : width
  handle : Option NativeHandle
  deriving DecidableEq, Repr, Inhabited

def Memory.field [Scalar width] : Field (Memory width) :=
  ((Field.text 1).both ((Field.number 2).both (Field.message 3 NativeHandle.field))).convert
    (fun (name, size, handle) => ⟨name, size, handle⟩)
    (fun memory => (memory.name, memory.size, memory.handle))

def performanceField : Field PerformanceInfo :=
  ((Field.single 1).both (Field.single 2)).convert
    (fun (execTime, powerUsage) => ⟨execTime, powerUsage⟩)
    (fun info => (info.execTime, info.powerUsage))

structure OperandPerformance where
  type : Int32
  info : Option PerformanceInfo
  deriving DecidableEq, Repr, Inhabited

def OperandPerformance.field : Field OperandPerformance :=
  ((Field.number 1).both (Field.message 2 performanceField)).convert
    (fun (type, info) => ⟨type, info⟩)
    (fun performance => (performance.type, performance.info))

structure Location (index extent : Type) where
  poolIndex : index
  offset : extent
  length : extent
  deriving DecidableEq, Repr, Inhabited

def Location.field [Scalar index] [Scalar extent] : Field (Location index extent) :=
  ((Field.number 1).both ((Field.number 2).both (Field.number 3))).convert
    (fun (poolIndex, offset, length) => ⟨poolIndex, offset, length⟩)
    (fun location => (location.poolIndex, location.offset, location.length))

structure ChannelQuantization (index : Type) where
  scales : List Single
  channelDim : index
  deriving DecidableEq, Repr, Inhabited

def ChannelQuantization.field [Scalar index] : Field (ChannelQuantization index) :=
  ((Field.singles 1).both (Field.number 2)).convert
    (fun (scales, channelDim) => ⟨scales, channelDim⟩)
    (fun params => (params.scales, params.channelDim))

/-- Type-specific parameters of an operand that has some: channel quantization or vendor data. -/
abbrev ExtraParams (index : Type) := ChannelQuantization index ⊕ List UInt8

def extraParamsField [Scalar index] (channelTag vendorTag : Nat) :
    Field (Option (ExtraParams index)) :=
  Field.either (.message channelTag ChannelQuantization.field) (.bytes vendorTag)

structure Operation (index : Type) where
  type : Int32
  inputs : List index
  outputs : List index
  deriving DecidableEq, Repr, Inhabited

def Operation.field [Scalar index] : Field (Operation index) :=
  ((Field.number 1).both ((Field.numbers 2).both (Field.numbers 3))).convert
    (fun (type, inputs, outputs) => ⟨type, inputs, outputs⟩)
    (fun operation => (operation.type, operation.inputs, operation.outputs))

structure VendorEntry (index : Type) where
  name : String
  vendor : index
  deriving DecidableEq, Repr, Inhabited

def VendorEntry.field [Scalar index] : Field (VendorEntry index) :=
  ((Field.text 1).both (Field.number 2)).convert
    (fun (name, vendor) => ⟨name, vendor⟩)
    (fun entry => (entry.name, entry.vendor))

structure Argument (index extent : Type) where
  hasNoValue : Bool
  location : Option (Location index extent)
  dimensions : List index
  deriving DecidableEq, Repr, Inhabited

def Argument.field [Scalar index] [Scalar extent] : Field (Argument index extent) :=
  ((Field.number 1).both ((Field.message 2 Location.field).both (Field.numbers 3))).convert
    (fun (hasNoValue, location, dimensions) => ⟨hasNoValue, location, dimensions⟩)
    (fun argument => (argument.hasNoValue, argument.location, argument.dimensions))

structure Request (index extent pool : Type) where
  inputs : List (Argument index extent)
  outputs : List (Argument index extent)
  pools : List pool
  deriving DecidableEq, Repr, Inhabited

def Request.field [Scalar index] [Scalar extent] (pool : Field π) : Field (Request index extent π) :=
  ((Field.messages 1 Argument.field).both
    ((Field.messages 2 Argument.field).both (Field.messages 3 pool))).convert
    (fun (inputs, outputs, pools) => ⟨inputs, outputs, pools⟩)
    (fun request => (request.inputs, request.outputs, request.pools))

structure OutputShape (index : Type) where
  dimensions : List index
  isSufficient : Bool
  deriving DecidableEq, Repr, Inhabited

def OutputShape.field [Scalar index] : Field (OutputShape index) :=
  ((Field.numbers 1).both (Field.number 2)).convert
    (fun (dimensions, isSufficient) => ⟨dimensions, isSufficient⟩)
    (fun shape => (shape.dimensions, shape.isSufficient))

/-- Two spans of time in the dialect's unit, where one value stands for "not measured". -/
structure Timing (span : Type) where
  timeOnDevice : span
  timeInDriver : span
  deriving DecidableEq, Repr, Inhabited

def Timing.field [Scalar span] : Field (Timing span) :=
  ((Field.number 1).both (Field.number 2)).convert
    (fun (timeOnDevice, timeInDriver) => ⟨timeOnDevice, timeInDriver⟩)
    (fun timing => (timing.timeOnDevice, timing.timeInDriver))

structure ExtensionType (index : Type) where
  type : index
  isTensor : Bool
  byteSize : index
  deriving DecidableEq, Repr, Inhabited

def ExtensionType.field [Scalar index] : Field (ExtensionType index) :=
  ((Field.number 1).both ((Field.number 2).both (Field.number 3))).convert
    (fun (type, isTensor, byteSize) => ⟨type, isTensor, byteSize⟩)
    (fun entry => (entry.type, entry.isTensor, entry.byteSize))

structure Extension (index : Type) where
  name : String
  operandTypes : List (ExtensionType index)
  deriving DecidableEq, Repr, Inhabited

def Extension.field [Scalar index] : Field (Extension index) :=
  ((Field.text 1).both (Field.messages 2 ExtensionType.field)).convert
    (fun (name, operandTypes) => ⟨name, operandTypes⟩)
    (fun extension => (extension.name, extension.operandTypes))

end NeuralDevice.Wire
