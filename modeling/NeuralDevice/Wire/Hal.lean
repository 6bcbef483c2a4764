import NeuralDevice.Wire.Message

/-! The messages of versions 1.0 and 1.2. Both use unsigned numbers; a model lists one subgraph. -/

namespace NeuralDevice.Wire.Hal

abbrev Location := Wire.Location UInt32 UInt32

abbrev Memory := Wire.Memory UInt64

abbrev Operation := Wire.Operation UInt32

abbrev Argument := Wire.Argument UInt32 UInt32

abbrev Request := Wire.Request UInt32 UInt32 Memory

abbrev VendorEntry := Wire.VendorEntry UInt32

abbrev OutputShape := Wire.OutputShape UInt32

/-- Microseconds; the largest number marks a span that was not measured. -/
abbrev Timing := Wire.Timing UInt64

abbrev Extension := Wire.Extension UInt32

abbrev ExtraParams := Wire.ExtraParams UInt32

def requestField : Field Request := Wire.Request.field Wire.Memory.field

namespace V1_0

structure Capabilities where
  float32 : Option PerformanceInfo
  quantized8 : Option PerformanceInfo
  deriving DecidableEq, Repr, Inhabited

def Capabilities.field : Field Capabilities :=
  ((Field.message 1 performanceField).both (Field.message 2 performanceField)).convert
    (fun (float32, quantized8) => ⟨float32, quantized8⟩)
    (fun capabilities => (capabilities.float32, capabilities.quantized8))

structure Operand where
  type : Int32
  dimensions : List UInt32
  consumers : UInt32
  scale : Single
  zeroPoint : Int32
  lifetime : Int32
  location : Option Location
  deriving DecidableEq, Repr, Inhabited

def Operand.field : Field Operand :=
  ((Field.number 1).both ((Field.numbers 2).both ((Field.number 3).both ((Field.single 4).both
    ((Field.number 5).both ((Field.number 6).both (Field.message 7 Location.field))))))).convert
    (fun (type, dimensions, consumers, scale, zeroPoint, lifetime, location) =>
      ⟨type, dimensions, consumers, scale, zeroPoint, lifetime, location⟩)
    (fun operand =>
      (operand.type, operand.dimensions, operand.consumers, operand.scale, operand.zeroPoint,
        operand.lifetime, operand.location))

structure Model where
  operands : List Operand
  operations : List Operation
  inputIndexes : List UInt32
  outputIndexes : List UInt32
  operandValues : List UInt8
  pools : List Memory
  deriving DecidableEq, Repr, Inhabited

def Model.field : Field Model :=
  ((Field.messages 1 Operand.field).both ((Field.messages 2 Operation.field).both
    ((Field.numbers 3).both ((Field.numbers 4).both ((Field.bytes 5).both
      (Field.messages 6 Memory.field)))))).convert
    (fun (operands, operations, inputIndexes, outputIndexes, operandValues, pools) =>
      ⟨operands, operations, inputIndexes, outputIndexes, operandValues, pools⟩)
    (fun model =>
      (model.operands, model.operations, model.inputIndexes, model.outputIndexes,
        model.operandValues, model.pools))

end V1_0

namespace V1_2

structure Capabilities where
  relaxedScalar : Option PerformanceInfo
  relaxedTensor : Option PerformanceInfo
  operandPerformance : List OperandPerformance
  deriving DecidableEq, Repr, Inhabited

def Capabilities.field : Field Capabilities :=
  ((Field.message 1 performanceField).both ((Field.message 2 performanceField).both
    (Field.messages 3 OperandPerformance.field))).convert
    (fun (relaxedScalar, relaxedTensor, operandPerformance) =>
      ⟨relaxedScalar, relaxedTensor, operandPerformance⟩)
    (fun capabilities =>
      (capabilities.relaxedScalar, capabilities.relaxedTensor, capabilities.operandPerformance))

structure Operand where
  type : Int32
  dimensions : List UInt32
  consumers : UInt32
  scale : Single
  zeroPoint : Int32
  lifetime : Int32
  location : Option Location
  extraParams : Option ExtraParams
  deriving DecidableEq, Repr, Inhabited

def Operand.field : Field Operand :=
  ((Field.number 1).both ((Field.numbers 2).both ((Field.number 3).both ((Field.single 4).both
    ((Field.number 5).both ((Field.number 6).both ((Field.message 7 Location.field).both
      (extraParamsField 8 9)))))))).convert
    (fun (type, dimensions, consumers, scale, zeroPoint, lifetime, location, extraParams) =>
      ⟨type, dimensions, consumers, scale, zeroPoint, lifetime, location, extraParams⟩)
    (fun operand =>
      (operand.type, operand.dimensions, operand.consumers, operand.scale, operand.zeroPoint,
        operand.lifetime, operand.location, operand.extraParams))

structure Model where
  operands : List Operand
  operations : List Operation
  inputIndexes : List UInt32
  outputIndexes : List UInt32
  operandValues : List UInt8
  pools : List Memory
  relaxFloat32 : Bool
  vendors : List VendorEntry
  deriving DecidableEq, Repr, Inhabited

def Model.field : Field Model :=
  ((Field.messages 1 Operand.field).both ((Field.messages 2 Operation.field).both
    ((Field.numbers 3).both ((Field.numbers 4).both ((Field.bytes 5).both
      ((Field.messages 6 Memory.field).both ((Field.number 7).both
        (Field.messages 8 VendorEntry.field)))))))).convert
    (fun (operands, operations, inputIndexes, outputIndexes, operandValues, pools, relaxFloat32,
        vendors) =>
      ⟨operands, operations, inputIndexes, outputIndexes, operandValues, pools, relaxFloat32, vendors⟩)
    (fun model =>
      (model.operands, model.operations, model.inputIndexes, model.outputIndexes,
        model.operandValues, model.pools, model.relaxFloat32, model.vendors))

end V1_2

end NeuralDevice.Wire.Hal
