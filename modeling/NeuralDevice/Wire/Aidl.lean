import NeuralDevice.Wire.Message

/-!
The messages of the AIDL version. Quantities are signed, spans of time are nanoseconds with `-1` for "none",
and a model lists a main subgraph and those it refers to.
-/

namespace NeuralDevice.Wire.Aidl

abbrev Location := Wire.Location Int32 Int64

abbrev Memory := Wire.Memory Int64

abbrev Operation := Wire.Operation Int32

abbrev Argument := Wire.Argument Int32 Int64

abbrev VendorEntry := Wire.VendorEntry Int32

abbrev OutputShape := Wire.OutputShape Int32

abbrev Timing := Wire.Timing Int64

abbrev Extension := Wire.Extension Int32

abbrev ExtraParams := Wire.ExtraParams Int32

structure Capabilities where
  relaxedScalar : Option PerformanceInfo
  relaxedTensor : Option PerformanceInfo
  operandPerformance : List OperandPerformance
  ifPerformance : Option PerformanceInfo
  whilePerformance : Option PerformanceInfo
  deriving DecidableEq, Repr, Inhabited

def Capabilities.field : Field Capabilities :=
  ((Field.message 1 performanceField).both ((Field.message 2 performanceField).both
    ((Field.messages 3 OperandPerformance.field).both ((Field.message 4 performanceField).both
      (Field.message 5 performanceField))))).convert
    (fun (relaxedScalar, relaxedTensor, operandPerformance, ifPerformance, whilePerformance) =>
      ⟨relaxedScalar, relaxedTensor, operandPerformance, ifPerformance, whilePerformance⟩)
    (fun capabilities =>
      (capabilities.relaxedScalar, capabilities.relaxedTensor, capabilities.operandPerformance,
        capabilities.ifPerformance, capabilities.whilePerformance))

structure Operand where
  type : Int32
  dimensions : List Int32
  scale : Single
  zeroPoint : Int32
  lifetime : Int32
  location : Option Location
  extraParams : Option ExtraParams
  deriving DecidableEq, Repr, Inhabited

def Operand.field : Field Operand :=
  ((Field.number 1).both ((Field.numbers 2).both ((Field.single 3).both ((Field.number 4).both
    ((Field.number 5).both ((Field.message 6 Location.field).both
      (extraParamsField 7 8))))))).convert
    (fun (type, dimensions, scale, zeroPoint, lifetime, location, extraParams) =>
      ⟨type, dimensions, scale, zeroPoint, lifetime, location, extraParams⟩)
    (fun operand =>
      (operand.type, operand.dimensions, operand.scale, operand.zeroPoint, operand.lifetime,
        operand.location, operand.extraParams))

structure Subgraph where
  operands : List Operand
  operations : List Operation
  inputIndexes : List Int32
  outputIndexes : List Int32
  deriving DecidableEq, Repr, Inhabited

def Subgraph.field : Field Subgraph :=
  ((Field.messages 1 Operand.field).both ((Field.messages 2 Operation.field).both
    ((Field.numbers 3).both (Field.numbers 4)))).convert
    (fun (operands, operations, inputIndexes, outputIndexes) =>
      ⟨operands, operations, inputIndexes, outputIndexes⟩)
    (fun subgraph =>
      (subgraph.operands, subgraph.operations, subgraph.inputIndexes, subgraph.outputIndexes))

structure Model where
  main : Option Subgraph
  referenced : List Subgraph
  operandValues : List UInt8
  pools : List Memory
  relaxFloat32 : Bool
  vendors : List VendorEntry
  deriving DecidableEq, Repr, Inhabited

def Model.field : Field Model :=
  ((Field.message 1 Subgraph.field).both ((Field.messages 2 Subgraph.field).both
    ((Field.bytes 3).both ((Field.messages 4 Memory.field).both ((Field.number 5).both
      (Field.messages 6 VendorEntry.field)))))).convert
    (fun (main, referenced, operandValues, pools, relaxFloat32, vendors) =>
      ⟨main, referenced, operandValues, pools, relaxFloat32, vendors⟩)
    (fun model =>
      (model.main, model.referenced, model.operandValues, model.pools, model.relaxFloat32,
        model.vendors))

/-- A pool of a request: shared memory, a token, or nothing. -/
structure Pool where
  content : Option (Memory ⊕ Int32)
  deriving DecidableEq, Repr, Inhabited

def Pool.field : Field Pool :=
  (Field.either (.message 1 Memory.field) (.number 2)).convert (fun content => ⟨content⟩) (·.content)

abbrev Request := Wire.Request Int32 Int64 Pool

def requestField : Field Request := Wire.Request.field Pool.field

structure ExecutionResult where
  isSufficient : Bool
  outputShapes : List OutputShape
  timing : Option Timing
  deriving DecidableEq, Repr, Inhabited

def ExecutionResult.field : Field ExecutionResult :=
  ((Field.number 1).both ((Field.messages 2 OutputShape.field).both
    (Field.message 3 Timing.field))).convert
    (fun (isSufficient, outputShapes, timing) => ⟨isSufficient, outputShapes, timing⟩)
    (fun result => (result.isSufficient, result.outputShapes, result.timing))

end NeuralDevice.Wire.Aidl
