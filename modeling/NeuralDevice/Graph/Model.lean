import NeuralDevice.Code.OperationType
import NeuralDevice.Graph.Operand
import NeuralDevice.Memory.Store

/-! Compute graphs independent of any interface version. -/

namespace NeuralDevice

structure Operation where
  type : OperationType
  inputs : List UInt32
  outputs : List UInt32
  deriving DecidableEq, Repr

structure Subgraph where
  operands : List Operand
  operations : List Operation
  inputIndexes : List UInt32
  outputIndexes : List UInt32
  deriving DecidableEq, Repr, Inhabited

/-- A vendor's extension as a model declares it: its name and its number in vendor codes. -/
structure VendorEntry where
  name : String
  vendor : UInt16
  deriving DecidableEq, Repr, Inhabited

structure Model where
  main : Subgraph
  referenced : List Subgraph
  operandValues : List UInt8
  pools : List Memory
  /-- Whether 32-bit floats may be computed with 16-bit precision. -/
  relaxFloat32 : Bool
  vendors : List VendorEntry
  deriving DecidableEq, Repr, Inhabited

namespace Model

/-- All subgraphs, main first. -/
def subgraphs (model : Model) : List Subgraph := model.main :: model.referenced

/-- The name of the extension a vendor code belongs to. -/
def extensionName? (model : Model) (code : VendorCode) : Option String :=
  (model.vendors.find? (fun entry => entry.vendor == code.vendor)).map (·.name)

def hasNoPointerData (model : Model) : Bool :=
  model.subgraphs.all fun subgraph =>
    subgraph.operands.all fun operand => operand.location.pointer.isNone

end Model

/-- The operand an operation names is not there. -/
structure MissingOperand where
  index : UInt32
  count : Nat
  deriving DecidableEq, Repr

def MissingOperand.error (missing : MissingOperand) : Error :=
  .invalidArgument
    s!"Operand index {missing.index} is out of range (only {missing.count} operands)"

def countConsumer (counts : List UInt32) (index : UInt32) : Result (List UInt32) :=
  match counts[index.toNat]? with
  | some count => pure (counts.set index.toNat (count + 1))
  | none => throw (MissingOperand.mk index counts.length).error

/-- How often each operand is an input of an operation. -/
def countConsumers (operandCount : Nat) (operations : List Operation) : Result (List UInt32) :=
  (operations.flatMap (·.inputs)).foldlM countConsumer (List.replicate operandCount 0)

end NeuralDevice
