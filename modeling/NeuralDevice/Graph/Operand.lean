import NeuralDevice.Code.OperandType
import NeuralDevice.Code.Setting
import NeuralDevice.Location
import NeuralDevice.Numeric.Single

/-! The values of a graph: typed operands, what they are used for, and where constants are kept. -/

namespace NeuralDevice

/-- What an operand is used for and where its data is. -/
inductive OperandLifetime where
  | temporaryVariable
  | subgraphInput
  | subgraphOutput
  | constantCopy
  | constantReference
  | noValue
  | subgraph
  | pointer
  deriving DecidableEq, Repr, Inhabited

instance : Named OperandLifetime where
  all := [.temporaryVariable, .subgraphInput, .subgraphOutput, .constantCopy, .constantReference,
    .noValue, .subgraph, .pointer]
  name
    | .temporaryVariable => "TEMPORARY_VARIABLE"
    | .subgraphInput => "SUBGRAPH_INPUT"
    | .subgraphOutput => "SUBGRAPH_OUTPUT"
    | .constantCopy => "CONSTANT_COPY"
    | .constantReference => "CONSTANT_REFERENCE"
    | .noValue => "NO_VALUE"
    | .subgraph => "SUBGRAPH"
    | .pointer => "POINTER"

/-- One scale for each index along a dimension. -/
structure ChannelQuantization where
  scales : List Single
  channelDim : UInt32
  deriving DecidableEq, Repr, Inhabited

/-- Parameters that only some operand types have. -/
inductive ExtraParams where
  | none
  | channelQuant (params : ChannelQuantization)
  | vendor (data : List UInt8)
  deriving DecidableEq, Repr, Inhabited

structure Operand where
  type : OperandType
  dimensions : List UInt32
  scale : Single
  zeroPoint : Int32
  lifetime : OperandLifetime
  location : DataLocation
  extraParams : ExtraParams
  deriving DecidableEq, Repr

end NeuralDevice
