import NeuralDevice.Graph.Model
import NeuralDevice.Validation.Basic

/-! Rules for the operands of a model: quantization, type-specific parameters and where the data is. -/

namespace NeuralDevice

inductive OperandFault where
  | strayPointer (lifetime : OperandLifetime)
  | copyPool
  | missingPool (pool : UInt32) (count : Nat)
  | missingPointer
  | shortBuffer (length : UInt32) (size : UInt64)
  | subgraphType (type : OperandType)
  | missingSubgraph (subgraph : UInt32) (count : Nat)
  | strayLocation (lifetime : OperandLifetime)
  | quantization (type : OperandType) (scale : Single) (zeroPoint : Int32)
  | channelDimension (dimension : UInt32) (rank : Nat)
  | channelCount (scales : Nat) (channels : UInt32)
  | channelScale
  | missingChannels
  | strayChannels (type : OperandType)
  | strayVendorParams (type : OperandType)
  | undeclaredVendor (vendor : UInt16)
  | scalarDimensions (type : OperandType)
  deriving DecidableEq, Repr

def OperandFault.error (index : Nat) (fault : OperandFault) : Error :=
  .invalidArgument <| s!"Operand {index} " ++
  match fault with
  | .strayPointer lifetime =>
    let name := Named.name lifetime
    s!"with lifetime {name} must not carry a host pointer"
  | .copyPool => "CONSTANT_COPY must use pool index 0"
  | .missingPool pool count => s!"references pool {pool} but the model has {count} pools"
  | .missingPointer => "has lifetime POINTER but no host pointer"
  | .shortBuffer length size => s!"length {length} exceeds its host buffer of {size} bytes"
  | .subgraphType type =>
    let name := type.name
    s!"with lifetime SUBGRAPH must have type SUBGRAPH, not {name}"
  | .missingSubgraph subgraph count => s!"references subgraph {subgraph} but only {count} are present"
  | .strayLocation lifetime =>
    let name := Named.name lifetime
    s!"with lifetime {name} must have an empty location"
  | .quantization type scale zeroPoint =>
    let name := type.name
    let written := scale.text
    s!"of type {name} has invalid scale {written} or zero point {zeroPoint}"
  | .channelDimension dimension rank =>
    s!"channel dimension {dimension} is out of range for rank {rank}"
  | .channelCount scales channels => s!"has {scales} channel scales for {channels} channels"
  | .channelScale => "channel scales must be positive"
  | .missingChannels =>
    "of type TENSOR_QUANT8_SYMM_PER_CHANNEL requires channel quantization parameters"
  | .strayChannels type =>
    let name := type.name
    s!"of type {name} must not carry channel quantization parameters"
  | .strayVendorParams type =>
    let name := type.name
    s!"of non-extension type {name} must not carry extension parameters"
  | .undeclaredVendor vendor => s!"uses extension prefix {vendor} that the model does not declare"
  | .scalarDimensions type =>
    let name := type.name
    s!"of scalar type {name} must not have dimensions"

namespace Operand

/-- The zero point lies from `low` to `high`. -/
def hasZeroPointIn (operand : Operand) (low high : Int) : Bool :=
  low ≤ operand.zeroPoint.toInt && operand.zeroPoint.toInt ≤ high

def hasValidQuantization (operand : Operand) : Bool :=
  match operand.type with
  | .vendor _ => true
  | .builtin type =>
    match type with
    | .tensorQuant8Asymm => operand.scale.isPositive && operand.hasZeroPointIn 0 255
    | .tensorQuant8AsymmSigned => operand.scale.isPositive && operand.hasZeroPointIn (-128) 127
    | .tensorQuant16Asymm => operand.scale.isPositive && operand.hasZeroPointIn 0 65535
    | .tensorQuant8Symm | .tensorQuant16Symm =>
      operand.scale.isPositive && operand.hasZeroPointIn 0 0
    | .tensorInt32 => Single.zero.le operand.scale
    | .float32 | .int32 | .uint32 | .tensorFloat32 | .bool | .tensorFloat16 | .tensorBool8
    | .float16 | .tensorQuant8SymmPerChannel | .subgraph =>
      operand.scale.isZero && operand.hasZeroPointIn 0 0
    | .oem | .tensorOemByte => true

def checkQuantization (index : Nat) (operand : Operand) : Result Unit :=
  if operand.hasValidQuantization then pure ()
  else throw (OperandFault.quantization operand.type operand.scale operand.zeroPoint |>.error index)

/-- One scale above zero for each channel; an unknown channel count (zero) leaves their number open. -/
def checkChannels (index : Nat) (operand : Operand) (params : ChannelQuantization) :
    Result Version := do
  match operand.dimensions[params.channelDim.toNat]? with
  | none =>
    throw (OperandFault.channelDimension params.channelDim operand.dimensions.length |>.error index)
  | some channels =>
    if channels ≠ 0 ∧ params.scales.length ≠ channels.toNat then
      throw (OperandFault.channelCount params.scales.length channels |>.error index)
    if params.scales.any (fun scale => scale.le .zero) then
      throw (OperandFault.channelScale.error index)
    pure .v1_2

/-- Only the per-channel type has channel parameters, and only vendor types have vendor data. -/
def checkExtraParams (index : Nat) (operand : Operand) : Result Version :=
  match operand.extraParams, operand.type with
  | .channelQuant params, .builtin .tensorQuant8SymmPerChannel => operand.checkChannels index params
  | _, .builtin .tensorQuant8SymmPerChannel => throw (OperandFault.missingChannels.error index)
  | .channelQuant _, type => throw (OperandFault.strayChannels type |>.error index)
  | .vendor _, .vendor _ => pure .v1_2
  | .vendor _, type => throw (OperandFault.strayVendorParams type |>.error index)
  | .none, _ => pure .v1_0

/-- The region of a constant lies inside the model's own values or one of its pools, a pointer's inside
its host buffer; a subgraph operand names a referenced subgraph; any other operand has no location. -/
def checkLocation (model : Model) (index : Nat) (operand : Operand) : Result Version := do
  let location := operand.location
  if operand.lifetime ≠ .pointer ∧ location.pointer.isSome then
    throw (OperandFault.strayPointer operand.lifetime |>.error index)
  match operand.lifetime with
  | .constantCopy =>
    if location.poolIndex ≠ 0 then throw (OperandFault.copyPool.error index)
    checkRange location.offset location.length model.operandValues.length "operand values"
    pure .v1_0
  | .constantReference =>
    match model.pools[location.poolIndex.toNat]? with
    | none => throw (OperandFault.missingPool location.poolIndex model.pools.length |>.error index)
    | some pool =>
      checkRange location.offset location.length pool.size.toNat "pool"
      pure .v1_0
  | .pointer =>
    match location.pointer with
    | none => throw (OperandFault.missingPointer.error index)
    | some pointer =>
      if pointer.size.toNat < location.length.toNat then
        throw (OperandFault.shortBuffer location.length pointer.size |>.error index)
      pure .v1_0
  | .subgraph =>
    if operand.type ≠ .builtin .subgraph then
      throw (OperandFault.subgraphType operand.type |>.error index)
    if model.referenced.length ≤ location.offset.toNat then
      throw (OperandFault.missingSubgraph location.offset model.referenced.length |>.error index)
    pure .v1_3
  | .temporaryVariable | .subgraphInput | .subgraphOutput | .noValue =>
    if !location.isEmpty then throw (OperandFault.strayLocation operand.lifetime |>.error index)
    pure .v1_0

/-- A vendor type belongs to a declared extension; only tensors have dimensions. -/
def checkType (model : Model) (index : Nat) (operand : Operand) : Result Unit :=
  match operand.type with
  | .vendor code =>
    if model.vendors.any (fun entry => entry.vendor == code.vendor) then pure ()
    else throw (OperandFault.undeclaredVendor code.vendor |>.error index)
  | .builtin type =>
    if !type.isTensor && !operand.dimensions.isEmpty then
      throw (OperandFault.scalarDimensions operand.type |>.error index)
    else pure ()

def check (model : Model) (index : Nat) (operand : Operand) : Result Version := do
  let typeVersion ← validate operand.type
  operand.checkType model index
  operand.checkQuantization index
  let paramsVersion ← operand.checkExtraParams index
  let locationVersion ← operand.checkLocation model index
  pure (max (max typeVersion paramsVersion) locationVersion)

end Operand

end NeuralDevice
