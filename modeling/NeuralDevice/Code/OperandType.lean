import NeuralDevice.Code.Table

/-! The data types of operands and their codes. -/

namespace NeuralDevice

/-- A data type every vendor knows by the same code. -/
inductive BuiltinOperand where
  | float32
  | int32
  | uint32
  | tensorFloat32
  | tensorInt32
  | tensorQuant8Asymm
  | bool
  | tensorQuant16Symm
  | tensorFloat16
  | tensorBool8
  | float16
  | tensorQuant8SymmPerChannel
  | tensorQuant16Asymm
  | tensorQuant8Symm
  | tensorQuant8AsymmSigned
  | subgraph
  | oem
  | tensorOemByte
  deriving DecidableEq, Repr

namespace BuiltinOperand

def all : List BuiltinOperand :=
  [.float32, .int32, .uint32, .tensorFloat32, .tensorInt32, .tensorQuant8Asymm, .bool,
   .tensorQuant16Symm, .tensorFloat16, .tensorBool8, .float16, .tensorQuant8SymmPerChannel,
   .tensorQuant16Asymm, .tensorQuant8Symm, .tensorQuant8AsymmSigned, .subgraph, .oem, .tensorOemByte]

def code : BuiltinOperand → UInt32
  | .float32 => 0
  | .int32 => 1
  | .uint32 => 2
  | .tensorFloat32 => 3
  | .tensorInt32 => 4
  | .tensorQuant8Asymm => 5
  | .bool => 6
  | .tensorQuant16Symm => 7
  | .tensorFloat16 => 8
  | .tensorBool8 => 9
  | .float16 => 10
  | .tensorQuant8SymmPerChannel => 11
  | .tensorQuant16Asymm => 12
  | .tensorQuant8Symm => 13
  | .tensorQuant8AsymmSigned => 14
  | .subgraph => 15
  | .oem => 10000
  | .tensorOemByte => 10001

def name : BuiltinOperand → String
  | .float32 => "FLOAT32"
  | .int32 => "INT32"
  | .uint32 => "UINT32"
  | .tensorFloat32 => "TENSOR_FLOAT32"
  | .tensorInt32 => "TENSOR_INT32"
  | .tensorQuant8Asymm => "TENSOR_QUANT8_ASYMM"
  | .bool => "BOOL"
  | .tensorQuant16Symm => "TENSOR_QUANT16_SYMM"
  | .tensorFloat16 => "TENSOR_FLOAT16"
  | .tensorBool8 => "TENSOR_BOOL8"
  | .float16 => "FLOAT16"
  | .tensorQuant8SymmPerChannel => "TENSOR_QUANT8_SYMM_PER_CHANNEL"
  | .tensorQuant16Asymm => "TENSOR_QUANT16_ASYMM"
  | .tensorQuant8Symm => "TENSOR_QUANT8_SYMM"
  | .tensorQuant8AsymmSigned => "TENSOR_QUANT8_ASYMM_SIGNED"
  | .subgraph => "SUBGRAPH"
  | .oem => "OEM"
  | .tensorOemByte => "TENSOR_OEM_BYTE"

/-- The oldest version that knows the type. -/
def version (type : BuiltinOperand) : Version :=
  let code := type.code
  if code ≤ 5 then .v1_0
  else if code ≤ 13 then .v1_2
  else if code ≤ 15 then .v1_3
  else .v1_0

def isTensor : BuiltinOperand → Bool
  | .tensorFloat32 | .tensorInt32 | .tensorQuant8Asymm | .tensorQuant16Symm | .tensorFloat16
  | .tensorBool8 | .tensorQuant8SymmPerChannel | .tensorQuant16Asymm | .tensorQuant8Symm
  | .tensorQuant8AsymmSigned | .tensorOemByte => true
  | .float32 | .int32 | .uint32 | .bool | .float16 | .subgraph | .oem => false

theorem find_code (type : BuiltinOperand) :
    all.find? (fun candidate => candidate.code == type.code) = some type := by
  cases type <;> rfl

theorem code_lt (type : BuiltinOperand) : type.code.toNat < UInt16.size := by
  cases type <;> decide

end BuiltinOperand

instance : CodeTable BuiltinOperand where
  all := BuiltinOperand.all
  code := BuiltinOperand.code
  name := BuiltinOperand.name
  version := BuiltinOperand.version
  find_code := BuiltinOperand.find_code
  code_lt := BuiltinOperand.code_lt

abbrev OperandType := Coded BuiltinOperand

/-- Whether operands of the type carry dimensions; nothing is known of vendor types. -/
def OperandType.isTensor : OperandType → Bool
  | .builtin type => type.isTensor
  | .vendor _ => false

end NeuralDevice
