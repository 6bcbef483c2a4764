import NeuralDevice.Code.OperandType
import NeuralDevice.Error
import NeuralDevice.Numeric.Single

/-! What a device is good at: performance figures by operand type, and vendor extensions. -/

namespace NeuralDevice

/-- Cost relative to the main processor; lower is better. -/
structure PerformanceInfo where
  execTime : Single
  powerUsage : Single
  deriving DecidableEq, Repr, Inhabited

/-- Reported for operand types a device gives no figures for. -/
def PerformanceInfo.none : PerformanceInfo := ⟨.largest, .largest⟩

structure OperandPerformance where
  type : OperandType
  info : PerformanceInfo
  deriving DecidableEq, Repr

/-- Performance figures with one entry for each listed operand type. -/
structure PerformanceTable where
  entries : List OperandPerformance
  deriving DecidableEq, Repr, Inhabited

namespace PerformanceTable

/-- Whether each entry's type comes before the next one's. -/
def isAscending : List OperandPerformance → Bool
  | first :: second :: rest => first.type < second.type && isAscending (second :: rest)
  | _ => true

def orderError : Error :=
  .invalidArgument
    "Input must be sorted by key (in ascending order), and there must be no duplicate keys"

/-- A table of entries sorted by operand type. -/
def create (entries : List OperandPerformance) : Result PerformanceTable :=
  if isAscending entries then pure ⟨entries⟩ else throw orderError

/-- Binary search in the entries from `low` up to but not including `high`. -/
def search (entries : Array OperandPerformance) (type : OperandType) (low high : Nat) :
    Option PerformanceInfo :=
  if low < high then
    let middle := (low + high) / 2
    match entries[middle]? with
    | none => none
    | some entry =>
      if entry.type < type then search entries type (middle + 1) high
      else if type < entry.type then search entries type low middle
      else some entry.info
  else none
  termination_by high - low

/-- The figures of a type, or none's figures when the table has no entry. -/
def lookup (table : PerformanceTable) (type : OperandType) : PerformanceInfo :=
  let entries := table.entries.toArray
  (search entries type 0 entries.size).getD .none

/-- The figures of a 1.0 device, which reports one for floats and one for everything else. -/
def ofTwoFigures (float32 quantized8 : PerformanceInfo) : PerformanceTable where
  entries :=
    [⟨.builtin .float32, float32⟩, ⟨.builtin .int32, quantized8⟩, ⟨.builtin .uint32, quantized8⟩,
     ⟨.builtin .tensorFloat32, float32⟩, ⟨.builtin .tensorInt32, quantized8⟩,
     ⟨.builtin .tensorQuant8Asymm, quantized8⟩, ⟨.builtin .oem, quantized8⟩,
     ⟨.builtin .tensorOemByte, quantized8⟩]

end PerformanceTable

structure Capabilities where
  relaxedScalar : PerformanceInfo
  relaxedTensor : PerformanceInfo
  operandPerformance : PerformanceTable
  ifPerformance : PerformanceInfo
  whilePerformance : PerformanceInfo
  deriving DecidableEq, Repr, Inhabited

structure ExtensionType where
  type : UInt16
  isTensor : Bool
  byteSize : UInt32
  deriving DecidableEq, Repr, Inhabited

structure Extension where
  name : String
  operandTypes : List ExtensionType
  deriving DecidableEq, Repr, Inhabited

end NeuralDevice
