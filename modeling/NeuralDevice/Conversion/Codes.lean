import NeuralDevice.Conversion.Basic
import NeuralDevice.Graph.Operand
import NeuralDevice.Wire.Numbers

/-! Wire codes of types and enumerations: which values each dialect can name, and by which numbers. -/

namespace NeuralDevice

/-- A table of types with the numbers that messages of each dialect have for them. -/
class WireTable (β : Type) [DecidableEq β] extends CodeTable β where
  what : String
  numbers : Dialect → List (β × Int32)

instance : WireTable BuiltinOperand where
  what := "OperandType"
  numbers
    | .v1_0 => Wire.Hal.V1_0.operandNumbers
    | .v1_2 => Wire.Hal.V1_2.operandNumbers
    | .aidl => Wire.Aidl.operandNumbers

instance : WireTable BuiltinOperation where
  what := "OperationType"
  numbers
    | .v1_0 => Wire.Hal.V1_0.operationNumbers
    | .v1_2 => Wire.Hal.V1_2.operationNumbers
    | .aidl => Wire.Aidl.operationNumbers

/-- Whether vendors' types can be sent; they are sent by their own codes. -/
def Dialect.hasVendors : Dialect → Bool
  | .v1_0 => false
  | .v1_2 | .aidl => true

def VendorCode.ofNumber? (number : Int32) : Option VendorCode :=
  (Word.ofInt? UInt32 (Word.toInt number)).bind ofCode?

namespace Coded

variable {β : Type} [DecidableEq β] [WireTable β]

/-- The number that the dialect has for a builtin type. -/
def number? (dialect : Dialect) (entry : β) : Option Int32 :=
  ((WireTable.numbers dialect).find? fun (named, _) => named = entry).map (·.2)

/-- The builtin type that the dialect has the number for. -/
def ofNumber? (dialect : Dialect) (number : Int32) : Option β :=
  ((WireTable.numbers dialect).find? fun (_, taken) => taken = number).map (·.1)

/-- Whether the dialect can name a type; a vendor code may still be too large for its number. -/
def isNameable (dialect : Dialect) : Coded β → Bool
  | .builtin entry => (number? dialect entry).isSome
  | .vendor _ => dialect.hasVendors

def ofWire (dialect : Dialect) (number : Int32) : Result (Coded β) :=
  match ofNumber? dialect number with
  | some entry => pure (.builtin entry)
  | none =>
    match if dialect.hasVendors then VendorCode.ofNumber? number else none with
    | some code => pure (.vendor code)
    | none => throw (ConversionFault.unrecognized (WireTable.what β) number).error

def toWire (dialect : Dialect) (type : Coded β) : Result Int32 :=
  let what := WireTable.what β
  let unknown := (ConversionFault.unrepresentable what type.name dialect.version).error
  match type with
  | .builtin entry =>
    match number? dialect entry with
    | some number => pure number
    | none => throw unknown
  | .vendor code => if dialect.hasVendors then rewidth s!"extension {what}" code.code else throw unknown

end Coded

/-- An enumeration some of whose values have a code in some dialects. -/
class WireEnum (α : Type) extends Named α where
  what : String
  code? : Dialect → α → Option Int32
  /-- The version named in errors of a dialect; what 1.2 kept from 1.0 is reported as 1.0. -/
  owner : Dialect → Version

namespace WireEnum

variable {α : Type} [WireEnum α]

def ofCode? (dialect : Dialect) (code : Int32) : Option α :=
  (Named.all (α := α)).find? fun value => code? dialect value == some code

def ofWire (dialect : Dialect) (code : Int32) : Result α :=
  match ofCode? dialect code with
  | some value => pure value
  | none => throw (ConversionFault.unrecognized (what α) code).error

def toWire (dialect : Dialect) (value : α) : Result Int32 :=
  match code? dialect value with
  | some code => pure code
  | none => throw (ConversionFault.unrepresentable (what α) (Named.name value) (owner α dialect)).error

end WireEnum

/-- The version that introduced what 1.0 and 1.2 share. -/
def Dialect.sharedOwner : Dialect → Version
  | .v1_0 | .v1_2 => .v1_0
  | .aidl => .aidl

instance : WireEnum OperandLifetime where
  what := "OperandLifetime"
  owner := Dialect.sharedOwner
  code? dialect
    | .temporaryVariable => some 0
    | .subgraphInput => some 1
    | .subgraphOutput => some 2
    | .constantCopy => some 3
    | .constantReference => some 4
    | .noValue => some 5
    | .subgraph => if dialect = .aidl then some 6 else none
    | .pointer => none

instance : WireEnum ErrorStatus where
  what := "ErrorStatus"
  owner := Dialect.sharedOwner
  code? dialect status :=
    let newer := fun code => if dialect = Dialect.aidl then some code else none
    match status with
    | .none => some 0
    | .deviceUnavailable => some 1
    | .generalFailure => some 2
    | .outputInsufficientSize => some 3
    | .invalidArgument => some 4
    | .missedDeadlineTransient => newer 5
    | .missedDeadlinePersistent => newer 6
    | .resourceExhaustedTransient => newer 7
    | .resourceExhaustedPersistent => newer 8
    | .deadObject => none

/-- The status a code stands for; an unknown code counts as a general failure. -/
def ErrorStatus.ofWire (dialect : Dialect) (code : Int32) : ErrorStatus :=
  (WireEnum.ofCode? dialect code).getD .generalFailure

instance : WireEnum DeviceType where
  what := "DeviceType"
  owner := Dialect.version
  code? dialect type :=
    if dialect = .v1_0 then none
    else
      match type with
      | .unknown => none
      | .other => some 1
      | .cpu => some 2
      | .gpu => some 3
      | .accelerator => some 4

instance : WireEnum MeasureTiming where
  what := "MeasureTiming"
  owner := Dialect.version
  code? dialect measure :=
    if dialect ≠ .v1_2 then none
    else
      match measure with
      | .no => some 0
      | .yes => some 1

instance : WireEnum ExecutionPreference where
  what := "ExecutionPreference"
  owner := Dialect.version
  code? dialect preference :=
    if dialect = .v1_0 then none
    else
      match preference with
      | .lowPower => some 0
      | .fastSingleAnswer => some 1
      | .sustainedSpeed => some 2

instance : WireEnum Priority where
  what := "Priority"
  owner := Dialect.version
  code? dialect priority :=
    if dialect ≠ .aidl then none
    else
      match priority with
      | .low => some 0
      | .medium => some 1
      | .high => some 2

end NeuralDevice
