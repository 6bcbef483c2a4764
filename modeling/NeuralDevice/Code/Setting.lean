import NeuralDevice.Version

/-! Small enumerations: what kind a device is and how a model is prepared and run. -/

namespace NeuralDevice

class Named (α : Type) where
  all : List α
  name : α → String

def Named.ofName? (α : Type) [Named α] (name : String) : Option α :=
  (Named.all (α := α)).find? (fun candidate => Named.name candidate == name)

instance : Named Version := ⟨Version.all, Version.name⟩

inductive DeviceType where
  | unknown
  | other
  | cpu
  | gpu
  | accelerator
  deriving DecidableEq, Repr, Inhabited

instance : Named DeviceType where
  all := [.unknown, .other, .cpu, .gpu, .accelerator]
  name
    | .unknown => "UNKNOWN"
    | .other => "OTHER"
    | .cpu => "CPU"
    | .gpu => "GPU"
    | .accelerator => "ACCELERATOR"

inductive MeasureTiming where
  | no
  | yes
  deriving DecidableEq, Repr, Inhabited

instance : Named MeasureTiming where
  all := [.no, .yes]
  name
    | .no => "NO"
    | .yes => "YES"

inductive ExecutionPreference where
  | lowPower
  | fastSingleAnswer
  | sustainedSpeed
  deriving DecidableEq, Repr, Inhabited

instance : Named ExecutionPreference where
  all := [.lowPower, .fastSingleAnswer, .sustainedSpeed]
  name
    | .lowPower => "LOW_POWER"
    | .fastSingleAnswer => "FAST_SINGLE_ANSWER"
    | .sustainedSpeed => "SUSTAINED_SPEED"

/-- The preference of a caller that states none. -/
def ExecutionPreference.standard : ExecutionPreference := .fastSingleAnswer

inductive Priority where
  | low
  | medium
  | high
  deriving DecidableEq, Repr, Inhabited

instance : Named Priority where
  all := [.low, .medium, .high]
  name
    | .low => "LOW"
    | .medium => "MEDIUM"
    | .high => "HIGH"

/-- The priority of a caller that states none. -/
def Priority.standard : Priority := .medium

end NeuralDevice
