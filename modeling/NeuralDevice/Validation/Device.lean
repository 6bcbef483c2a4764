import NeuralDevice.Graph.Request
import NeuralDevice.Performance
import NeuralDevice.Validation.Basic

/-! Rules for what devices report: performance figures, extensions, output shapes and timing. -/

namespace NeuralDevice

inductive ReportFault where
  | performance (what : String) (info : PerformanceInfo)
  | unnamedExtension
  | repeatedType (extension : String) (type : UInt16)
  | timing (onDevice inDriver : Duration)
  deriving DecidableEq, Repr

def ReportFault.error : ReportFault → Error
  | .performance what info =>
    let execTime := info.execTime.text
    let powerUsage := info.powerUsage.text
    .invalidArgument
      s!"{what} performance must be positive, got exec time {execTime} and power usage {powerUsage}"
  | .unnamedExtension => .invalidArgument "Extension name must not be empty"
  | .repeatedType extension type =>
    .invalidArgument s!"Extension {extension} declares operand type {type} twice"
  | .timing onDevice inDriver =>
    let spent := onDevice.text
    let total := inDriver.text
    .invalidArgument s!"Timing time on device ({spent}) exceeds time in driver ({total})"

/-- Both figures must be numbers above zero. -/
def PerformanceInfo.check (info : PerformanceInfo) (what : String) : Result Unit :=
  if info.execTime.isPositive && info.powerUsage.isPositive then pure ()
  else throw (ReportFault.performance what info).error

def OperandPerformance.check (entry : OperandPerformance) : Result Version := do
  entry.info.check entry.type.name
  pure entry.type.version

instance : Validate Capabilities where
  validate capabilities := do
    capabilities.relaxedScalar.check "relaxed scalar"
    capabilities.relaxedTensor.check "relaxed tensor"
    capabilities.ifPerformance.check "IF"
    capabilities.whilePerformance.check "WHILE"
    newestVersion OperandPerformance.check .v1_0 capabilities.operandPerformance.entries

/-- The first type that is listed a second time. -/
def repeatedType? : List UInt16 → List ExtensionType → Option UInt16
  | _, [] => none
  | seen, entry :: rest =>
    if seen.contains entry.type then some entry.type else repeatedType? (entry.type :: seen) rest

instance : Validate Extension where
  validate extension := do
    if extension.name.isEmpty then throw ReportFault.unnamedExtension.error
    match repeatedType? [] extension.operandTypes with
    | some type => throw (ReportFault.repeatedType extension.name type).error
    | none => pure .v1_2

instance : Validate OutputShape := ⟨fun _ => pure .v1_2⟩

instance : Validate Timing where
  validate timing :=
    match timing.timeOnDevice, timing.timeInDriver with
    | some onDevice, some inDriver =>
      if inDriver.nanoseconds < onDevice.nanoseconds then
        throw (ReportFault.timing onDevice inDriver).error
      else pure .v1_2
    | _, _ => pure .v1_2

end NeuralDevice
