import NeuralDevice.Device.PreparedModel
import NeuralDevice.Validation.Model

/-!
Devices behind endpoints of the three dialects. What a device is and can do is read once, when it is created,
and checked before anybody sees it.
-/

namespace NeuralDevice

/-- Why a device cannot be created or a model not be prepared. -/
inductive DeviceFault where
  | unnamed
  | flagCount (found expected : Nat)
  | noPreparedModel (call : String)
  deriving DecidableEq, Repr

def DeviceFault.error : DeviceFault → Error
  | .unnamed => .invalidArgument "device name must not be empty"
  | .flagCount found expected =>
    .generalFailure s!"getSupportedOperations returned vector of size {found} but expected {expected}"
  | .noPreparedModel call => .generalFailure s!"{call} returned no prepared model"

inductive DeviceEndpoint (σ : Type) where
  | v1_0 (endpoint : Wire.Hal.V1_0.DeviceEndpoint σ)
  | v1_2 (endpoint : Wire.Hal.V1_2.DeviceEndpoint σ)
  | aidl (endpoint : Wire.Aidl.DeviceEndpoint σ)

namespace DeviceEndpoint

def dialect : DeviceEndpoint σ → Dialect
  | .v1_0 _ => .v1_0
  | .v1_2 _ => .v1_2
  | .aidl _ => .aidl

def linkToDeath : DeviceEndpoint σ → Recipient → Call σ Bool
  | .v1_0 endpoint => endpoint.linkToDeath
  | .v1_2 endpoint => endpoint.linkToDeath
  | .aidl endpoint => endpoint.linkToDeath

end DeviceEndpoint

/-- What a device says about itself. -/
structure DeviceInfo where
  versionString : String
  type : DeviceType
  extensions : List Extension
  capabilities : Capabilities
  deriving DecidableEq, Repr, Inhabited

/-- A compute device. No two devices have the same recipient. -/
structure Device (σ : Type) where
  name : String
  info : DeviceInfo
  endpoint : DeviceEndpoint σ
  options : ExecutionOptions
  recipient : Recipient

/-- A call of a 1.x endpoint, whose answer comes with a status. -/
def World.callHal (dialect : Dialect) (name : String) (call : Call σ (Int32 × α)) :
    Action (World σ) α := do
  let (status, value) ← World.call TransportError.error call
  Action.ofResult (checkStatus dialect name status)
  pure value

namespace DeviceInfo

variable {σ : Type}

/-- Version 1.0 knows capabilities only. -/
def readV1_0 (endpoint : Wire.Hal.V1_0.DeviceEndpoint σ) : Action (World σ) DeviceInfo := do
  let capabilities ← World.callHal .v1_0 "getCapabilities" endpoint.getCapabilities
  let capabilities ← Action.ofResult (receive .v1_0 capabilities.toCanonical)
  pure ⟨"UNKNOWN", .unknown, [], capabilities⟩

def readV1_2 (endpoint : Wire.Hal.V1_2.DeviceEndpoint σ) : Action (World σ) DeviceInfo := do
  let versionString ← World.callHal .v1_2 "getVersionString" endpoint.getVersionString
  let type ← World.callHal .v1_2 "getType" endpoint.getType
  let type ← Action.ofResult (WireEnum.ofWire .v1_2 type)
  let extensions ← World.callHal .v1_2 "getSupportedExtensions" endpoint.getSupportedExtensions
  let extensions ← Action.ofResult
    (extensions.mapM fun extension => receive .v1_2 extension.toCanonical)
  let capabilities ← World.callHal .v1_2 "getCapabilities_1_2" endpoint.getCapabilities
  let capabilities ← Action.ofResult (receive .v1_2 capabilities.toCanonical)
  pure ⟨versionString, type, extensions, capabilities⟩

def readAidl (endpoint : Wire.Aidl.DeviceEndpoint σ) : Action (World σ) DeviceInfo := do
  let versionString ← World.call TransportError.errorWithStatus endpoint.getVersionString
  let type ← World.call TransportError.errorWithStatus endpoint.getType
  let type ← Action.ofResult (WireEnum.ofWire .aidl type)
  let extensions ← World.call TransportError.errorWithStatus endpoint.getSupportedExtensions
  let extensions ← Action.ofResult
    (extensions.mapM fun extension => receive .aidl extension.toCanonical)
  let capabilities ← World.call TransportError.errorWithStatus endpoint.getCapabilities
  let capabilities ← Action.ofResult (receive .aidl capabilities.toCanonical)
  pure ⟨versionString, type, extensions, capabilities⟩

def read : DeviceEndpoint σ → Action (World σ) DeviceInfo
  | .v1_0 endpoint => readV1_0 endpoint
  | .v1_2 endpoint => readV1_2 endpoint
  | .aidl endpoint => readAidl endpoint

end DeviceInfo

namespace Device

variable {σ : Type}

/-- Reads what the endpoint says and then watches it. -/
def create (name : String) (endpoint : DeviceEndpoint σ) (options : ExecutionOptions) :
    Action (World σ) (Device σ) := do
  if name.isEmpty then throw DeviceFault.unnamed.error
  let info ← DeviceInfo.read endpoint
  let recipient ← World.link endpoint.linkToDeath
  pure ⟨name, info, endpoint, options, recipient⟩

/-- The newest version the device can be asked for. -/
def featureLevel (device : Device σ) : Version := device.endpoint.dialect.version

/-- There must be one flag for each operation of the main subgraph. -/
def checkFlags (model : Model) (flags : List Bool) : Result (List Bool) :=
  let expected := model.main.operations.length
  if flags.length = expected then pure flags
  else throw (DeviceFault.flagCount flags.length expected).error

/-- The flags of the operations in the relocated model, as the endpoint gives them. -/
def supportFlags (device : Device σ) (relocated : Model) : Action (World σ) (List Bool) :=
  match device.endpoint with
  | .v1_0 endpoint => do
    let wire ← Action.ofResult (send .v1_0 relocated Wire.Hal.V1_0.Model.ofCanonical)
    World.callHal .v1_0 "getSupportedOperations" (endpoint.getSupportedOperations wire)
  | .v1_2 endpoint => do
    let wire ← Action.ofResult (send .v1_2 relocated Wire.Hal.V1_2.Model.ofCanonical)
    World.callHal .v1_2 "getSupportedOperations_1_2" (endpoint.getSupportedOperations wire)
  | .aidl endpoint => do
    let wire ← Action.ofResult (send .aidl relocated Wire.Aidl.Model.ofCanonical)
    World.call TransportError.errorWithStatus (endpoint.getSupportedOperations wire)

/-- Which operations of the main subgraph the device can run. -/
def supportedOperations (device : Device σ) (model : Model) : Action (World σ) (List Bool) := do
  let relocated ← World.relocateModel model
  let flags ← device.supportFlags relocated
  Action.ofResult (checkFlags model flags)

/-- An endpoint that should have come with the answer to `call`. -/
def requirePrepared (call : String) (endpoint : Option α) : Result α :=
  match endpoint with
  | some endpoint => pure endpoint
  | none => throw (DeviceFault.noPreparedModel call).error

def prepareV1_0 (endpoint : Wire.Hal.V1_0.DeviceEndpoint σ) (relocated : Model) :
    Action (World σ) (PreparedEndpoint σ) := do
  let wire ← Action.ofResult (send .v1_0 relocated Wire.Hal.V1_0.Model.ofCanonical)
  let prepared ← World.callHal .v1_0 "prepareModel" (endpoint.prepareModel wire)
  let prepared ← Action.ofResult (requirePrepared "prepareModel" prepared)
  pure (.v1_0 prepared)

def prepareV1_2 (endpoint : Wire.Hal.V1_2.DeviceEndpoint σ) (settings : PreparationSettings)
    (relocated : Model) : Action (World σ) (PreparedEndpoint σ) := do
  let wire ← Action.ofResult (send .v1_2 relocated Wire.Hal.V1_2.Model.ofCanonical)
  let preference ← Action.ofResult (WireEnum.toWire .v1_2 settings.preference)
  let prepared ← World.callHal .v1_2 "prepareModel_1_2" (endpoint.prepareModel wire preference)
  let prepared ← Action.ofResult (requirePrepared "prepareModel_1_2" prepared)
  pure (.v1_2 prepared)

def aidlPreparation (settings : PreparationSettings) : Result Wire.Aidl.PreparationSettings := do
  let preference ← WireEnum.toWire .aidl settings.preference
  let priority ← WireEnum.toWire .aidl settings.priority
  let deadline ← Wire.Aidl.deadlineToWire settings.deadline
  pure ⟨preference, priority, deadline⟩

def prepareAidl (endpoint : Wire.Aidl.DeviceEndpoint σ) (settings : PreparationSettings)
    (relocated : Model) : Action (World σ) (PreparedEndpoint σ) := do
  let wire ← Action.ofResult (send .aidl relocated Wire.Aidl.Model.ofCanonical)
  let settings ← Action.ofResult (aidlPreparation settings)
  let prepared ← World.call TransportError.errorWithStatus (endpoint.prepareModel wire settings)
  pure (.aidl prepared)

def prepareModel (device : Device σ) (model : Model) (settings : PreparationSettings) :
    Action (World σ) (PreparedModel σ) := do
  let relocated ← World.relocateModel model
  let prepared ←
    match device.endpoint with
    | .v1_0 endpoint => prepareV1_0 endpoint relocated
    | .v1_2 endpoint => prepareV1_2 endpoint settings relocated
    | .aidl endpoint => prepareAidl endpoint settings relocated
  PreparedModel.create prepared device.options

end Device

end NeuralDevice
