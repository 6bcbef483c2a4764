import NeuralDevice.Remote.Transport
import NeuralDevice.Wire.Aidl
import NeuralDevice.Wire.Hal

/-! What endpoints of each dialect can be asked. Statuses and enumerations are wire codes. -/

namespace NeuralDevice

namespace Wire.Hal.V1_0

/-- A prepared model of version 1.0. It notifies a status. -/
structure PreparedEndpoint (σ : Type) where
  execute : Request → StateM (Shared σ) (Launch Int32)
  linkToDeath : Recipient → Call σ Bool

structure DeviceEndpoint (σ : Type) where
  getCapabilities : Call σ (Int32 × Capabilities)
  getSupportedOperations : Model → Call σ (Int32 × List Bool)
  prepareModel : Model → Call σ (Int32 × Option (PreparedEndpoint σ))
  linkToDeath : Recipient → Call σ Bool

end Wire.Hal.V1_0

namespace Wire.Hal.V1_2

structure Report where
  status : Int32
  outputShapes : List OutputShape
  timing : Timing
  deriving DecidableEq, Repr

/-- A prepared model of version 1.2. Both calls take the code of the measurement asked for. -/
structure PreparedEndpoint (σ : Type) where
  execute : Request → Int32 → StateM (Shared σ) (Launch Report)
  executeSynchronously : Request → Int32 → Call σ Report
  linkToDeath : Recipient → Call σ Bool

structure DeviceEndpoint (σ : Type) where
  getVersionString : Call σ (Int32 × String)
  getType : Call σ (Int32 × Int32)
  getSupportedExtensions : Call σ (Int32 × List Extension)
  getCapabilities : Call σ (Int32 × Capabilities)
  getSupportedOperations : Model → Call σ (Int32 × List Bool)
  /-- The model and the code of the preference. -/
  prepareModel : Model → Int32 → Call σ (Int32 × Option (PreparedEndpoint σ))
  linkToDeath : Recipient → Call σ Bool

end Wire.Hal.V1_2

namespace Wire.Aidl

/-- Times of a fenced execution: from its launch, from its fences, and a status. -/
structure FencedTimes where
  launched : Timing
  fenced : Timing
  status : Int32
  deriving DecidableEq, Repr

/-- What a fenced execution answers: a fence, if it is not finished yet, and how to ask for its times. -/
structure FencedReply (σ : Type) where
  getExecutionInfo : Option (Call σ FencedTimes)
  fence : Option Fence

/-- The settings of an execution. Points and spans of time are nanoseconds. -/
structure ExecutionSettings where
  measure : Bool
  deadline : Int64
  loopTimeout : Int64
  deriving DecidableEq, Repr

structure PreparedEndpoint (σ : Type) where
  executeSynchronously : Request → ExecutionSettings → Call σ ExecutionResult
  /-- The last argument bounds the time after the fences fired. -/
  executeFenced : Request → List Fence → ExecutionSettings → Int64 → Call σ (FencedReply σ)
  linkToDeath : Recipient → Call σ Bool

/-- The settings of a preparation: wire codes and nanoseconds. -/
structure PreparationSettings where
  preference : Int32
  priority : Int32
  deadline : Int64
  deriving DecidableEq, Repr

structure DeviceEndpoint (σ : Type) where
  getVersionString : Call σ String
  getType : Call σ Int32
  getSupportedExtensions : Call σ (List Extension)
  getCapabilities : Call σ Capabilities
  getSupportedOperations : Model → Call σ (List Bool)
  prepareModel : Model → PreparationSettings → Call σ (PreparedEndpoint σ)
  linkToDeath : Recipient → Call σ Bool

end Wire.Aidl

end NeuralDevice
