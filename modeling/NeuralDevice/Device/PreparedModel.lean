import NeuralDevice.Conversion.Aidl
import NeuralDevice.Conversion.Hal
import NeuralDevice.Device.World
import NeuralDevice.Execution.Options
import NeuralDevice.Execution.Settings
import NeuralDevice.Remote.Endpoint
import NeuralDevice.Validation.Device
import NeuralDevice.Validation.Request

/-!
Models prepared by an endpoint. Requests are relocated, validated and converted before the endpoint is called,
and what it reports is converted and validated before the caller gets it.
-/

namespace NeuralDevice

/-- Why an execution has no result although the endpoint could be called. -/
inductive ExecutionFault where
  | outputsTooSmall (shapes : List OutputShape)
  | fencedUnsupported
  | noCallback
  | fenceTimedOut
  | fenceFailed
  deriving DecidableEq, Repr

def ExecutionFault.error : ExecutionFault → Error
  | .outputsTooSmall shapes =>
    .outputInsufficientSize "execution failed with OUTPUT_INSUFFICIENT_SIZE" shapes
  | .fencedUnsupported => .unsupported "executeFenced is not supported on 1.x HAL service"
  | .noCallback => .generalFailure "executeFenced returned no callback"
  | .fenceTimedOut =>
    .deadlineExceeded "fenced execution did not signal in time to copy outputs back"
  | .fenceFailed => .generalFailure "fenced execution signalled an error"

/-- A notification of version 1.0 tells neither shapes nor times. -/
def Wire.Hal.V1_0.readNotification (code : Int32) : Result ExecutionResult :=
  match ErrorStatus.ofWire .v1_0 code with
  | .none => pure ⟨[], .notMeasured⟩
  | status => throw (failedWith "execution" status)

/-- The shapes of outputs that were too small, converted but not validated. -/
def outputsTooSmall [Word index] (shapes : List (Wire.OutputShape index)) : Result α := do
  let shapes ← shapes.mapM Wire.OutputShape.toCanonical
  throw (ExecutionFault.outputsTooSmall shapes).error

/-- A report of version 1.2, whichever call it came from. -/
def Wire.Hal.V1_2.Report.toCanonical (report : Wire.Hal.V1_2.Report) : Result ExecutionResult :=
  match ErrorStatus.ofWire .v1_2 report.status with
  | .none => do
    let shapes ← report.outputShapes.mapM fun shape => receive .v1_2 shape.toCanonical
    let timing ← receive .v1_2 (Wire.Hal.timingToCanonical report.timing)
    pure ⟨shapes, timing⟩
  | .outputInsufficientSize => outputsTooSmall report.outputShapes
  | status => throw (failedWith "execution" status)

/-- A report of the AIDL version; missing times were not measured. -/
def Wire.Aidl.ExecutionResult.toCanonical (result : Wire.Aidl.ExecutionResult) :
    Result NeuralDevice.ExecutionResult := do
  if !result.isSufficient then return ← outputsTooSmall result.outputShapes
  let shapes ← result.outputShapes.mapM fun shape => receive .aidl shape.toCanonical
  match result.timing with
  | none => pure ⟨shapes, .notMeasured⟩
  | some timing => do
    let timing ← receive .aidl (Wire.Aidl.timingToCanonical timing)
    pure ⟨shapes, timing⟩

/-- The times of a fenced execution, from its launch and from its fences. -/
def Wire.Aidl.FencedTimes.toCanonical (times : Wire.Aidl.FencedTimes) :
    Result (NeuralDevice.Timing × NeuralDevice.Timing) := do
  checkStatus .aidl "fenced execution" times.status
  let launched ← receive .aidl (Wire.Aidl.timingToCanonical times.launched)
  let fenced ← receive .aidl (Wire.Aidl.timingToCanonical times.fenced)
  pure (launched, fenced)

def Wire.Hal.V1_2.Report.outcome (report : Wire.Hal.V1_2.Report) : SyncOutcome (Waited ExecutionResult) :=
  match ErrorStatus.ofWire .v1_2 report.status with
  | .none | .outputInsufficientSize => .completed (report.toCanonical.map .ended)
  | status => .declined (failedWith "executeSynchronously" status)

inductive PreparedEndpoint (σ : Type) where
  | v1_0 (endpoint : Wire.Hal.V1_0.PreparedEndpoint σ)
  | v1_2 (endpoint : Wire.Hal.V1_2.PreparedEndpoint σ)
  | aidl (endpoint : Wire.Aidl.PreparedEndpoint σ)

namespace PreparedEndpoint

def dialect : PreparedEndpoint σ → Dialect
  | .v1_0 _ => .v1_0
  | .v1_2 _ => .v1_2
  | .aidl _ => .aidl

def linkToDeath : PreparedEndpoint σ → Recipient → Call σ Bool
  | .v1_0 endpoint => endpoint.linkToDeath
  | .v1_2 endpoint => endpoint.linkToDeath
  | .aidl endpoint => endpoint.linkToDeath

end PreparedEndpoint

/-- A model ready to run requests. No two prepared models have the same recipient. -/
structure PreparedModel (σ : Type) where
  endpoint : PreparedEndpoint σ
  options : ExecutionOptions
  recipient : Recipient

namespace PreparedModel

variable {σ : Type}

/-- Watches an endpoint that a device has just made. -/
def create (endpoint : PreparedEndpoint σ) (options : ExecutionOptions) :
    Action (World σ) (PreparedModel σ) := do
  let recipient ← World.link endpoint.linkToDeath
  pure ⟨endpoint, options, recipient⟩

/-- How long a caller with a deadline waits. -/
def timeout (prepared : PreparedModel σ) (deadline : Option TimePoint) (world : World σ) :
    Option Duration :=
  remaining deadline prepared.options.asyncWaitTimeout world.now

/-- Version 1.0 has the asynchronous call only. -/
def dispatchV1_0 (prepared : PreparedModel σ) (endpoint : Wire.Hal.V1_0.PreparedEndpoint σ)
    (settings : ExecutionSettings) (request : Request) : Action (World σ) (Waited ExecutionResult) := do
  let wire ← Action.ofResult (send .v1_0 request Wire.Hal.requestToWire)
  World.launch .v1_0 "execute" prepared.recipient Wire.Hal.V1_0.readNotification
    (prepared.timeout settings.deadline) (endpoint.execute wire)

def attemptV1_2 (endpoint : Wire.Hal.V1_2.PreparedEndpoint σ) (wire : Wire.Hal.Request)
    (measure : Int32) : Action (World σ) (SyncOutcome (Waited ExecutionResult)) := do
  match ← (World.call TransportError.error (endpoint.executeSynchronously wire measure)).attempt with
  | .error error => pure (.transportFailed error)
  | .ok report => pure report.outcome

def dispatchV1_2 (prepared : PreparedModel σ) (endpoint : Wire.Hal.V1_2.PreparedEndpoint σ)
    (settings : ExecutionSettings) (request : Request) : Action (World σ) (Waited ExecutionResult) := do
  let wire ← Action.ofResult (send .v1_2 request Wire.Hal.requestToWire)
  let measure ← Action.ofResult (WireEnum.toWire .v1_2 settings.measure)
  submit prepared.options.preferSynchronous (attemptV1_2 endpoint wire measure)
    (World.launch .v1_2 "execute_1_2" prepared.recipient Wire.Hal.V1_2.Report.toCanonical
      (prepared.timeout settings.deadline) (endpoint.execute wire measure))

def aidlSettings (settings : ExecutionSettings) : Result Wire.Aidl.ExecutionSettings := do
  let deadline ← Wire.Aidl.deadlineToWire settings.deadline
  let loopTimeout ← Wire.Aidl.durationToWire settings.loopTimeout
  pure ⟨settings.measure = .yes, deadline, loopTimeout⟩

/-- The AIDL version has the synchronous call only. -/
def dispatchAidl (endpoint : Wire.Aidl.PreparedEndpoint σ) (settings : ExecutionSettings)
    (request : Request) : Action (World σ) (Waited ExecutionResult) := do
  let wire ← Action.ofResult (send .aidl request Wire.Aidl.requestToWire)
  let settings ← Action.ofResult (aidlSettings settings)
  let result ←
    World.call TransportError.errorWithStatus (endpoint.executeSynchronously wire settings)
  Action.ofResult (result.toCanonical.map .ended)

/-- Runs a request and waits for its results. With neither a deadline nor a bound, they may never come. -/
def execute (prepared : PreparedModel σ) (request : Request) (settings : ExecutionSettings) :
    Action (World σ) (Waited ExecutionResult) :=
  World.executeRelocated request fun relocated =>
    match prepared.endpoint with
    | .v1_0 endpoint => prepared.dispatchV1_0 endpoint settings relocated
    | .v1_2 endpoint => prepared.dispatchV1_2 endpoint settings relocated
    | .aidl endpoint => dispatchAidl endpoint settings relocated

/-- The fence of a reply; an execution without one is finished. -/
def replyFence (fence : Option Fence) : Action (World σ) Fence :=
  match fence with
  | some fence => pure fence
  | none =>
    Action.ofStep fun world =>
      let (fence, fences) := world.shared.fences.create .signaled
      (.ok fence, { world with shared := { world.shared with fences } })

/-- Moves results back once a fence was waited for. They are there only if it was seen signaled. -/
def restoreOn (waited : Waited FenceState) (request relocated : Request) : Action (World σ) (Waited Unit) :=
  match waited with
  | .ended .signaled => do
    World.restoreRequest request relocated
    pure (.ended ())
  | .ended .active => throw ExecutionFault.fenceTimedOut.error
  | .ended .error => throw ExecutionFault.fenceFailed.error
  | .never => pure .never

def restoreAfter (prepared : PreparedModel σ) (fence : Fence) (deadline : Option TimePoint)
    (request relocated : Request) : Action (World σ) (Waited Unit) := do
  let world ← get
  restoreOn (world.shared.fences.wait fence (prepared.timeout deadline world)) request relocated

/-- Asks for the times of a fenced execution: from its launch and from its fences. -/
def fencedTimes (getExecutionInfo : Call σ Wire.Aidl.FencedTimes) :
    Action (World σ) (Timing × Timing) := do
  let times ← World.call TransportError.errorWithStatus getExecutionInfo
  Action.ofResult times.toCanonical

/-- Launches a request behind fences in the AIDL version. A caller with host memory waits for the results. -/
def executeFencedAidl (prepared : PreparedModel σ) (endpoint : Wire.Aidl.PreparedEndpoint σ)
    (request : Request) (settings : FencedSettings) :
    Action (World σ) (Waited (Fence × Action (World σ) (Timing × Timing))) := do
  let relocated ← World.relocateRequest request
  let wire ← Action.ofResult (send .aidl relocated Wire.Aidl.requestToWire)
  let wireSettings ← Action.ofResult (aidlSettings settings.toExecutionSettings)
  let timeoutAfterFence ← Action.ofResult (Wire.Aidl.durationToWire settings.timeoutAfterFence)
  let reply ← World.call TransportError.errorWithStatus
    (endpoint.executeFenced wire settings.waitFor wireSettings timeoutAfterFence)
  match reply.getExecutionInfo with
  | none => throw ExecutionFault.noCallback.error
  | some getExecutionInfo => do
    let fence ← replyFence reply.fence
    if request.hasNoPointerData then return .ended (fence, fencedTimes getExecutionInfo)
    let waited ← prepared.restoreAfter fence settings.deadline request relocated
    pure (waited.map fun _ => (fence, fencedTimes getExecutionInfo))

/-- Launches a request once all fences in the settings have fired, and gives a fence for its end. -/
def executeFenced (prepared : PreparedModel σ) (request : Request) (settings : FencedSettings) :
    Action (World σ) (Waited (Fence × Action (World σ) (Timing × Timing))) :=
  match prepared.endpoint with
  | .v1_0 _ | .v1_2 _ => throw ExecutionFault.fencedUnsupported.error
  | .aidl endpoint => prepared.executeFencedAidl endpoint request settings

end PreparedModel

end NeuralDevice
