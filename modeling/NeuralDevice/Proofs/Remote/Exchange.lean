import NeuralDevice.Device.Device

/-!
Endpoints that keep a record of what passes between them and their callers. A recorded endpoint does what the
endpoint does and notes each of its answers; so does every endpoint that it hands out.
-/

namespace NeuralDevice

/-- What passed between a caller and an endpoint, with the recipients that had been told of a death by the end of a
call. -/
inductive Exchange where
  /-- A call that runs no request, and how its transport failed, if it did. -/
  | called (failure : Option TransportError) (told : List Recipient)
  /-- A request to be run at once, and the status of the answer; an answer without one is a success. -/
  | synchronous (answer : Except TransportError Int32) (told : List Recipient)
  /-- A request to be run behind fences. -/
  | fenced (failure : Option TransportError) (told : List Recipient)
  /-- A request to be run while the caller waits: the answer, and which events of the launch were deaths. -/
  | launched (answer : Except TransportError Int32) (deaths : List Bool)

namespace Exchange

/-- How a call failed, if it did. -/
def failure? {α : Type} : Except TransportError α → Option TransportError
  | .ok _ => none
  | .error failure => some failure

/-- A call that is told apart by its failure alone. -/
def ofAnswer {α : Type} (answer : Except TransportError α) (told : List Recipient) : Exchange :=
  .called (failure? answer) told

/-- A request that was run at once, with the status in the answer. -/
def ofRun {α : Type} (status : α → Int32) (answer : Except TransportError α) (told : List Recipient) : Exchange :=
  .synchronous (answer.map status) told

def ofFenced {α : Type} (answer : Except TransportError α) (told : List Recipient) : Exchange :=
  .fenced (failure? answer) told

def ofLaunch {η : Type} (launch : Launch η) : Exchange :=
  .launched launch.status <| launch.events.map fun
    | .died => true
    | .notified _ => false

/-- Whether the endpoint was found dead: the call failed so, or nothing arrived for a launch that went well
before a death. Who waits for an endpoint that had `died` learns of that first. -/
def isFatal (died : Bool) : Exchange → Bool
  | .called failure _ | .fenced failure _ => failure = some .dead
  | .synchronous answer _ => failure? answer = some .dead
  | .launched answer deaths =>
    match answer with
    | .error failure => failure = .dead
    | .ok status => status = 0 && (died || deaths.head? = some true)

theorem isFatal_ofRun {α : Type} (status : α → Int32) (answer : Except TransportError α) (told : List Recipient)
    (died : Bool) : (ofRun status answer told).isFatal died = decide (failure? answer = some .dead) := by
  cases answer <;> rfl

/-- The recipients that the exchange leaves told. No exchange follows a launch. -/
def told : Exchange → List Recipient
  | .called _ told | .synchronous _ told | .fenced _ told => told
  | .launched _ _ => []

end Exchange

/-- The state of recorded endpoints. -/
structure Recorded (σ : Type) where
  exchanges : List Exchange
  remote : σ

variable {σ α β η : Type}

def Shared.recorded (shared : Shared σ) (exchanges : List Exchange) : Shared (Recorded σ) :=
  { shared with remote := ⟨exchanges, shared.remote⟩ }

def Shared.unrecorded (shared : Shared (Recorded σ)) : Shared σ :=
  { shared with remote := shared.remote.remote }

def World.recorded (world : World σ) (exchanges : List Exchange) : World (Recorded σ) where
  shared := world.shared.recorded exchanges
  host := world.host
  monitors := world.monitors
  now := world.now

/-- Does what `step` does, and notes its answer and who has been told of a death by then. -/
def Recorded.step (note : α → List Recipient → Exchange) (convert : α → β) (step : StateM (Shared σ) α) :
    StateM (Shared (Recorded σ)) β := fun shared =>
  let (answer, later) := step.run shared.unrecorded
  (convert answer, later.recorded (shared.remote.exchanges ++ [note answer later.notices]))

/-- Does what `launch` does, and notes how it went. -/
def Launch.recorded (launch : StateM (Shared σ) (Launch η)) : StateM (Shared (Recorded σ)) (Launch η) :=
  Recorded.step (fun reply _ => .ofLaunch reply) id launch

def Call.recorded (note : Except TransportError α → List Recipient → Exchange) (convert : α → β) (call : Call σ α) :
    Call (Recorded σ) β :=
  ExceptT.mk (Recorded.step note (Except.map convert) (ExceptT.run call))

namespace Wire.Hal.V1_0

def PreparedEndpoint.recorded (endpoint : PreparedEndpoint σ) : PreparedEndpoint (Recorded σ) where
  execute request := Launch.recorded (endpoint.execute request)
  linkToDeath recipient := Call.recorded .ofAnswer id (endpoint.linkToDeath recipient)

def DeviceEndpoint.recorded (endpoint : DeviceEndpoint σ) : DeviceEndpoint (Recorded σ) where
  getCapabilities := Call.recorded .ofAnswer id endpoint.getCapabilities
  getSupportedOperations model := Call.recorded .ofAnswer id (endpoint.getSupportedOperations model)
  prepareModel model :=
    Call.recorded .ofAnswer (Prod.map id (Option.map PreparedEndpoint.recorded)) (endpoint.prepareModel model)
  linkToDeath recipient := Call.recorded .ofAnswer id (endpoint.linkToDeath recipient)

end Wire.Hal.V1_0

namespace Wire.Hal.V1_2

def PreparedEndpoint.recorded (endpoint : PreparedEndpoint σ) : PreparedEndpoint (Recorded σ) where
  execute request measure := Launch.recorded (endpoint.execute request measure)
  executeSynchronously request measure :=
    Call.recorded (.ofRun Report.status) id (endpoint.executeSynchronously request measure)
  linkToDeath recipient := Call.recorded .ofAnswer id (endpoint.linkToDeath recipient)

def DeviceEndpoint.recorded (endpoint : DeviceEndpoint σ) : DeviceEndpoint (Recorded σ) where
  getVersionString := Call.recorded .ofAnswer id endpoint.getVersionString
  getType := Call.recorded .ofAnswer id endpoint.getType
  getSupportedExtensions := Call.recorded .ofAnswer id endpoint.getSupportedExtensions
  getCapabilities := Call.recorded .ofAnswer id endpoint.getCapabilities
  getSupportedOperations model := Call.recorded .ofAnswer id (endpoint.getSupportedOperations model)
  prepareModel model preference :=
    Call.recorded .ofAnswer (Prod.map id (Option.map PreparedEndpoint.recorded))
      (endpoint.prepareModel model preference)
  linkToDeath recipient := Call.recorded .ofAnswer id (endpoint.linkToDeath recipient)

end Wire.Hal.V1_2

namespace Wire.Aidl

/-- The call for the times of the execution is recorded too. -/
def FencedReply.recorded (reply : FencedReply σ) : FencedReply (Recorded σ) where
  getExecutionInfo := reply.getExecutionInfo.map (Call.recorded .ofAnswer id)
  fence := reply.fence

def PreparedEndpoint.recorded (endpoint : PreparedEndpoint σ) : PreparedEndpoint (Recorded σ) where
  executeSynchronously request settings :=
    Call.recorded (.ofRun fun _ => 0) id (endpoint.executeSynchronously request settings)
  executeFenced request waitFor settings timeoutAfterFence :=
    Call.recorded .ofFenced FencedReply.recorded
      (endpoint.executeFenced request waitFor settings timeoutAfterFence)
  linkToDeath recipient := Call.recorded .ofAnswer id (endpoint.linkToDeath recipient)

def DeviceEndpoint.recorded (endpoint : DeviceEndpoint σ) : DeviceEndpoint (Recorded σ) where
  getVersionString := Call.recorded .ofAnswer id endpoint.getVersionString
  getType := Call.recorded .ofAnswer id endpoint.getType
  getSupportedExtensions := Call.recorded .ofAnswer id endpoint.getSupportedExtensions
  getCapabilities := Call.recorded .ofAnswer id endpoint.getCapabilities
  getSupportedOperations model := Call.recorded .ofAnswer id (endpoint.getSupportedOperations model)
  prepareModel model settings :=
    Call.recorded .ofAnswer PreparedEndpoint.recorded (endpoint.prepareModel model settings)
  linkToDeath recipient := Call.recorded .ofAnswer id (endpoint.linkToDeath recipient)

end Wire.Aidl

def PreparedEndpoint.recorded : PreparedEndpoint σ → PreparedEndpoint (Recorded σ)
  | .v1_0 endpoint => .v1_0 endpoint.recorded
  | .v1_2 endpoint => .v1_2 endpoint.recorded
  | .aidl endpoint => .aidl endpoint.recorded

def DeviceEndpoint.recorded : DeviceEndpoint σ → DeviceEndpoint (Recorded σ)
  | .v1_0 endpoint => .v1_0 endpoint.recorded
  | .v1_2 endpoint => .v1_2 endpoint.recorded
  | .aidl endpoint => .aidl endpoint.recorded

/-- The prepared model, used through the recorded endpoint. -/
def PreparedModel.recorded (prepared : PreparedModel σ) : PreparedModel (Recorded σ) :=
  ⟨prepared.endpoint.recorded, prepared.options, prepared.recipient⟩

/-- The device, used through the recorded endpoint. -/
def Device.recorded (device : Device σ) : Device (Recorded σ) :=
  ⟨device.name, device.info, device.endpoint.recorded, device.options, device.recipient⟩

end NeuralDevice
