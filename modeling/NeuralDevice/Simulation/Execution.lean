import NeuralDevice.Simulation.Service

/-!
Simulated executions. The record shows what an endpoint sees of a request; the reply tells what it writes to
the outputs and what it reports.
-/

namespace NeuralDevice.Simulation

/-- The memory an argument lies in, if its pool is one. -/
def memoryOf (request : Request) (argument : Argument) : Option Memory :=
  match request.pools[argument.location.poolIndex.toNat]? with
  | some (.memory memory) => some memory
  | some (.token _) | none => none

/-- The bytes of an argument, if it lies in a memory that can be read. -/
def bytesOf (files : FileStore) (request : Request) (argument : Argument) : Option (List UInt8) := do
  if argument.lifetime ≠ .pool then failure
  let memory ← memoryOf request argument
  (memory.read files argument.location.offset.toNat argument.location.length.toNat).toOption

/-- What an endpoint sees of a request. -/
def seen (files : FileStore) (request : Request) : Json :=
  .ofMembers
    [("inputs", form.write (request.inputs.map (bytesOf files request))),
      ("outputs", form.write (request.outputs.map (bytesOf files request)))]

/-- Writes to the place of an output, whatever its lifetime. What cannot be written is left out. -/
def writeOutput (request : Request) (files : FileStore) :
    Argument × Option (List UInt8) → FileStore
  | (_, none) => files
  | (output, some data) =>
    match memoryOf request output with
    | none => files
    | some memory =>
      match memory.write files output.location.offset.toNat data with
      | .ok files => files
      | .error _ => files

def writeOutputs (request : Request) (data : List (Option (List UInt8))) (files : FileStore) :
    FileStore :=
  (request.outputs.zip data).foldl (writeOutput request) files

/-- Notes an execution, takes its reply and writes the outputs. `received` is the request as the endpoint
understands it. -/
def execution [HasForm ρ] (call : String) (number : Nat) (wire : ρ)
    (toCanonical : FileStore → ρ → Result Request) (settings : Json) : Call Service Json := do
  let files := (← get).files
  let received := (toCanonical files wire).toOption
  let reply ← Service.ask call <| .ofMembers
    [("call", .str call), ("prepared", .nat number), ("request", form.write wire),
      ("seen", (received.map (seen files)).getD .null), ("with", settings)]
  let data := reply.at (List (Option (List UInt8))) "write"
  match received with
  | none => pure ()
  | some request => modify fun shared => { shared with files := writeOutputs request data shared.files }
  pure reply

/-- What happens during a launch: notifications, one without details unless stated, and perhaps a death. -/
def launchEvents (report : Json → η) (reply : Json) : List (LaunchEvent η) :=
  let reports := if reply.has "notify" then (reply.get "notify").toList else [.null]
  let death := if reply.at Bool "kill" then [.died] else []
  reports.map (fun document => .notified (report document)) ++ death

/-- A launch that goes as the reply says. -/
def launchOf (report : Json → η) (reply : Call Service Json) :
    StateM (Shared Service) (Launch η) := do
  match ← ExceptT.run reply with
  | .ok reply => pure ⟨launchEvents report reply, .ok (reply.at Int32 "status")⟩
  | .error error => pure ⟨[], .error error⟩

def preparedV1_0 (number : Nat) : Wire.Hal.V1_0.PreparedEndpoint Service where
  execute request := launchOf (·.at Int32 "status")
    (execution "execute" number request Wire.Hal.requestToCanonical .null)
  linkToDeath := Service.linkPrepared number

def preparedV1_2 (number : Nat) : Wire.Hal.V1_2.PreparedEndpoint Service where
  execute request measure := launchOf (Json.as Wire.Hal.V1_2.Report)
    (execution "execute_1_2" number request Wire.Hal.requestToCanonical (settings measure))
  executeSynchronously request measure := do
    let reply ← execution "execute_synchronously" number request Wire.Hal.requestToCanonical
      (settings measure)
    pure (reply.as Wire.Hal.V1_2.Report)
  linkToDeath := Service.linkPrepared number
where
  settings (measure : Int32) : Json := .ofMembers [("measure", form.write measure)]

/-- A result that tells nothing but that all outputs fit. -/
def plainResult : Wire.Aidl.ExecutionResult := ⟨true, [], none⟩

def aidlSettings (settings : Wire.Aidl.ExecutionSettings) : List (String × Json) :=
  [("measure", .bool settings.measure), ("deadline_ns", form.write settings.deadline),
    ("loop_timeout_ns", form.write settings.loopTimeout)]

def replyFence (reply : Json) : Call Service (Option Fence) := do
  if !reply.has "fence" then return none
  let shared ← get
  let (fence, fences) := shared.fences.create (.ofName (reply.at String "fence"))
  set { shared with fences }
  pure (some fence)

def preparedAidl (number : Nat) : Wire.Aidl.PreparedEndpoint Service where
  executeSynchronously request settings := do
    let reply ← execution "execute_synchronously" number request Wire.Aidl.requestToCanonical
      (.ofMembers (aidlSettings settings))
    pure (reply.atOr "value" plainResult)
  executeFenced request waitFor settings duration := do
    let states := waitFor.map (← get).fences.state
    let reply ← execution "execute_fenced" number request Wire.Aidl.requestToCanonical <|
      .ofMembers <| aidlSettings settings ++
        [("wait_for", form.write (states.map FenceState.name)), ("duration_ns", form.write duration)]
    let fence ← replyFence reply
    let times := do
      let reply ← Service.answer "get_execution_info"
      pure (reply.as Wire.Aidl.FencedTimes)
    pure ⟨if reply.atOr "callback" true then some times else none, fence⟩
  linkToDeath := Service.linkPrepared number

def preparedEndpoint (dialect : Dialect) (number : Nat) : PreparedEndpoint Service :=
  match dialect with
  | .v1_0 => .v1_0 (preparedV1_0 number)
  | .v1_2 => .v1_2 (preparedV1_2 number)
  | .aidl => .aidl (preparedAidl number)

end NeuralDevice.Simulation
