import NeuralDevice.Simulation.Execution

/-!
Simulated devices. Unless the script says otherwise, every performance figure is one and every operation is
supported.
-/

namespace NeuralDevice.Simulation

/-- A performance figure that the script does not state. -/
def unitPerformance : Option PerformanceInfo := some ⟨.one, .one⟩

/-- The status and the value of a reply. -/
def valueOr [HasForm α] (standard : α) (reply : Json) : Int32 × α :=
  (reply.at Int32 "status", reply.atOr "value" standard)

/-- A question about the device itself, noted by its name. -/
def describe [HasForm α] (call name : String) (standard : α) : Call Service (Int32 × α) := do
  let reply ← Service.ask call (.str name)
  pure (valueOr standard reply)

def supportedOperations [HasForm μ] (name : String) (operations : Nat) (model : μ) :
    Call Service (Int32 × List Bool) := do
  let reply ← Service.ask "get_supported_operations" <|
    .ofMembers [("call", .str name), ("model", form.write model)]
  pure (valueOr (List.replicate operations true) reply)

def newNumber : Call Service Nat := do
  let number := (← get).remote.preparedCount
  Service.change fun service => { service with preparedCount := number + 1 }
  pure number

def preparation [HasForm μ] (name : String) (model : μ) (settings : List (String × Json)) :
    Call Service Json :=
  Service.ask "prepare_model" <|
    .ofMembers ([("call", .str name), ("model", form.write model)] ++ settings)

/-- The status of a preparation and what it made, unless the reply says that there is nothing. -/
def prepared (make : Nat → α) (reply : Json) : Call Service (Int32 × Option α) := do
  let (status, isPrepared) := valueOr true reply
  if !isPrepared then return (status, none)
  let number ← newNumber
  pure (status, some (make number))

def deviceV1_0 : Wire.Hal.V1_0.DeviceEndpoint Service where
  getCapabilities := describe "get_capabilities" "get_capabilities" ⟨unitPerformance, unitPerformance⟩
  getSupportedOperations model :=
    supportedOperations "get_supported_operations" model.operations.length model
  prepareModel model := do
    let reply ← preparation "prepare_model" model []
    prepared preparedV1_0 reply
  linkToDeath := Service.linkDevice

def deviceV1_2 : Wire.Hal.V1_2.DeviceEndpoint Service where
  getVersionString := describe "get_version_string" "get_version_string" "mock"
  getType := describe "get_type" "get_type" 2
  getSupportedExtensions := describe "get_supported_extensions" "get_supported_extensions" []
  getCapabilities :=
    describe "get_capabilities" "get_capabilities_1_2" ⟨unitPerformance, unitPerformance, []⟩
  getSupportedOperations model :=
    supportedOperations "get_supported_operations_1_2" model.operations.length model
  prepareModel model preference := do
    let reply ← preparation "prepare_model_1_2" model [("preference", form.write preference)]
    prepared preparedV1_2 reply
  linkToDeath := Service.linkDevice

def deviceAidl : Wire.Aidl.DeviceEndpoint Service where
  getVersionString := (·.2) <$> describe "get_version_string" "get_version_string" "mock"
  getType := (·.2) <$> describe "get_type" "get_type" 2
  getSupportedExtensions :=
    (·.2) <$> describe "get_supported_extensions" "get_supported_extensions" []
  getCapabilities := (·.2) <$> describe "get_capabilities" "get_capabilities"
    ⟨unitPerformance, unitPerformance, [], unitPerformance, unitPerformance⟩
  getSupportedOperations model :=
    (·.2) <$> supportedOperations "get_supported_operations"
      (model.main.map (·.operations.length) |>.getD 0) model
  prepareModel model settings := do
    let _ ← preparation "prepare_model" model
      [("preference", form.write settings.preference), ("priority", form.write settings.priority),
        ("deadline_ns", form.write settings.deadline)]
    let number ← newNumber
    pure (preparedAidl number)
  linkToDeath := Service.linkDevice

def deviceEndpoint : Dialect → DeviceEndpoint Service
  | .v1_0 => .v1_0 deviceV1_0
  | .v1_2 => .v1_2 deviceV1_2
  | .aidl => .aidl deviceAidl

end NeuralDevice.Simulation
