import NeuralDevice.Recovery.Device

/-!
A client's session with one device and the models prepared in it. A direct session ends with its device; a
reconnecting one renews its device and its models when they die.
-/

namespace NeuralDevice

variable {σ α : Type}

/-- Models are known by their position, in the order in which they were prepared. -/
inductive Session (σ : Type) where
  | direct (device : Device σ) (models : List (PreparedModel σ))
  | reconnecting (devices : Factory (Device σ) (World σ)) (profile : DeviceProfile)
      (device : Binding (Device σ)) (models : List (Repreparable × Binding (PreparedModel σ)))

abbrev Live (σ : Type) := Session σ × World σ

namespace Session

def ofDevice (device : Device σ) : Session σ := .direct device []

/-- A session that asks `devices` for a device, and for another one whenever it needs one. -/
def connect (devices : Factory (Device σ) (World σ)) : Action (World σ) (Session σ) :=
  Action.ofStep fun world =>
    let (profile, device, world) := (Reconnecting.create devices).apply (.unbound, world)
    (profile.map fun profile => .reconnecting devices profile device [], world)

def profile : Session σ → DeviceProfile
  | .direct device _ => device.profile
  | .reconnecting _ profile _ _ => profile

/-- The state of the handle on the device, if it can be renewed. -/
def stateName? : Session σ → Option String
  | .direct _ _ => none
  | .reconnecting _ _ device _ => some device.stateName

def supportedOperations (model : Model) : Action (Live σ) (List Bool) :=
  Action.ofStep fun (session, world) =>
    match session with
    | .direct device _ =>
      let (flags, world) := (device.supportedOperations model).apply world
      (flags, session, world)
    | .reconnecting devices profile device models =>
      let (flags, device, world) :=
        (Reconnecting.supportedOperations devices model).apply (device, world)
      (flags, .reconnecting devices profile device models, world)

/-- Prepares one more model and gives its number. -/
def prepareModel (model : Model) (settings : PreparationSettings) : Action (Live σ) Nat :=
  Action.ofStep fun (session, world) =>
    match session with
    | .direct device models =>
      match (device.prepareModel model settings).apply world with
      | (.ok prepared, world) => (.ok models.length, .direct device (models ++ [prepared]), world)
      | (.error error, world) => (.error error, session, world)
    | .reconnecting devices profile device models =>
      match (Reconnecting.prepareModel devices model settings).apply (device, world) with
      | (.ok prepared, device, world) =>
        (.ok models.length, .reconnecting devices profile device (models ++ [prepared]), world)
      | (.error error, device, world) =>
        (.error error, .reconnecting devices profile device models, world)

/-- Acts on a prepared model; `none` if there is none of that number. -/
def onModel (number : Nat) (act : PreparedModel σ → Action (World σ) α) :
    StateM (Live σ) (Option (Result α)) := fun (session, world) =>
  match session with
  | .direct _ models =>
    match models[number]? with
    | none => (none, session, world)
    | some prepared =>
      let (result, world) := (act prepared).apply world
      (some result, session, world)
  | .reconnecting devices profile device models =>
    match models[number]? with
    | none => (none, session, world)
    | some (kept, model) =>
      let (result, model, device, world) :=
        (Reconnecting.onPrepared devices kept act).apply (model, device, world)
      (some result, .reconnecting devices profile device (models.set number (kept, model)), world)

def execute (number : Nat) (request : Request) (settings : ExecutionSettings) :
    StateM (Live σ) (Option (Result (Waited ExecutionResult))) :=
  onModel number fun prepared => prepared.execute request settings

/-- Launches a request on a prepared model once the fences in the settings have fired. -/
def executeFenced (number : Nat) (request : Request) (settings : FencedSettings) :
    StateM (Live σ) (Option (Result (Waited (Fence × Action (World σ) (Timing × Timing))))) :=
  onModel number fun prepared => prepared.executeFenced request settings

end Session

end NeuralDevice
