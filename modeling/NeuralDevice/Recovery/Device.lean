import NeuralDevice.Device.Device
import NeuralDevice.Recovery.Binding

/-!
Devices that reconnect when their service dies, and prepared models that are prepared anew. A model to be
prepared again is kept with its constants outside host memory, so the caller's buffers are read once.
-/

namespace NeuralDevice

variable {σ α : Type}

instance : Identified (PreparedModel σ) := ⟨PreparedModel.recipient⟩

instance : Identified (Device σ) := ⟨Device.recipient⟩

/-- A device that may be replaced, beside the world. -/
abbrev Reconnecting (σ : Type) := Held (Device σ) (World σ)

/-- What a reconnecting device is known as: what its first device said. -/
structure DeviceProfile where
  name : String
  info : DeviceInfo
  featureLevel : Version
  deriving DecidableEq, Repr

def Device.profile (device : Device σ) : DeviceProfile := ⟨device.name, device.info, device.featureLevel⟩

/-- A model to be prepared again when its prepared form dies. -/
structure Repreparable where
  model : Model
  settings : PreparationSettings
  deriving DecidableEq, Repr

namespace Reconnecting

def create (devices : Factory (Device σ) (World σ)) : Action (Reconnecting σ) DeviceProfile := do
  let device ← Held.getOrCreate devices true
  pure device.profile

def supportedOperations (devices : Factory (Device σ) (World σ)) (model : Model) :
    Action (Reconnecting σ) (List Bool) :=
  Held.protectWaiting devices fun device => device.supportedOperations model

/-- Prepares a kept model on a device that is reconnected if need be. -/
def prepareAgain (devices : Factory (Device σ) (World σ)) (kept : Repreparable) :
    Factory (PreparedModel σ) (Reconnecting σ) := fun blocking =>
  Held.protect devices blocking fun device => device.prepareModel kept.model kept.settings

/-- Prepares a model and keeps what is needed to prepare it again. -/
def prepareModel (devices : Factory (Device σ) (World σ)) (model : Model)
    (settings : PreparationSettings) :
    Action (Reconnecting σ) (Repreparable × Binding (PreparedModel σ)) := do
  let relocated ← Action.onSecond (World.relocateModel model)
  let kept : Repreparable := ⟨relocated, settings⟩
  let binding ← Binding.create (prepareAgain devices kept) true
  pure (kept, binding)

/-- Acts on a prepared form that is renewed if need be. -/
def onPrepared (devices : Factory (Device σ) (World σ)) (kept : Repreparable)
    (act : PreparedModel σ → Action (World σ) α) :
    Action (Held (PreparedModel σ) (Reconnecting σ)) α :=
  Held.protectWaiting (prepareAgain devices kept) fun prepared => Action.onSecond (act prepared)

end Reconnecting

end NeuralDevice
