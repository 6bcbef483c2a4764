import NeuralDevice.Action
import NeuralDevice.Version

/-!
Finding the devices of all providers. Newer providers are asked first, and a name belongs to the first
provider that can make its device.
-/

namespace NeuralDevice

/-- Makes the devices registered under one interface version. -/
structure Provider (ω δ : Type) where
  version : Version
  instanceNames : StateM ω (List String)
  getDevice : String → Action ω δ

/-- The devices found so far and the names they have taken. -/
structure Found (δ : Type) where
  names : List String
  devices : List δ
  deriving Repr

namespace Found

variable {ω δ : Type}

def empty : Found δ := ⟨[], []⟩

/-- Makes the device of a name unless the name is taken. A failure leaves the name free. -/
def visitName (provider : Provider ω δ) (found : Found δ) (name : String) : StateM ω (Found δ) := do
  if found.names.contains name then return found
  match ← ExceptT.run (provider.getDevice name) with
  | .ok device => pure ⟨name :: found.names, found.devices ++ [device]⟩
  | .error _ => pure found

def visit (found : Found δ) (provider : Provider ω δ) : StateM ω (Found δ) := do
  let names ← provider.instanceNames
  names.foldlM (visitName provider) found

end Found

/-- Newest version first; providers of one version keep their order. -/
def newestFirst (providers : List (Provider ω δ)) : List (Provider ω δ) :=
  providers.mergeSort fun first second => second.version ≤ first.version

/-- One device for each name that some provider can make. -/
def getDevices (providers : List (Provider ω δ)) : StateM ω (List δ) := do
  let found ← (newestFirst providers).foldlM Found.visit Found.empty
  pure found.devices

end NeuralDevice
