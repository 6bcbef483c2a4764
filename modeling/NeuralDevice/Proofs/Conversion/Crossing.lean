import NeuralDevice.Proofs.Conversion.Aidl
import NeuralDevice.Proofs.Conversion.Hal
import NeuralDevice.Validation.Device
import NeuralDevice.Validation.Model
import NeuralDevice.Validation.Request

/-!
What crosses between canonical values and messages crosses without loss, in every dialect and for every kind of
value it has. Validation only decides whether something crosses: a value is checked by the same rules on both
sides, so the checked conversions lose nothing either.
-/

namespace NeuralDevice

open Result

section Checked

variable {γ ω : Type} [Validate γ]

/-- The version that carries a value is not older than the value needs. -/
def Carries (limit : Version) (value : γ) : Prop :=
  ∃ required, validate value = .ok required ∧ ¬limit < required

theorem receive_eq_ok_iff {limit : Version} {converted : Result γ} {value : γ} :
    receive limit converted = .ok value ↔ converted = .ok value ∧ Carries limit value := by
  simp only [receive, Carries, bind_eq_ok_iff, throw_bind, refuse_eq_ok_iff, pure_eq_ok_iff]
  constructor
  · intro accepted
    rcases accepted with ⟨_, accepted, required, valid, carried, rfl⟩
    exact ⟨accepted, required, valid, carried⟩
  · intro parts
    rcases parts with ⟨accepted, required, valid, carried⟩
    exact ⟨value, accepted, required, valid, carried, rfl⟩

theorem send_eq_ok_iff {limit : Version} {value : γ} {convert : γ → Result ω} {message : ω} :
    send limit value convert = .ok message ↔ Carries limit value ∧ convert value = .ok message := by
  simp only [send, Carries, bind_eq_ok_iff, throw_bind, refuse_eq_ok_iff]
  constructor
  · intro accepted
    rcases accepted with ⟨required, valid, carried, sent⟩
    exact ⟨⟨required, valid, carried⟩, sent⟩
  · intro parts
    rcases parts with ⟨⟨required, valid, carried⟩, sent⟩
    exact ⟨required, valid, carried, sent⟩

end Checked

/-- How one kind of value crosses into a dialect and back. -/
structure Crossing (γ : Type) where
  /-- The dialect's message for such a value. -/
  Message : Type
  /-- The version of the dialect. -/
  limit : Version
  toCanonical : FileStore → Message → Result γ
  ofCanonical : γ → Result Message
  /-- The message with all that may be left out written out. -/
  explicit : Message → Message

namespace Crossing

variable {γ : Type} [Validate γ]

/-- Receives a message and checks what it holds. -/
def receive (crossing : Crossing γ) (store : FileStore) (message : crossing.Message) : Result γ :=
  NeuralDevice.receive crossing.limit (crossing.toCanonical store message)

/-- Checks a value and sends it. -/
def send (crossing : Crossing γ) (value : γ) : Result crossing.Message :=
  NeuralDevice.send crossing.limit value crossing.ofCanonical

/-- If the value can be sent, it is received as it was: unchecked and checked. -/
structure Keeps (crossing : Crossing γ) (store : FileStore) (value : γ) : Prop where
  plain : Returns crossing.ofCanonical (crossing.toCanonical store) value value
  checked : Returns crossing.send (crossing.receive store) value value

/-- If the message can be received, it is sent as it came, but written out: unchecked and checked. -/
structure Restores (crossing : Crossing γ) (store : FileStore) (message : crossing.Message) : Prop where
  plain : Returns (crossing.toCanonical store) crossing.ofCanonical message (crossing.explicit message)
  checked : Returns (crossing.receive store) crossing.send message (crossing.explicit message)

theorem Keeps.of_plain {crossing : Crossing γ} {store : FileStore} {value : γ}
    (plain : Returns crossing.ofCanonical (crossing.toCanonical store) value value) :
    crossing.Keeps store value := by
  refine ⟨plain, fun message sent => ?_⟩
  obtain ⟨carried, converted⟩ := send_eq_ok_iff.mp sent
  exact receive_eq_ok_iff.mpr ⟨plain message converted, carried⟩

theorem Restores.of_plain {crossing : Crossing γ} {store : FileStore} {message : crossing.Message}
    (plain : Returns (crossing.toCanonical store) crossing.ofCanonical message (crossing.explicit message)) :
    crossing.Restores store message := by
  refine ⟨plain, fun value received => ?_⟩
  obtain ⟨converted, carried⟩ := receive_eq_ok_iff.mp received
  exact send_eq_ok_iff.mpr ⟨carried, plain value converted⟩

/-! The kinds of values. Output shapes, timing and extensions came with version 1.2. -/

def model : Dialect → Crossing Model
  | .v1_0 =>
    ⟨Wire.Hal.V1_0.Model, .v1_0, Wire.Hal.V1_0.Model.toCanonical, Wire.Hal.V1_0.Model.ofCanonical,
      Wire.Hal.V1_0.Model.explicit⟩
  | .v1_2 =>
    ⟨Wire.Hal.V1_2.Model, .v1_2, Wire.Hal.V1_2.Model.toCanonical, Wire.Hal.V1_2.Model.ofCanonical,
      Wire.Hal.V1_2.Model.explicit⟩
  | .aidl =>
    ⟨Wire.Aidl.Model, .aidl, Wire.Aidl.Model.toCanonical, Wire.Aidl.Model.ofCanonical,
      Wire.Aidl.Model.explicit⟩

def request : Dialect → Crossing Request
  | .v1_0 =>
    ⟨Wire.Hal.Request, .v1_0, Wire.Hal.requestToCanonical, Wire.Hal.requestToWire, Wire.Request.explicit⟩
  | .v1_2 =>
    ⟨Wire.Hal.Request, .v1_2, Wire.Hal.requestToCanonical, Wire.Hal.requestToWire, Wire.Request.explicit⟩
  | .aidl =>
    ⟨Wire.Aidl.Request, .aidl, Wire.Aidl.requestToCanonical, Wire.Aidl.requestToWire,
      Wire.Request.explicit⟩

def capabilities : Dialect → Crossing Capabilities
  | .v1_0 =>
    ⟨Wire.Hal.V1_0.Capabilities, .v1_0, fun _ => Wire.Hal.V1_0.Capabilities.toCanonical,
      Wire.Hal.V1_0.Capabilities.ofCanonical, id⟩
  | .v1_2 =>
    ⟨Wire.Hal.V1_2.Capabilities, .v1_2, fun _ => Wire.Hal.V1_2.Capabilities.toCanonical,
      Wire.Hal.V1_2.Capabilities.ofCanonical, id⟩
  | .aidl =>
    ⟨Wire.Aidl.Capabilities, .aidl, fun _ => Wire.Aidl.Capabilities.toCanonical,
      Wire.Aidl.Capabilities.ofCanonical, Wire.Aidl.Capabilities.explicit⟩

def outputShape : Dialect → Option (Crossing OutputShape)
  | .v1_0 => none
  | .v1_2 =>
    some ⟨Wire.Hal.OutputShape, .v1_2, fun _ => Wire.OutputShape.toCanonical, OutputShape.toWire, id⟩
  | .aidl =>
    some ⟨Wire.Aidl.OutputShape, .aidl, fun _ => Wire.OutputShape.toCanonical, OutputShape.toWire, id⟩

def timing : Dialect → Option (Crossing Timing)
  | .v1_0 => none
  | .v1_2 =>
    some ⟨Wire.Hal.Timing, .v1_2, fun _ => Wire.Hal.timingToCanonical, Wire.Hal.timingToWire, id⟩
  | .aidl =>
    some ⟨Wire.Aidl.Timing, .aidl, fun _ => Wire.Aidl.timingToCanonical, Wire.Aidl.timingToWire, id⟩

def extension : Dialect → Option (Crossing Extension)
  | .v1_0 => none
  | .v1_2 =>
    some ⟨Wire.Hal.Extension, .v1_2, fun _ => Wire.Extension.toCanonical, Extension.toWire, id⟩
  | .aidl =>
    some ⟨Wire.Aidl.Extension, .aidl, fun _ => Wire.Extension.toCanonical, Extension.toWire, id⟩

/-! Nothing that is sent changes on its way. -/

private theorem model_keeps (dialect : Dialect) (store : FileStore) (value : Model)
    (opened : value.HasOpenPools store) : (model dialect).Keeps store value := by
  apply Keeps.of_plain
  cases dialect with
  | v1_0 => exact Wire.Hal.V1_0.Model.ofCanonical_returns store value opened
  | v1_2 => exact Wire.Hal.V1_2.Model.ofCanonical_returns store value opened
  | aidl => exact Wire.Aidl.Model.ofCanonical_returns store value opened

theorem request_keeps (dialect : Dialect) (store : FileStore) (value : Request)
    (opened : value.HasOpenPools store) : (request dialect).Keeps store value := by
  apply Keeps.of_plain
  cases dialect with
  | v1_0 => exact Wire.Hal.requestToWire_returns store value opened
  | v1_2 => exact Wire.Hal.requestToWire_returns store value opened
  | aidl => exact Wire.Aidl.requestToWire_returns store value opened

/-- Models and requests on open pools are received exactly as they were sent. -/
theorem sent_graphs_and_requests_return (dialect : Dialect) (store : FileStore) :
    (∀ value : Model, value.HasOpenPools store → (model dialect).Keeps store value) ∧
      ∀ value : Request, value.HasOpenPools store → (request dialect).Keeps store value :=
  ⟨model_keeps dialect store, request_keeps dialect store⟩

/-- A memory of eight bytes behind descriptor zero. -/
def sharedMemory : Memory := ⟨⟨[0], [7]⟩, 8, "shared"⟩

/-- A model that passes its input on, with a pool. -/
def passingModel : Model where
  main :=
    { operands :=
        [⟨.builtin .tensorFloat32, [1], .zero, 0, .subgraphInput, .empty, .none⟩,
          ⟨.builtin .tensorFloat32, [1], .zero, 0, .subgraphOutput, .empty, .none⟩]
      operations := [⟨.builtin .floor, [0], [1]⟩]
      inputIndexes := [0]
      outputIndexes := [1] }
  referenced := []
  operandValues := []
  pools := [sharedMemory]
  relaxFloat32 := false
  vendors := []

/-- A request that reads the first half of the memory and writes the second. -/
def halvesRequest : Request := ⟨[.ofPool 0 0 4], [.ofPool 0 4 4], [.memory sharedMemory]⟩

theorem passing_and_halves_return :
    (∃ message, (model .v1_0).send passingModel = .ok message ∧
        (model .v1_0).receive ⟨[.zeros 8]⟩ message = .ok passingModel) ∧
      ∃ message, (request .aidl).send halvesRequest = .ok message ∧
        (request .aidl).receive ⟨[.zeros 8]⟩ message = .ok halvesRequest := by
  have opened : sharedMemory.handle.IsOpen ⟨[.zeros 8]⟩ := by
    simp [Handle.IsOpen, sharedMemory, FileStore.isOpen, FileStore.open?, FileStore.position]
  constructor
  · refine ⟨_, rfl, ?_⟩
    refine ((sent_graphs_and_requests_return .v1_0 ⟨[.zeros 8]⟩).1 passingModel ?_).checked _ rfl
    simpa [Model.HasOpenPools, passingModel] using opened
  · refine ⟨_, rfl, ?_⟩
    refine ((sent_graphs_and_requests_return .aidl ⟨[.zeros 8]⟩).2 halvesRequest ?_).checked _ rfl
    simpa [Request.HasOpenPools, halvesRequest] using opened

/-! Nothing that is received changes on its way back, once it is written out. -/

private theorem model_restores (dialect : Dialect) (store : FileStore) (message : (model dialect).Message) :
    (model dialect).Restores store message := by
  apply Restores.of_plain
  cases dialect with
  | v1_0 => exact Wire.Hal.V1_0.Model.toCanonical_returns store message
  | v1_2 => exact Wire.Hal.V1_2.Model.toCanonical_returns store message
  | aidl => exact Wire.Aidl.Model.toCanonical_returns store message

private theorem request_restores (dialect : Dialect) (store : FileStore) (message : (request dialect).Message) :
    (request dialect).Restores store message := by
  apply Restores.of_plain
  cases dialect with
  | v1_0 => exact Wire.Hal.requestToCanonical_returns store message
  | v1_2 => exact Wire.Hal.requestToCanonical_returns store message
  | aidl => exact Wire.Aidl.requestToCanonical_returns store message

private theorem capabilities_restores (dialect : Dialect) (store : FileStore)
    (message : (capabilities dialect).Message) : (capabilities dialect).Restores store message := by
  apply Restores.of_plain
  cases dialect with
  | v1_0 => exact Wire.Hal.V1_0.Capabilities.toCanonical_returns message
  | v1_2 => exact Wire.Hal.V1_2.Capabilities.toCanonical_returns message
  | aidl => exact Wire.Aidl.Capabilities.toCanonical_returns message

private theorem outputShape_restores (dialect : Dialect) (store : FileStore) (crossing : Crossing OutputShape)
    (present : outputShape dialect = some crossing) (message : crossing.Message) :
    crossing.Restores store message := by
  apply Restores.of_plain
  cases dialect <;> cases present
  · exact OutputShape.wire_inverse.symm.returns message
  · exact OutputShape.wire_inverse.symm.returns message

private theorem timing_restores (dialect : Dialect) (store : FileStore) (crossing : Crossing Timing)
    (present : timing dialect = some crossing) (message : crossing.Message) :
    crossing.Restores store message := by
  apply Restores.of_plain
  cases dialect <;> cases present
  · exact Wire.Hal.timingToCanonical_returns message
  · exact Wire.Aidl.timing_inverse.symm.returns message

private theorem extension_restores (dialect : Dialect) (store : FileStore) (crossing : Crossing Extension)
    (present : extension dialect = some crossing) (message : crossing.Message) :
    crossing.Restores store message := by
  apply Restores.of_plain
  cases dialect <;> cases present
  · exact Extension.wire_inverse.symm.returns message
  · exact Extension.wire_inverse.symm.returns message

/-- Every accepted message is sent again as it came, up to absent parts that are written out. -/
theorem accepted_messages_return (dialect : Dialect) (store : FileStore) :
    (∀ message, (model dialect).Restores store message) ∧
      (∀ message, (request dialect).Restores store message) ∧
      (∀ message, (capabilities dialect).Restores store message) ∧
      (∀ crossing, outputShape dialect = some crossing →
        ∀ message, crossing.Restores store message) ∧
      (∀ crossing, timing dialect = some crossing → ∀ message, crossing.Restores store message) ∧
      ∀ crossing, extension dialect = some crossing → ∀ message, crossing.Restores store message :=
  ⟨model_restores dialect store, request_restores dialect store, capabilities_restores dialect store,
    outputShape_restores dialect store, timing_restores dialect store,
    extension_restores dialect store⟩

/-- A received argument without a value, and without a location. -/
def valuelessRequest : (request .aidl).Message := ⟨[⟨true, none, []⟩], [], [⟨some (.inr 5)⟩]⟩

theorem valueless_returns_explicit :
    ∃ value, (request .aidl).receive .empty valuelessRequest = .ok value ∧
      (request .aidl).send value = .ok ⟨[⟨true, some ⟨0, 0, 0⟩, []⟩], [], [⟨some (.inr 5)⟩]⟩ :=
  ⟨_, rfl, ((accepted_messages_return .aidl .empty).2.1 valuelessRequest).checked _ rfl⟩

end Crossing

end NeuralDevice
