import NeuralDevice.Conversion.Shared
import NeuralDevice.Proofs.Conversion.Code

/-!
The messages that all dialects share cross in both directions without loss. Where a message may leave out a
part that stands for nothing, sending writes that part out, so a received message comes back in its explicit
form. Memory comes back on the same files, whose descriptors have to be open for as long as it crosses.
-/

namespace NeuralDevice

open Result

variable {index extent width : Type} [Word index] [Word extent] [Word width]

/-- Whether every descriptor of a handle can be duplicated. -/
def Handle.IsOpen (store : FileStore) (handle : Handle) : Prop :=
  ∀ descriptor ∈ handle.descriptors, store.isOpen descriptor = true

private theorem FileStore.nonneg_of_isOpen {store : FileStore} {descriptor : Descriptor}
    (opened : store.isOpen descriptor = true) : ¬descriptor.toInt < 0 := by
  intro negative
  simp [isOpen, open?, negative] at opened

theorem Descriptor.check_eq_ok_iff {store : FileStore} {descriptor duplicate : Descriptor} :
    Descriptor.check store descriptor = .ok duplicate ↔
      store.isOpen descriptor = true ∧ descriptor = duplicate := by
  unfold Descriptor.check
  rw [refuse_eq_ok_iff, demand_eq_ok_iff, pure_eq_ok_iff]
  constructor
  · intro sent
    rcases sent with ⟨_, opened, same⟩
    exact ⟨opened, same⟩
  · intro received
    rcases received with ⟨opened, same⟩
    exact ⟨FileStore.nonneg_of_isOpen opened, opened, same⟩

/-- A duplicate is the same handle, and there is one as long as all descriptors are open. -/
private theorem Handle.duplicate_eq_ok_iff {store : FileStore} {descriptors : List Descriptor}
    {ints : List Int32} {handle : Handle} :
    Handle.duplicate store descriptors ints = .ok handle ↔
      handle.IsOpen store ∧ (⟨descriptors, ints⟩ : Handle) = handle := by
  simp only [duplicate, bind_eq_ok_iff, pure_eq_ok_iff, mapM_eq_ok_iff, Descriptor.check_eq_ok_iff,
    List.forall₂_and_left, List.forall₂_eq_eq_eq]
  constructor
  · intro sent
    rcases sent with ⟨_, ⟨opened, rfl⟩, rfl⟩
    exact ⟨opened, rfl⟩
  · intro received
    rcases received with ⟨opened, rfl⟩
    exact ⟨descriptors, ⟨opened, rfl⟩, rfl⟩

/-- A received memory is exactly one on open files that is sent as the message it came in. -/
theorem Wire.Memory.toCanonical_eq_ok_iff {store : FileStore} {message : Wire.Memory width}
    {memory : NeuralDevice.Memory} :
    message.toCanonical store = .ok memory ↔
      memory.handle.IsOpen store ∧ memory.toWire = .ok message := by
  simp only [toCanonical, Memory.toWire, NativeHandle.toCanonical, bind_eq_ok_iff, pure_eq_ok_iff,
    Handle.duplicate_eq_ok_iff]
  constructor
  · intro sent
    rcases sent with ⟨native, present, _, ⟨opened, rfl⟩, size, fits, rfl⟩
    refine ⟨opened, _, (rewidth_inverse _ _ _).mp fits, ?_⟩
    cases message with
    | mk name size handle =>
      cases handle with
      | none => exact absurd present throw_ne_ok
      | some handle =>
        cases pure_eq_ok_iff.mp present
        rfl
  · intro received
    rcases received with ⟨opened, size, fits, rfl⟩
    exact ⟨_, rfl, _, ⟨opened, rfl⟩, _, (rewidth_inverse _ _ _).mp fits, rfl⟩

theorem DataLocation.wire_inverse :
    Inverse DataLocation.toWire
      (Wire.Location.toCanonical : Wire.Location index extent → Result DataLocation) := by
  intro location message
  simp only [toWire, Wire.Location.toCanonical, bind_eq_ok_iff, throw_bind, refuse_eq_ok_iff,
    pure_eq_ok_iff, Option.not_isSome_iff_eq_none]
  constructor
  · intro sent
    rcases sent with ⟨absent, poolIndex, pooled, offset, placed, length, sized, rfl⟩
    exact ⟨_, (rewidth_inverse _ _ _).mp pooled, _, (rewidth_inverse _ _ _).mp placed, _,
      (rewidth_inverse _ _ _).mp sized, by rw [← absent]⟩
  · intro received
    rcases received with ⟨poolIndex, pooled, offset, placed, length, sized, rfl⟩
    exact ⟨rfl, _, (rewidth_inverse _ _ _).mp pooled, _, (rewidth_inverse _ _ _).mp placed, _,
      (rewidth_inverse _ _ _).mp sized, rfl⟩

theorem DataLocation.pointer_of_toWire {location : DataLocation}
    {message : Wire.Location index extent} (sent : location.toWire = .ok message) :
    location.pointer = none := by
  simp only [toWire, bind_eq_ok_iff, throw_bind, refuse_eq_ok_iff] at sent
  simpa using sent.1

/-- The location of something without data. -/
def Wire.Location.zero : Wire.Location index extent := ⟨Word.zero index, Word.zero extent, Word.zero extent⟩

/-- A location that may be left out, written out. -/
def Wire.Location.explicit (location : Option (Wire.Location index extent)) :
    Option (Wire.Location index extent) :=
  some (location.getD .zero)

private theorem DataLocation.empty_toWire :
    DataLocation.empty.toWire = .ok (Wire.Location.zero : Wire.Location index extent) := by
  apply (DataLocation.wire_inverse _ _).mpr
  simp only [Wire.Location.toCanonical, Wire.Location.zero, bind_eq_ok_iff, pure_eq_ok_iff,
    rewidth_eq_ok_iff, Word.toInt_zero]
  exact ⟨0, rfl, 0, rfl, 0, rfl, rfl⟩

theorem Wire.Location.toWire_of_toCanonical {received : Option (Wire.Location index extent)}
    {location : DataLocation} (accepted : optionalToCanonical received = .ok location) :
    location.toWire = .ok (received.getD .zero) := by
  cases received with
  | none =>
    cases pure_eq_ok_iff.mp accepted
    exact DataLocation.empty_toWire
  | some message => exact (DataLocation.wire_inverse location message).mpr accepted

theorem ExtraParams.wire_inverse :
    Inverse ExtraParams.toWire
      (Wire.ExtraParams.toCanonical : Option (Wire.ExtraParams index) → Result ExtraParams) := by
  intro params message
  constructor
  · intro sent
    cases params with
    | none => cases pure_eq_ok_iff.mp sent; rfl
    | vendor data => cases pure_eq_ok_iff.mp sent; rfl
    | channelQuant quant =>
      simp only [toWire, bind_eq_ok_iff, pure_eq_ok_iff] at sent
      obtain ⟨channelDim, fits, rfl⟩ := sent
      simp only [Wire.ExtraParams.toCanonical, bind_eq_ok_iff, pure_eq_ok_iff]
      exact ⟨_, (rewidth_inverse _ _ _).mp fits, rfl⟩
  · intro received
    rcases message with _ | quant | data
    · cases pure_eq_ok_iff.mp received; rfl
    · simp only [Wire.ExtraParams.toCanonical, bind_eq_ok_iff, pure_eq_ok_iff] at received
      obtain ⟨channelDim, fits, rfl⟩ := received
      simp only [toWire, bind_eq_ok_iff, pure_eq_ok_iff]
      exact ⟨_, (rewidth_inverse _ _ _).mp fits, rfl⟩
    · cases pure_eq_ok_iff.mp received; rfl

theorem Operation.wire_inverse (dialect : Dialect) :
    Inverse (Operation.toWire dialect)
      (Wire.Operation.toCanonical dialect : Wire.Operation index → Result Operation) := by
  intro operation message
  simp only [toWire, Wire.Operation.toCanonical, bind_eq_ok_iff, pure_eq_ok_iff]
  constructor
  · intro sent
    rcases sent with ⟨type, typed, inputs, taken, outputs, given, rfl⟩
    exact ⟨_, (Coded.wire_inverse _ _ _).mp typed, _, (rewidthAll_inverse _ _ _).mp taken, _,
      (rewidthAll_inverse _ _ _).mp given, rfl⟩
  · intro received
    rcases received with ⟨type, typed, inputs, taken, outputs, given, rfl⟩
    exact ⟨_, (Coded.wire_inverse _ _ _).mpr typed, _, (rewidthAll_inverse _ _ _).mp taken, _,
      (rewidthAll_inverse _ _ _).mp given, rfl⟩

theorem VendorEntry.wire_inverse :
    Inverse VendorEntry.toWire (Wire.VendorEntry.toCanonical : Wire.VendorEntry index → Result VendorEntry) := by
  intro entry message
  simp only [toWire, Wire.VendorEntry.toCanonical, bind_eq_ok_iff, pure_eq_ok_iff]
  constructor
  · intro sent
    rcases sent with ⟨vendor, fits, rfl⟩
    exact ⟨_, (rewidth_inverse _ _ _).mp fits, rfl⟩
  · intro received
    rcases received with ⟨vendor, fits, rfl⟩
    exact ⟨_, (rewidth_inverse _ _ _).mp fits, rfl⟩

theorem OutputShape.wire_inverse :
    Inverse OutputShape.toWire (Wire.OutputShape.toCanonical : Wire.OutputShape index → Result OutputShape) := by
  intro shape message
  simp only [toWire, Wire.OutputShape.toCanonical, bind_eq_ok_iff, pure_eq_ok_iff]
  constructor
  · intro sent
    rcases sent with ⟨dimensions, fit, rfl⟩
    exact ⟨_, (rewidthAll_inverse _ _ _).mp fit, rfl⟩
  · intro received
    rcases received with ⟨dimensions, fit, rfl⟩
    exact ⟨_, (rewidthAll_inverse _ _ _).mp fit, rfl⟩

theorem ExtensionType.wire_inverse :
    Inverse ExtensionType.toWire
      (Wire.ExtensionType.toCanonical : Wire.ExtensionType index → Result ExtensionType) := by
  intro entry message
  simp only [toWire, Wire.ExtensionType.toCanonical, bind_eq_ok_iff, pure_eq_ok_iff]
  constructor
  · intro sent
    rcases sent with ⟨type, numbered, byteSize, sized, rfl⟩
    exact ⟨_, (rewidth_inverse _ _ _).mp numbered, _, (rewidth_inverse _ _ _).mp sized, rfl⟩
  · intro received
    rcases received with ⟨type, numbered, byteSize, sized, rfl⟩
    exact ⟨_, (rewidth_inverse _ _ _).mp numbered, _, (rewidth_inverse _ _ _).mp sized, rfl⟩

theorem Extension.wire_inverse :
    Inverse Extension.toWire (Wire.Extension.toCanonical : Wire.Extension index → Result Extension) := by
  intro extension message
  simp only [toWire, Wire.Extension.toCanonical, bind_eq_ok_iff, pure_eq_ok_iff]
  constructor
  · intro sent
    rcases sent with ⟨types, listed, rfl⟩
    exact ⟨_, (ExtensionType.wire_inverse.mapM _ _).mp listed, rfl⟩
  · intro received
    rcases received with ⟨types, listed, rfl⟩
    exact ⟨_, (ExtensionType.wire_inverse.mapM _ _).mpr listed, rfl⟩

/-- The lifetime is sent as a flag; nothing in host memory is sent. -/
theorem ArgumentLifetime.isWithoutValue_eq_ok_iff {lifetime : ArgumentLifetime} {hasNoValue : Bool} :
    lifetime.isWithoutValue = .ok hasNoValue ↔
      lifetime = if hasNoValue then .noValue else .pool := by
  cases lifetime <;> cases hasNoValue <;>
    simp [isWithoutValue, pure_eq_ok_iff, throw_ne_ok]

/-- The argument with its location written out. -/
def Wire.Argument.explicit (argument : Wire.Argument index extent) : Wire.Argument index extent :=
  { argument with location := Wire.Location.explicit argument.location }

theorem Argument.toWire_returns (argument : Argument) :
    Returns Argument.toWire
      (Wire.Argument.toCanonical : Wire.Argument index extent → Result Argument) argument argument := by
  intro message sent
  simp only [toWire, bind_eq_ok_iff, pure_eq_ok_iff] at sent
  obtain ⟨hasNoValue, alive, location, placed, dimensions, fit, rfl⟩ := sent
  rw [ArgumentLifetime.isWithoutValue_eq_ok_iff] at alive
  simp only [Wire.Argument.toCanonical, bind_eq_ok_iff, pure_eq_ok_iff]
  exact ⟨_, (DataLocation.wire_inverse _ _).mp placed, _, (rewidthAll_inverse _ _ _).mp fit,
    by rw [← alive]⟩

theorem Wire.Argument.toCanonical_returns (message : Wire.Argument index extent) :
    Returns Wire.Argument.toCanonical Argument.toWire message message.explicit := by
  intro argument received
  simp only [toCanonical, bind_eq_ok_iff, pure_eq_ok_iff] at received
  obtain ⟨location, placed, dimensions, fit, rfl⟩ := received
  simp only [Argument.toWire, bind_eq_ok_iff, pure_eq_ok_iff]
  exact ⟨_, ArgumentLifetime.isWithoutValue_eq_ok_iff.mpr rfl, _,
    Wire.Location.toWire_of_toCanonical placed, _, (rewidthAll_inverse _ _ _).mp fit, rfl⟩

/-- The request with the locations of its arguments written out. -/
def Wire.Request.explicit {π : Type} (request : Wire.Request index extent π) :
    Wire.Request index extent π :=
  { request with
    inputs := request.inputs.map Wire.Argument.explicit
    outputs := request.outputs.map Wire.Argument.explicit }

theorem Wire.Argument.pointer_of_toCanonical {message : Wire.Argument index extent}
    {argument : NeuralDevice.Argument} (received : message.toCanonical = .ok argument) :
    argument.location.pointer = none := by
  simp only [toCanonical, bind_eq_ok_iff, pure_eq_ok_iff] at received
  obtain ⟨location, placed, dimensions, fit, rfl⟩ := received
  exact DataLocation.pointer_of_toWire (Wire.Location.toWire_of_toCanonical placed)

theorem Request.hasNoPointerData_iff {request : Request} :
    request.hasNoPointerData = true ↔
      ∀ argument ∈ request.inputs ++ request.outputs, argument.location.pointer = none := by
  simp [hasNoPointerData, or_imp, forall_and]

theorem Wire.Request.toCanonical_eq_ok_iff {π : Type} {pool : π → Result MemoryPool}
    {message : Wire.Request index extent π} {request : NeuralDevice.Request} :
    message.toCanonical pool = .ok request ↔
      message.inputs.mapM Wire.Argument.toCanonical = .ok request.inputs ∧
        message.outputs.mapM Wire.Argument.toCanonical = .ok request.outputs ∧
        message.pools.mapM pool = .ok request.pools := by
  simp only [toCanonical, bind_eq_ok_iff, pure_eq_ok_iff]
  constructor
  · intro sent
    rcases sent with ⟨inputs, taken, outputs, given, pools, shared, rfl⟩
    exact ⟨taken, given, shared⟩
  · intro received
    rcases received with ⟨taken, given, shared⟩
    exact ⟨_, taken, _, given, _, shared, rfl⟩

section Requests

variable {π : Type} {pool : π → Result MemoryPool} {ofPool : MemoryPool → Result π}
  {message : Wire.Request index extent π} {request : NeuralDevice.Request}

theorem Wire.Request.toCanonical_of_sent
    (each : ∀ shared ∈ request.pools, Returns ofPool pool shared shared)
    (taken : request.inputs.mapM Argument.toWire = .ok message.inputs)
    (given : request.outputs.mapM Argument.toWire = .ok message.outputs)
    (shared : request.pools.mapM ofPool = .ok message.pools) : message.toCanonical pool = .ok request := by
  rw [toCanonical_eq_ok_iff]
  refine ⟨?_, ?_, ?_⟩
  · simpa using Returns.mapM id (fun argument _ => Argument.toWire_returns argument) _ taken
  · simpa using Returns.mapM id (fun argument _ => Argument.toWire_returns argument) _ given
  · simpa using Returns.mapM id each _ shared

/-- The parts of a received request are sent as they came, with locations written out. -/
theorem Wire.Request.sent_of_toCanonical (each : ∀ shared, Returns pool ofPool shared shared)
    (received : message.toCanonical pool = .ok request) :
    request.inputs.mapM Argument.toWire = .ok message.explicit.inputs ∧
      request.outputs.mapM Argument.toWire = .ok message.explicit.outputs ∧
      request.pools.mapM ofPool = .ok message.explicit.pools := by
  obtain ⟨taken, given, shared⟩ := toCanonical_eq_ok_iff.mp received
  refine ⟨?_, ?_, ?_⟩
  · exact Returns.mapM _ (fun argument _ => Wire.Argument.toCanonical_returns argument) _ taken
  · exact Returns.mapM _ (fun argument _ => Wire.Argument.toCanonical_returns argument) _ given
  · simpa [explicit] using Returns.mapM id (fun shared _ => each shared) _ shared

theorem Wire.Request.hasNoPointerData_of_toCanonical
    (received : message.toCanonical pool = .ok request) : request.hasNoPointerData = true := by
  obtain ⟨taken, given, _⟩ := toCanonical_eq_ok_iff.mp received
  rw [Request.hasNoPointerData_iff]
  intro argument member
  rcases List.mem_append.mp member with input | output
  · obtain ⟨source, _, converted⟩ := exists_of_mem_mapM taken input
    exact Wire.Argument.pointer_of_toCanonical converted
  · obtain ⟨source, _, converted⟩ := exists_of_mem_mapM given output
    exact Wire.Argument.pointer_of_toCanonical converted

end Requests

/-- Whether every shared memory of the request can be duplicated. -/
def Request.HasOpenPools (store : FileStore) (request : Request) : Prop :=
  ∀ memory, .memory memory ∈ request.pools → memory.handle.IsOpen store

/-- Whether every pool of the model can be duplicated. -/
def Model.HasOpenPools (store : FileStore) (model : Model) : Prop :=
  ∀ memory ∈ model.pools, memory.handle.IsOpen store

theorem Model.hasNoPointerData_iff {model : Model} :
    model.hasNoPointerData = true ↔
      ∀ subgraph ∈ model.subgraphs, ∀ operand ∈ subgraph.operands,
        operand.location.pointer = none := by
  simp [hasNoPointerData]

theorem Memory.toWire_returns {width : Type} [Word width] (store : FileStore) (memory : Memory)
    (opened : memory.handle.IsOpen store) :
    Returns Memory.toWire (Wire.Memory.toCanonical store : Wire.Memory width → Result Memory) memory
      memory :=
  fun _ sent => Wire.Memory.toCanonical_eq_ok_iff.mpr ⟨opened, sent⟩

theorem Wire.Memory.toCanonical_returns {width : Type} [Word width] (store : FileStore)
    (message : Wire.Memory width) :
    Returns (toCanonical store) Memory.toWire message message :=
  fun _ received => (toCanonical_eq_ok_iff.mp received).2

/-- A received table is sent as it came, once each figure is what `explicit` makes of it. -/
theorem PerformanceTable.toWire_of_ofWire {dialect : Dialect}
    {convert : Wire.OperandPerformance → Result OperandPerformance}
    {explicit : Wire.OperandPerformance → Wire.OperandPerformance}
    (each : ∀ entry, Returns convert (OperandPerformance.toWire dialect) entry (explicit entry))
    {entries : List Wire.OperandPerformance} {table : PerformanceTable}
    (received : PerformanceTable.ofWire convert entries = .ok table) :
    table.toWire dialect = .ok (entries.map explicit) := by
  simp only [ofWire, create, bind_eq_ok_iff, mapError_eq_ok_iff, demand_eq_ok_iff, pure_eq_ok_iff]
    at received
  obtain ⟨figures, converted, _, rfl⟩ := received
  have sent := Returns.mapM explicit (fun entry _ => each entry) _ converted
  have nameable : ∀ figure ∈ figures, figure.type.isNameable dialect = true := by
    intro figure member
    obtain ⟨entry, _, made⟩ := exists_of_mem_mapM converted member
    have typed := each entry figure made
    simp only [OperandPerformance.toWire, bind_eq_ok_iff] at typed
    obtain ⟨code, named, _⟩ := typed
    exact (Coded.toWire_eq_ok_iff.mp named).1
  rw [toWire, List.filter_eq_self.mpr nameable, sent]

end NeuralDevice
