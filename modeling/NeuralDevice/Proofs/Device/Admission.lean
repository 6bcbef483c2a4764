import NeuralDevice.Proofs.Device.DeadObject
import NeuralDevice.Proofs.Relocation.Reflection

/-!
Nothing invalid is sent. What is sent is checked after relocation, so an operation fails without an exchange if
relocation leaves the fault where it was; it mends only locations that it takes for something else.
-/

namespace NeuralDevice

open NeuralDevice.Action Result

variable {σ α β γ δ : Type}

/-- The action failed, and nothing was exchanged. -/
def Law.refused : Law σ α := fun _ result exchanges => (∃ error, result = .error error) ∧ exchanges = []

/-- Plainly and recorded, the action does nothing but fail. -/
def Action.Refuses (action : Action (World σ) α) (recorded : Action (World (Recorded σ)) β) : Prop :=
  ∃ error, action = throw error ∧ recorded = throw error

theorem Action.Refuses.bind {action : Action (World σ) α} {recorded : Action (World (Recorded σ)) β}
    (refuses : action.Refuses recorded) (next : α → Action (World σ) γ)
    (next' : β → Action (World (Recorded σ)) δ) : (action >>= next).Refuses (recorded >>= next') := by
  obtain ⟨error, rfl, rfl⟩ := refuses
  exact ⟨error, rfl, rfl⟩

theorem Action.refuses_ofResult_bind {result : Result γ} {next : γ → Action (World σ) α}
    {next' : γ → Action (World (Recorded σ)) β}
    (refuses : ∀ value, result = .ok value → (next value).Refuses (next' value)) :
    (Action.ofResult result >>= next).Refuses (Action.ofResult result >>= next') := by
  cases result with
  | ok value => exact refuses value rfl
  | error error => exact ⟨error, rfl, rfl⟩

theorem Action.Refuses.mirrors {related : α → β → Prop} {action : Action (World σ) α}
    {recorded : Action (World (Recorded σ)) β} (refuses : action.Refuses recorded) :
    action.Mirrors related .refused recorded := by
  obtain ⟨error, rfl, rfl⟩ := refuses
  exact mirrors_throw fun _ => ⟨⟨error, rfl⟩, rfl⟩

theorem Action.Silent.refused {related : α → β → Prop} {first : Action (World σ) γ}
    {first' : Action (World (Recorded σ)) γ} {next : γ → Action (World σ) α}
    {next' : γ → Action (World (Recorded σ)) β} (silent : first.Silent first')
    (refuses : ∀ world value later, first.apply world = (.ok value, later) →
      (next value).Refuses (next' value)) :
    (first >>= next).Mirrors related .refused (first' >>= next') := by
  intro world noted
  have ran' := silent world noted
  rcases ran : first.apply world with ⟨error | value, later⟩
  · rw [ran] at ran'
    rw [apply_bind_error ran, apply_bind_error ran']
    exact ⟨[], .error error, by rw [List.append_nil], ⟨error, rfl⟩, rfl⟩
  · rw [ran] at ran'
    rw [apply_bind_ok ran, apply_bind_ok ran']
    exact (refuses world value later ran).mirrors later noted

def IsInvalid [Validate γ] (value : γ) : Prop := ∃ error, validate value = .error error

section Invalid

variable [Validate γ] {value other : γ}

theorem IsInvalid.of_reflects (invalid : IsInvalid value)
    (reflects : ∀ version, validate other = .ok version → validate value = .ok version) :
    IsInvalid other := by
  obtain ⟨error, failed⟩ := invalid
  cases checked : validate other with
  | error reason => exact ⟨reason, checked⟩
  | ok version => cases failed.symm.trans (reflects version checked)

theorem IsInvalid.refuses (invalid : IsInvalid value) (limit : Version) (convert : γ → Result δ)
    (next : δ → Action (World σ) α) (next' : δ → Action (World (Recorded σ)) β) :
    (Action.ofResult (send limit value convert) >>= next).Refuses
      (Action.ofResult (send limit value convert) >>= next') := by
  obtain ⟨error, failed⟩ := invalid
  refine refuses_ofResult_bind fun sent done => ?_
  rw [send, failed] at done
  cases done

end Invalid

namespace World

section Relocation

variable {related : α → β → Prop}

theorem relocateModel_refused {model : Model} {next : Model → Action (World σ) α}
    {next' : Model → Action (World (Recorded σ)) β} (clear : model.IsUnambiguous) (invalid : IsInvalid model)
    (refuses : ∀ relocated, IsInvalid relocated → (next relocated).Refuses (next' relocated)) :
    (relocateModel model >>= next).Mirrors related .refused (relocateModel model >>= next') := by
  refine (silent_relocateModel model).refused fun world relocated later ran => refuses relocated ?_
  rw [apply_relocateModel] at ran
  rcases moved : model.relocate world.host world.shared.files with error | ⟨value, files⟩
  all_goals
    rw [moved] at ran
    cases ran
  exact invalid.of_reflects fun version => (Model.validate_relocated_iff clear moved).mp

theorem relocateRequest_refused {request : Request} {next : Request → Action (World σ) α}
    {next' : Request → Action (World (Recorded σ)) β} (clear : request.IsUnambiguous)
    (invalid : IsInvalid request)
    (refuses : ∀ relocated, IsInvalid relocated → (next relocated).Refuses (next' relocated)) :
    (relocateRequest request >>= next).Mirrors related .refused (relocateRequest request >>= next') := by
  refine (silent_relocateRequest request).refused fun world relocated later ran => refuses relocated ?_
  rw [apply_relocateRequest] at ran
  rcases moved : request.relocate world.host world.shared.files with error | ⟨value, files⟩
  all_goals
    rw [moved] at ran
    cases ran
  exact invalid.of_reflects fun version => Request.validate_of_relocated clear moved

end Relocation

end World

namespace Device

variable {model relocated : Model}

private theorem supportFlags_refuses (device : Device σ) (invalid : IsInvalid relocated) :
    (device.supportFlags relocated).Refuses (device.recorded.supportFlags relocated) := by
  obtain ⟨name, info, endpoint, options, recipient⟩ := device
  cases endpoint with
  | v1_0 endpoint => exact invalid.refuses .v1_0 Wire.Hal.V1_0.Model.ofCanonical _ _
  | v1_2 endpoint => exact invalid.refuses .v1_2 Wire.Hal.V1_2.Model.ofCanonical _ _
  | aidl endpoint => exact invalid.refuses .aidl Wire.Aidl.Model.ofCanonical _ _

private theorem supportedOperations_refused (device : Device σ) (clear : model.IsUnambiguous)
    (invalid : IsInvalid model) :
    (device.supportedOperations model).Mirrors (Via id) .refused
      (device.recorded.supportedOperations model) :=
  World.relocateModel_refused clear invalid fun _ broken => (device.supportFlags_refuses broken).bind _ _

private theorem prepareModel_refused (device : Device σ) (clear : model.IsUnambiguous) (invalid : IsInvalid model)
    (settings : PreparationSettings) :
    (device.prepareModel model settings).Mirrors (Via PreparedModel.recorded) .refused
      (device.recorded.prepareModel model settings) := by
  obtain ⟨name, info, endpoint, options, recipient⟩ := device
  refine World.relocateModel_refused clear invalid fun relocated broken => ?_
  cases endpoint with
  | v1_0 endpoint => exact (broken.refuses .v1_0 Wire.Hal.V1_0.Model.ofCanonical _ _).bind _ _
  | v1_2 endpoint => exact (broken.refuses .v1_2 Wire.Hal.V1_2.Model.ofCanonical _ _).bind _ _
  | aidl endpoint => exact (broken.refuses .aidl Wire.Aidl.Model.ofCanonical _ _).bind _ _

end Device

namespace PreparedModel

variable {request relocated : Request}

private theorem dispatch_refuses (prepared : PreparedModel σ) (invalid : IsInvalid relocated)
    (settings : ExecutionSettings) :
    (prepared.dispatch settings relocated).Refuses (prepared.recorded.dispatch settings relocated) := by
  obtain ⟨endpoint, options, recipient⟩ := prepared
  cases endpoint with
  | v1_0 endpoint => exact invalid.refuses .v1_0 Wire.Hal.requestToWire _ _
  | v1_2 endpoint => exact invalid.refuses .v1_2 Wire.Hal.requestToWire _ _
  | aidl endpoint => exact invalid.refuses .aidl Wire.Aidl.requestToWire _ _

private theorem execute_refused (prepared : PreparedModel σ) (clear : request.IsUnambiguous)
    (invalid : IsInvalid request) (settings : ExecutionSettings) :
    (prepared.execute request settings).Mirrors (Via id) .refused
      (prepared.recorded.execute request settings) := by
  rw [execute_eq, execute_eq]
  exact World.relocateRequest_refused clear invalid fun _ broken =>
    (prepared.dispatch_refuses broken settings).bind _ _

private theorem executeFenced_refused_of_invalid (prepared : PreparedModel σ) (clear : request.IsUnambiguous)
    (invalid : IsInvalid request) (settings : FencedSettings) :
    (prepared.executeFenced request settings).Mirrors FencedAgree .refused
      (prepared.recorded.executeFenced request settings) := by
  obtain ⟨endpoint, options, recipient⟩ := prepared
  cases endpoint with
  | v1_0 endpoint => exact mirrors_throw fun _ => ⟨⟨_, rfl⟩, rfl⟩
  | v1_2 endpoint => exact mirrors_throw fun _ => ⟨⟨_, rfl⟩, rfl⟩
  | aidl endpoint =>
    exact World.relocateRequest_refused clear invalid fun _ broken =>
      broken.refuses .aidl Wire.Aidl.requestToWire _ _

end PreparedModel

/-- An invalid model or request is refused by every device and prepared model, and nothing is exchanged, unless
relocation mistakes one of its locations: a pointer against the lifetime, or a pool that is yet to come. -/
theorem invalid_values_are_refused :
    (∀ (device : Device σ) (model : Model), model.IsUnambiguous → IsInvalid model →
      (device.supportedOperations model).Mirrors (Via id) .refused
        (device.recorded.supportedOperations model) ∧
      ∀ settings, (device.prepareModel model settings).Mirrors (Via PreparedModel.recorded) .refused
        (device.recorded.prepareModel model settings)) ∧
    ∀ (prepared : PreparedModel σ) (request : Request), request.IsUnambiguous → IsInvalid request →
      (∀ settings, (prepared.execute request settings).Mirrors (Via id) .refused
        (prepared.recorded.execute request settings)) ∧
      ∀ settings, (prepared.executeFenced request settings).Mirrors PreparedModel.FencedAgree .refused
        (prepared.recorded.executeFenced request settings) := by
  refine ⟨fun device model clear invalid => ⟨?_, ?_⟩, fun prepared request clear invalid => ⟨?_, ?_⟩⟩
  · exact device.supportedOperations_refused clear invalid
  · exact device.prepareModel_refused clear invalid
  · exact prepared.execute_refused clear invalid
  · exact prepared.executeFenced_refused_of_invalid clear invalid

/-- A model of operands only. -/
def bareModel (operands : List Operand) : Model := ⟨⟨operands, [], [], []⟩, [], [], [], false, []⟩

/-- A device whose endpoint can run nothing. -/
def idleDevice : Device Unit :=
  ⟨"idle", default, .v1_0 ⟨throw .dead, fun _ => pure (0, []), fun _ => pure (0, none), fun _ => pure true⟩,
    ⟨false, none⟩, 0⟩

/-- A prepared model whose endpoint has nothing to tell. -/
def idlePrepared : PreparedModel Unit :=
  ⟨.aidl ⟨fun _ _ => pure ⟨true, [], none⟩, fun _ _ _ _ => pure ⟨none, none⟩, fun _ => pure true⟩,
    ⟨false, none⟩, 0⟩

/-- The caller has one buffer. -/
def callersWorld : World Unit := ⟨⟨.empty, .empty, [], ()⟩, ⟨[[1, 2, 3]]⟩, [.new], ⟨0⟩⟩

/-- Three bytes at the start of the caller's buffer. -/
def inBuffer : DataLocation := ⟨some ⟨0, 0, 3, false⟩, 0, 0, 3⟩

/-- A constant in host memory, and one in a pool that is not there. -/
def danglingModel : Model :=
  bareModel [⟨.builtin .tensorFloat32, [3], .zero, 0, .pointer, inBuffer, .none⟩,
    ⟨.builtin .tensorFloat32, [3], .zero, 0, .constantReference, .inPool 5 0 3, .none⟩]

/-- An input in host memory, and one in a pool that is not there. -/
def danglingRequest : Request := ⟨[⟨.pointer, inBuffer, []⟩, .ofPool 5 0 3], [], []⟩

/-- A fault that stays in place is found, although constants and arguments are moved before. -/
theorem dangling_values_are_refused :
    danglingModel.IsUnambiguous ∧ IsInvalid danglingModel ∧
      ((idleDevice.recorded.supportedOperations danglingModel).apply
        (callersWorld.recorded [])).2.shared.remote.exchanges = [] ∧
      danglingRequest.IsUnambiguous ∧ IsInvalid danglingRequest ∧
      ((idlePrepared.recorded.execute danglingRequest ⟨.no, none, none⟩).apply
        (callersWorld.recorded [])).2.shared.remote.exchanges = [] := by
  have clearModel : danglingModel.IsUnambiguous := by
    intro subgraph listed operand member
    simp only [danglingModel, bareModel, Model.subgraphs, List.mem_singleton] at listed
    subst listed
    simp only [List.mem_cons, List.not_mem_nil, or_false] at member
    rcases member with rfl | rfl
    · exact ⟨fun _ => rfl, fun pooled => absurd pooled (by decide)⟩
    · exact ⟨fun present => absurd present (by decide), fun _ => .inr (by decide)⟩
  have clearRequest : danglingRequest.IsUnambiguous := by
    intro argument member
    simp only [danglingRequest, List.append_nil, List.mem_cons, List.not_mem_nil, or_false] at member
    rcases member with rfl | rfl
    · exact ⟨fun _ => rfl, fun pooled => absurd pooled (by decide)⟩
    · exact ⟨fun present => absurd present (by decide), fun _ => .inr (by decide)⟩
  have invalidModel : IsInvalid danglingModel := ⟨_, rfl⟩
  have invalidRequest : IsInvalid danglingRequest := ⟨_, rfl⟩
  obtain ⟨exchanges, -, later, -, rfl⟩ :=
    (invalid_values_are_refused.1 idleDevice danglingModel clearModel invalidModel).1 callersWorld []
  obtain ⟨others, -, after, -, rfl⟩ :=
    (invalid_values_are_refused.2 idlePrepared danglingRequest clearRequest invalidRequest).1
      ⟨.no, none, none⟩ callersWorld []
  exact ⟨clearModel, invalidModel, by rw [later]; rfl, clearRequest, invalidRequest, by rw [after]; rfl⟩

/-- A temporary variable with a host pointer. -/
def strayModel : Model :=
  bareModel [⟨.builtin .tensorFloat32, [3], .zero, 0, .temporaryVariable, inBuffer, .none⟩]

/-- A constant in host memory, and one in a pool that is there only after the first is moved. -/
def earlyModel : Model :=
  bareModel [⟨.builtin .tensorFloat32, [3], .zero, 0, .pointer, inBuffer, .none⟩,
    ⟨.builtin .tensorFloat32, [3], .zero, 0, .constantReference, .inPool 0 0 3, .none⟩]

/-- An input without a value, but with a host pointer. -/
def strayRequest : Request := ⟨[⟨.noValue, inBuffer, []⟩], [], []⟩

/-- Relocation goes by pointers whatever the lifetime says, and it adds pools before references to them are
checked. So these invalid values become valid ones and are sent. -/
theorem mistaken_values_are_sent :
    (IsInvalid strayModel ∧
      ((idleDevice.recorded.supportedOperations strayModel).apply (callersWorld.recorded [])).1 = .ok [] ∧
      ((idleDevice.recorded.supportedOperations strayModel).apply
        (callersWorld.recorded [])).2.shared.remote.exchanges = [.called none []]) ∧
      (IsInvalid earlyModel ∧
        ((idleDevice.recorded.supportedOperations earlyModel).apply (callersWorld.recorded [])).1 = .ok [] ∧
        ((idleDevice.recorded.supportedOperations earlyModel).apply
          (callersWorld.recorded [])).2.shared.remote.exchanges = [.called none []]) ∧
      IsInvalid strayRequest ∧
      ((idlePrepared.recorded.execute strayRequest ⟨.no, none, none⟩).apply (callersWorld.recorded [])).1 =
        .ok (.ended ⟨[], .notMeasured⟩) ∧
      ((idlePrepared.recorded.execute strayRequest ⟨.no, none, none⟩).apply
        (callersWorld.recorded [])).2.shared.remote.exchanges = [.synchronous (.ok 0) []] :=
  ⟨⟨⟨_, rfl⟩, rfl, rfl⟩, ⟨⟨_, rfl⟩, rfl, rfl⟩, ⟨_, rfl⟩, rfl, rfl⟩

end NeuralDevice
