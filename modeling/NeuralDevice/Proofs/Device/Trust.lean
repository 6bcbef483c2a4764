import NeuralDevice.Proofs.Conversion.Figures
import NeuralDevice.Proofs.Execution.Report

/-!
What a caller may trust. Whatever an operation hands out was received from an answer of the endpoint, so it obeys
the rules for it and is no newer than the dialect; an operation with an answer that breaks a rule fails.
-/

namespace NeuralDevice

open NeuralDevice.Action Result

variable {σ : Type}

/-- What the endpoint says about itself when it is asked, as it is received. -/
inductive DeviceEndpoint.Reports : DeviceEndpoint σ → World σ → DeviceInfo → World σ → Prop
  | v1_0 {endpoint : Wire.Hal.V1_0.DeviceEndpoint σ} {before after : World σ}
    {figures : Wire.Hal.V1_0.Capabilities} {capabilities : Capabilities}
    (answered : endpoint.getCapabilities.AnswersIn before (0, figures) after)
    (received : receive .v1_0 figures.toCanonical = .ok capabilities) :
    Reports (.v1_0 endpoint) before ⟨"UNKNOWN", .unknown, [], capabilities⟩ after
  | v1_2 {endpoint : Wire.Hal.V1_2.DeviceEndpoint σ} {before first second third after : World σ}
    {versionString : String} {code : Int32} {type : DeviceType} {listed : List Wire.Hal.Extension}
    {extensions : List Extension} {figures : Wire.Hal.V1_2.Capabilities} {capabilities : Capabilities}
    (named : endpoint.getVersionString.AnswersIn before (0, versionString) first)
    (typed : endpoint.getType.AnswersIn first (0, code) second)
    (typeReceived : WireEnum.ofWire .v1_2 code = .ok type)
    (extended : endpoint.getSupportedExtensions.AnswersIn second (0, listed) third)
    (extensionsReceived :
      listed.mapM (fun extension => receive .v1_2 extension.toCanonical) = .ok extensions)
    (answered : endpoint.getCapabilities.AnswersIn third (0, figures) after)
    (received : receive .v1_2 figures.toCanonical = .ok capabilities) :
    Reports (.v1_2 endpoint) before ⟨versionString, type, extensions, capabilities⟩ after
  | aidl {endpoint : Wire.Aidl.DeviceEndpoint σ} {before first second third after : World σ}
    {versionString : String} {code : Int32} {type : DeviceType} {listed : List Wire.Aidl.Extension}
    {extensions : List Extension} {figures : Wire.Aidl.Capabilities} {capabilities : Capabilities}
    (named : endpoint.getVersionString.AnswersIn before versionString first)
    (typed : endpoint.getType.AnswersIn first code second)
    (typeReceived : WireEnum.ofWire .aidl code = .ok type)
    (extended : endpoint.getSupportedExtensions.AnswersIn second listed third)
    (extensionsReceived :
      listed.mapM (fun extension => receive .aidl extension.toCanonical) = .ok extensions)
    (answered : endpoint.getCapabilities.AnswersIn third figures after)
    (received : receive .aidl figures.toCanonical = .ok capabilities) :
    Reports (.aidl endpoint) before ⟨versionString, type, extensions, capabilities⟩ after

namespace DeviceInfo

private theorem apply_read_eq_ok_iff {endpoint : DeviceEndpoint σ} {info : DeviceInfo} {world later : World σ} :
    (read endpoint).apply world = (.ok info, later) ↔ endpoint.Reports world info later := by
  cases endpoint with
  | v1_0 endpoint =>
    simp only [read, readV1_0, apply_bind_eq_ok_iff, World.apply_callHal_eq_ok_iff, apply_ofResult_eq_ok_iff,
      apply_pure_eq_ok_iff]
    constructor
    · rintro ⟨figures, _, answered, capabilities, _, ⟨received, rfl⟩, rfl, rfl⟩
      exact .v1_0 answered received
    · rintro ⟨answered, received⟩
      exact ⟨_, _, answered, _, _, ⟨received, rfl⟩, rfl, rfl⟩
  | v1_2 endpoint =>
    simp only [read, readV1_2, apply_bind_eq_ok_iff, World.apply_callHal_eq_ok_iff, apply_ofResult_eq_ok_iff,
      apply_pure_eq_ok_iff]
    constructor
    · rintro ⟨versionString, _, named, code, _, typed, type, _, ⟨known, rfl⟩, listed, _, extended, extensions, _,
        ⟨accepted, rfl⟩, figures, _, answered, capabilities, _, ⟨received, rfl⟩, rfl, rfl⟩
      exact .v1_2 named typed known extended accepted answered received
    · intro reported
      cases reported with
      | v1_2 named typed known extended accepted answered received =>
        exact ⟨_, _, named, _, _, typed, _, _, ⟨known, rfl⟩, _, _, extended, _, _, ⟨accepted, rfl⟩, _, _, answered,
          _, _, ⟨received, rfl⟩, rfl, rfl⟩
  | aidl endpoint =>
    simp only [read, readAidl, apply_bind_eq_ok_iff, World.apply_call_eq_ok_iff, apply_ofResult_eq_ok_iff,
      apply_pure_eq_ok_iff]
    constructor
    · rintro ⟨versionString, _, named, code, _, typed, type, _, ⟨known, rfl⟩, listed, _, extended, extensions, _,
        ⟨accepted, rfl⟩, figures, _, answered, capabilities, _, ⟨received, rfl⟩, rfl, rfl⟩
      exact .aidl named typed known extended accepted answered received
    · intro reported
      cases reported with
      | aidl named typed known extended accepted answered received =>
        exact ⟨_, _, named, _, _, typed, _, _, ⟨known, rfl⟩, _, _, extended, _, _, ⟨accepted, rfl⟩, _, _, answered,
          _, _, ⟨received, rfl⟩, rfl, rfl⟩

end DeviceInfo

/-- What a caller may rely on: figures and extensions obey their rules and are no newer than `limit`, and the
figures are in the order of the operand types. -/
structure DeviceInfo.IsTrusted (limit : Version) (info : DeviceInfo) : Prop where
  capabilities : Carries limit info.capabilities
  ascending : info.capabilities.operandPerformance.entries.Pairwise fun first second =>
    first.type < second.type
  extensions : ∀ extension ∈ info.extensions, Carries limit extension

namespace PerformanceTable

theorem pairwise_of_isAscending {entries : List OperandPerformance} (ascending : isAscending entries = true) :
    entries.Pairwise fun first second => first.type < second.type :=
  (isAscending_iff.mp ascending).imp Coded.lt_iff.mpr

end PerformanceTable

theorem carries_of_mapM_receive {γ message : Type} [Validate γ] {limit : Version}
    {convert : message → Result γ} {messages : List message} {values : List γ}
    (received : messages.mapM (fun message => receive limit (convert message)) = .ok values) :
    ∀ value ∈ values, Carries limit value := by
  intro value member
  obtain ⟨_, -, accepted⟩ := exists_of_mem_mapM received member
  exact (receive_eq_ok_iff.mp accepted).2

theorem DeviceEndpoint.Reports.isTrusted {endpoint : DeviceEndpoint σ} {before after : World σ}
    {info : DeviceInfo} (reported : endpoint.Reports before info after) :
    info.IsTrusted endpoint.dialect.version := by
  cases reported with
  | v1_0 _ received =>
    obtain ⟨converted, carried⟩ := receive_eq_ok_iff.mp received
    exact ⟨carried, PerformanceTable.pairwise_of_isAscending (Capabilities.isAscending_of_v1_0 converted), nofun⟩
  | v1_2 _ _ _ _ extensions _ received =>
    obtain ⟨converted, carried⟩ := receive_eq_ok_iff.mp received
    exact ⟨carried, PerformanceTable.pairwise_of_isAscending (Capabilities.isAscending_of_v1_2 converted),
      carries_of_mapM_receive extensions⟩
  | aidl _ _ _ _ extensions _ received =>
    obtain ⟨converted, carried⟩ := receive_eq_ok_iff.mp received
    exact ⟨carried, PerformanceTable.pairwise_of_isAscending (Capabilities.isAscending_of_aidl converted),
      carries_of_mapM_receive extensions⟩

theorem DeviceEndpoint.Reports.length_monitors {endpoint : DeviceEndpoint σ} {before after : World σ}
    {info : DeviceInfo} (reported : endpoint.Reports before info after) :
    after.monitors.length = before.monitors.length := by
  cases reported with
  | v1_0 answered _ => exact answered.length_monitors
  | v1_2 named typed _ extended _ answered _ =>
    rw [answered.length_monitors, extended.length_monitors, typed.length_monitors, named.length_monitors]
  | aidl named typed _ extended _ answered _ =>
    rw [answered.length_monitors, extended.length_monitors, typed.length_monitors, named.length_monitors]

/-- What the endpoint answers when it is asked which operations of a model it can run. -/
inductive DeviceEndpoint.Supports (relocated : Model) :
    DeviceEndpoint σ → Shared σ → List Bool → Shared σ → Prop
  | v1_0 {endpoint : Wire.Hal.V1_0.DeviceEndpoint σ} {wire : Wire.Hal.V1_0.Model} {before after : Shared σ}
    {flags : List Bool} (sent : send .v1_0 relocated Wire.Hal.V1_0.Model.ofCanonical = .ok wire)
    (answered : (endpoint.getSupportedOperations wire).Answers before (0, flags) after) :
    Supports relocated (.v1_0 endpoint) before flags after
  | v1_2 {endpoint : Wire.Hal.V1_2.DeviceEndpoint σ} {wire : Wire.Hal.V1_2.Model} {before after : Shared σ}
    {flags : List Bool} (sent : send .v1_2 relocated Wire.Hal.V1_2.Model.ofCanonical = .ok wire)
    (answered : (endpoint.getSupportedOperations wire).Answers before (0, flags) after) :
    Supports relocated (.v1_2 endpoint) before flags after
  | aidl {endpoint : Wire.Aidl.DeviceEndpoint σ} {wire : Wire.Aidl.Model} {before after : Shared σ}
    {flags : List Bool} (sent : send .aidl relocated Wire.Aidl.Model.ofCanonical = .ok wire)
    (answered : (endpoint.getSupportedOperations wire).Answers before flags after) :
    Supports relocated (.aidl endpoint) before flags after

namespace Device

variable {world later : World σ}

private theorem apply_supportFlags_eq_ok_iff {device : Device σ} {relocated : Model} {flags : List Bool} :
    (device.supportFlags relocated).apply world = (.ok flags, later) ↔
      ∃ shared, device.endpoint.Supports relocated world.shared flags shared ∧ world.afterCall shared = later := by
  obtain ⟨name, info, endpoint, options, recipient⟩ := device
  cases endpoint with
  | v1_0 endpoint =>
    simp only [supportFlags, apply_bind_eq_ok_iff, apply_ofResult_eq_ok_iff, World.apply_callHal_eq_ok_iff]
    constructor
    · rintro ⟨wire, _, ⟨sent, rfl⟩, shared, answered, rfl⟩
      exact ⟨shared, .v1_0 sent answered, rfl⟩
    · rintro ⟨shared, supported, rfl⟩
      cases supported with
      | v1_0 sent answered => exact ⟨_, _, ⟨sent, rfl⟩, shared, answered, rfl⟩
  | v1_2 endpoint =>
    simp only [supportFlags, apply_bind_eq_ok_iff, apply_ofResult_eq_ok_iff, World.apply_callHal_eq_ok_iff]
    constructor
    · rintro ⟨wire, _, ⟨sent, rfl⟩, shared, answered, rfl⟩
      exact ⟨shared, .v1_2 sent answered, rfl⟩
    · rintro ⟨shared, supported, rfl⟩
      cases supported with
      | v1_2 sent answered => exact ⟨_, _, ⟨sent, rfl⟩, shared, answered, rfl⟩
  | aidl endpoint =>
    simp only [supportFlags, apply_bind_eq_ok_iff, apply_ofResult_eq_ok_iff, World.apply_call_eq_ok_iff]
    constructor
    · rintro ⟨wire, _, ⟨sent, rfl⟩, shared, answered, rfl⟩
      exact ⟨shared, .aidl sent answered, rfl⟩
    · rintro ⟨shared, supported, rfl⟩
      cases supported with
      | aidl sent answered => exact ⟨_, _, ⟨sent, rfl⟩, shared, answered, rfl⟩

/-- A device with a name is created exactly if its endpoint reports on itself and agrees to tell of its death. -/
theorem create_eq_ok_iff {name : String} {endpoint : DeviceEndpoint σ} {options : ExecutionOptions}
    {device : Device σ} :
    (∃ later, (create name endpoint options).apply world = (.ok device, later)) ↔
      name.isEmpty = false ∧ ∃ info reported after, endpoint.Reports world info reported ∧
        (endpoint.linkToDeath world.monitors.length).Answers reported.shared true after ∧
        ⟨name, info, endpoint, options, world.monitors.length⟩ = device := by
  unfold create
  cases unnamed : name.isEmpty with
  | true =>
    refine iff_of_false ?_ fun named => Bool.false_ne_true named.1.symm
    rintro ⟨_, done⟩
    cases done
  | false =>
    simp only [Bool.false_eq_true, if_false, apply_bind_eq_ok_iff, DeviceInfo.apply_read_eq_ok_iff,
      World.apply_link_eq_ok_iff, apply_pure_eq_ok_iff]
    constructor
    · rintro ⟨_, info, middle, reported, _, _, ⟨rfl, after, linked, rfl⟩, same, rfl⟩
      rw [reported.length_monitors] at linked same
      exact ⟨trivial, info, middle, after, reported, linked, same⟩
    · rintro ⟨-, info, middle, after, reported, linked, same⟩
      rw [← reported.length_monitors] at linked same
      exact ⟨_, info, middle, reported, _, _, ⟨rfl, after, linked, rfl⟩, same, rfl⟩

/-- A device gives exactly the flags that its endpoint answers for the relocated model, if there is one for each
operation. -/
private theorem supportedOperations_eq_ok_iff {device : Device σ} {model : Model} {flags : List Bool} :
    (∃ later, (device.supportedOperations model).apply world = (.ok flags, later)) ↔
      ∃ relocated files shared, model.relocate world.host world.shared.files = .ok (relocated, files) ∧
        device.endpoint.Supports relocated { world.shared with files } flags shared ∧
        flags.length = model.main.operations.length := by
  simp only [supportedOperations, apply_bind_eq_ok_iff, World.apply_relocateModel_eq_ok_iff,
    apply_supportFlags_eq_ok_iff, apply_ofResult_eq_ok_iff, checkFlags, demand_eq_ok_iff, pure_eq_ok_iff]
  constructor
  · rintro ⟨_, relocated, _, ⟨files, moved, rfl⟩, _, _, ⟨shared, supported, rfl⟩, ⟨counted, rfl⟩, -⟩
    exact ⟨relocated, files, shared, moved, supported, counted⟩
  · rintro ⟨relocated, files, shared, moved, supported, counted⟩
    exact ⟨_, relocated, _, ⟨files, moved, rfl⟩, flags, _, ⟨shared, supported, rfl⟩, ⟨counted, rfl⟩, rfl⟩

end Device

/-! Executions. -/

/-- Where both times were measured, that on the device is within that in the driver. -/
def Timing.IsOrdered (timing : Timing) : Prop :=
  ∀ onDevice ∈ timing.timeOnDevice, ∀ inDriver ∈ timing.timeInDriver,
    onDevice.nanoseconds ≤ inDriver.nanoseconds

theorem Timing.isOrdered_notMeasured : Timing.notMeasured.IsOrdered := nofun

/-- What a caller may rely on: measured times obey their rules and are no newer than `limit`. -/
structure Timing.IsTrusted (limit : Version) (timing : Timing) : Prop where
  carried : Carries limit timing
  ordered : timing.IsOrdered

theorem Timing.IsTrusted.of_carries {limit : Version} {timing : Timing} (carried : Carries limit timing) :
    timing.IsTrusted limit := by
  refine ⟨carried, ?_⟩
  obtain ⟨_, valid, -⟩ := carried
  obtain ⟨timeOnDevice, timeInDriver⟩ := timing
  rintro onDevice measured inDriver within
  cases measured
  cases within
  exact Nat.le_of_not_lt (refuse_eq_ok_iff.mp valid).1

/-- What a caller may rely on: shapes and measured times obey their rules and are no newer than `limit`. -/
structure ExecutionResult.IsTrusted (limit : Version) (result : ExecutionResult) : Prop where
  outputShapes : ∀ shape ∈ result.outputShapes, Carries limit shape
  timing : result.timing = .notMeasured ∨ Carries limit result.timing
  ordered : result.timing.IsOrdered

theorem ExecutionResult.isTrusted_of_carries {limit : Version} {result : ExecutionResult}
    (outputShapes : ∀ shape ∈ result.outputShapes, Carries limit shape) (timing : Carries limit result.timing) :
    result.IsTrusted limit :=
  ⟨outputShapes, .inr timing, (Timing.IsTrusted.of_carries timing).ordered⟩

theorem Wire.Hal.V1_2.Report.Gives.isTrusted {report : Wire.Hal.V1_2.Report} {result : ExecutionResult}
    (given : report.Gives result) : result.IsTrusted .v1_2 :=
  ExecutionResult.isTrusted_of_carries (carries_of_mapM_receive given.shapes)
    (receive_eq_ok_iff.mp given.timing).2

theorem Wire.Aidl.ExecutionResult.Gives.isTrusted {report : Wire.Aidl.ExecutionResult}
    {result : NeuralDevice.ExecutionResult} (given : report.Gives result) : result.IsTrusted .aidl := by
  obtain ⟨_, shapes, measured⟩ := given
  split at measured
  · exact ⟨carries_of_mapM_receive shapes, .inl measured, measured ▸ Timing.isOrdered_notMeasured⟩
  · exact ExecutionResult.isTrusted_of_carries (carries_of_mapM_receive shapes)
      (receive_eq_ok_iff.mp measured).2

theorem PreparedEndpoint.Yields.isTrusted {endpoint : PreparedEndpoint σ} {prefersSynchronous : Bool}
    {recipient : Recipient} {settings : ExecutionSettings} {relocated : Request} {world : World σ}
    {after : Shared σ} {result : ExecutionResult}
    (yielded : endpoint.Yields prefersSynchronous recipient settings relocated world result after) :
    result.IsTrusted endpoint.dialect.version := by
  cases yielded with
  | v1_0 _ _ _ notified =>
    obtain ⟨_, _, -, read⟩ := notified.first
    obtain ⟨-, rfl⟩ := Wire.Hal.V1_0.readNotification_eq_ok_iff.mp read
    exact ⟨nofun, .inl rfl, Timing.isOrdered_notMeasured⟩
  | synchronous _ _ _ _ given => exact given.isTrusted
  | launched _ _ _ _ _ notified =>
    obtain ⟨_, _, -, read⟩ := notified.first
    exact (Wire.Hal.V1_2.Report.toCanonical_eq_ok_iff.mp read).isTrusted
  | aidl _ _ _ given => exact given.isTrusted

theorem Wire.Aidl.FencedTimes.Gives.isTrusted {times : Wire.Aidl.FencedTimes}
    {launched fenced : NeuralDevice.Timing} (given : times.Gives launched fenced) :
    launched.IsTrusted .aidl ∧ fenced.IsTrusted .aidl :=
  ⟨.of_carries (receive_eq_ok_iff.mp given.launched).2, .of_carries (receive_eq_ok_iff.mp given.fenced).2⟩

/-- Whatever a caller gets was answered by the endpoint and can be trusted. Operations succeed with these answers
only, so one that gets an answer that breaks a rule fails, whichever way it came. -/
theorem replies_are_checked :
    (∀ (name : String) (endpoint : DeviceEndpoint σ) (options : ExecutionOptions) (device : Device σ)
      (world : World σ), (∃ later, (Device.create name endpoint options).apply world = (.ok device, later)) ↔
        name.isEmpty = false ∧ ∃ info reported after, endpoint.Reports world info reported ∧
          (endpoint.linkToDeath world.monitors.length).Answers reported.shared true after ∧
          ⟨name, info, endpoint, options, world.monitors.length⟩ = device ∧
          device.info.IsTrusted endpoint.dialect.version) ∧
    (∀ (device : Device σ) (model : Model) (flags : List Bool) (world : World σ),
      (∃ later, (device.supportedOperations model).apply world = (.ok flags, later)) ↔
        ∃ relocated files shared, model.relocate world.host world.shared.files = .ok (relocated, files) ∧
          device.endpoint.Supports relocated { world.shared with files } flags shared ∧
          flags.length = model.main.operations.length) ∧
    (∀ (prepared : PreparedModel σ) (request : Request) (settings : ExecutionSettings)
      (result : ExecutionResult) (world : World σ),
      (∃ later, (prepared.execute request settings).apply world = (.ok (.ended result), later)) ↔
        ∃ relocated files shared, request.relocate world.host world.shared.files = .ok (relocated, files) ∧
          prepared.endpoint.Yields prepared.options.preferSynchronous prepared.recipient settings relocated
            { world with shared := { world.shared with files } } result shared ∧
          (request.hasNoPointerData = true ∨
            ∃ host, request.restore relocated shared.files world.host = (.ok (), host)) ∧
          result.IsTrusted prepared.endpoint.dialect.version) ∧
    ∀ (prepared : PreparedModel σ) (request : Request) (settings : FencedSettings) (fence : Fence)
      (times : Action (World σ) (Timing × Timing)) (world later : World σ),
      (prepared.executeFenced request settings).apply world = (.ok (.ended (fence, times)), later) →
      ∃ relocated files getExecutionInfo shared,
        request.relocate world.host world.shared.files = .ok (relocated, files) ∧
        prepared.endpoint.LaunchesFenced settings relocated { world.shared with files } getExecutionInfo
          shared ∧
        ∀ before launched fenced, (∃ after, times.apply before = (.ok (launched, fenced), after)) ↔
          ∃ answer after, getExecutionInfo.Answers before.shared answer after ∧
            answer.Gives launched fenced ∧
            launched.IsTrusted prepared.endpoint.dialect.version ∧
            fenced.IsTrusted prepared.endpoint.dialect.version := by
  refine ⟨fun name endpoint options device world => ?_,
    fun device model flags world => Device.supportedOperations_eq_ok_iff,
    fun prepared request settings result world => ?_,
    fun prepared request settings fence times world later done => ?_⟩
  · rw [Device.create_eq_ok_iff]
    constructor
    · rintro ⟨named, info, shared, after, reported, linked, rfl⟩
      exact ⟨named, info, shared, after, reported, linked, rfl, reported.isTrusted⟩
    · rintro ⟨named, info, shared, after, reported, linked, same, -⟩
      exact ⟨named, info, shared, after, reported, linked, same⟩
  · rw [PreparedModel.execute_eq_ok_iff]
    constructor
    · rintro ⟨relocated, files, shared, moved, yielded, restored⟩
      exact ⟨relocated, files, shared, moved, yielded, restored, yielded.isTrusted⟩
    · rintro ⟨relocated, files, shared, moved, yielded, restored, -⟩
      exact ⟨relocated, files, shared, moved, yielded, restored⟩
  · obtain ⟨relocated, files, getExecutionInfo, shared, moved, launchedFenced, rfl⟩ :=
      PreparedModel.executeFenced_launches done
    refine ⟨relocated, files, getExecutionInfo, shared, moved, launchedFenced, ?_⟩
    intro before launched fenced
    simp only [PreparedModel.fencedTimes_eq_ok_iff, launchedFenced.dialect_eq]
    constructor
    · rintro ⟨_, answer, after, answered, given, -⟩
      exact ⟨answer, after, answered, given, given.isTrusted⟩
    · rintro ⟨answer, after, answered, given, -⟩
      exact ⟨_, answer, after, answered, given, rfl⟩

/-- A prepared model that takes four nanoseconds of the five in its driver, and three of four behind fences. -/
def honestPrepared : Wire.Aidl.PreparedEndpoint Unit :=
  ⟨fun _ _ => pure ⟨true, [⟨[2, 3], true⟩], some ⟨4, 5⟩⟩,
    fun _ _ _ _ => pure ⟨some (pure ⟨⟨4, 5⟩, ⟨3, 4⟩, 0⟩), none⟩, fun _ => pure true⟩

/-- A device with figures for two types and one extension. -/
def honestDevice : Wire.Aidl.DeviceEndpoint Unit :=
  let figures : Option PerformanceInfo := some ⟨.one, .one⟩
  ⟨pure "1", pure 2, pure [⟨"extension", [⟨1, true, 4⟩]⟩],
    pure ⟨figures, figures, [⟨0, figures⟩, ⟨4, figures⟩], figures, figures⟩,
    fun _ => pure [true], fun _ _ => pure honestPrepared, fun _ => pure true⟩

/-- A model of one operation. -/
def floorModel : Model :=
  ⟨⟨[⟨.builtin .tensorFloat32, [1], .zero, 0, .subgraphInput, .empty, .none⟩,
      ⟨.builtin .tensorFloat32, [1], .zero, 0, .subgraphOutput, .empty, .none⟩],
    [⟨.builtin .floor, [0], [1]⟩], [0], [1]⟩, [], [], [], false, []⟩

/-- What an honest endpoint answers is handed out. -/
theorem honest_replies_are_checked :
    let world : World Unit := ⟨⟨.empty, .empty, [], ()⟩, ⟨[]⟩, [.new], ⟨0⟩⟩
    let device : Device Unit := ⟨"honest", default, .aidl honestDevice, .standard, 0⟩
    let prepared : PreparedModel Unit := ⟨.aidl honestPrepared, .standard, 0⟩
    (∃ device later, (Device.create "honest" (.aidl honestDevice) .standard).apply world = (.ok device, later) ∧
      device.info.IsTrusted .aidl) ∧
    (∃ flags later, (device.supportedOperations floorModel).apply world = (.ok flags, later) ∧
      flags.length = floorModel.main.operations.length) ∧
    (∃ result later, (prepared.execute ⟨[], [], []⟩ ⟨.yes, none, none⟩).apply world = (.ok (.ended result), later) ∧
      result.timing = ⟨some ⟨4⟩, some ⟨5⟩⟩ ∧ result.IsTrusted .aidl) ∧
    ∃ fence times later,
      (prepared.executeFenced ⟨[], [], []⟩ ⟨⟨.yes, none, none⟩, [], none⟩).apply world =
        (.ok (.ended (fence, times)), later) ∧
      ∃ launched fenced after, times.apply world = (.ok (launched, fenced), after) ∧
        launched.IsTrusted .aidl ∧ fenced.IsTrusted .aidl := by
  intro world device prepared
  refine ⟨⟨_, _, rfl, ?_⟩, ⟨_, _, rfl, ?_⟩, ⟨_, _, rfl, rfl, ?_⟩, _, _, _, rfl, _, _, _, rfl, ?_⟩
  · obtain ⟨-, _, _, _, -, -, -, trusted⟩ :=
      (replies_are_checked.1 "honest" (.aidl honestDevice) .standard _ world).mp ⟨_, rfl⟩
    exact trusted
  · obtain ⟨_, _, _, -, -, counted⟩ := (replies_are_checked.2.1 device floorModel _ world).mp ⟨_, rfl⟩
    exact counted
  · obtain ⟨_, _, _, -, -, -, trusted⟩ :=
      (replies_are_checked.2.2.1 prepared ⟨[], [], []⟩ ⟨.yes, none, none⟩ _ world).mp ⟨_, rfl⟩
    exact trusted
  · obtain ⟨_, _, _, _, -, -, each⟩ := replies_are_checked.2.2.2 prepared ⟨[], [], []⟩
      ⟨⟨.yes, none, none⟩, [], none⟩ _ _ world _ rfl
    obtain ⟨_, _, -, -, trusted⟩ := (each world _ _).mp ⟨_, rfl⟩
    exact trusted

end NeuralDevice
