import NeuralDevice.Proofs.Execution.Report
import NeuralDevice.Proofs.Remote.Misreport

/-!
Failures have the status of a failure. The one exception is a call of an AIDL endpoint that fails with the code of
success: then, and only then, a caller gets an error with the status of success.
-/

namespace NeuralDevice

open NeuralDevice.Action Result

variable {σ : Type}

/-! Devices. -/

/-- A call for what a device says about itself fails with the code of success, after those before it were answered. -/
inductive DeviceEndpoint.MisreportsInfo : DeviceEndpoint σ → World σ → World σ → Prop
  | versionString {endpoint : Wire.Aidl.DeviceEndpoint σ} {before after : World σ}
    (failed : endpoint.getVersionString.FailsIn before (.serviceSpecific 0) after) :
    MisreportsInfo (.aidl endpoint) before after
  | type {endpoint : Wire.Aidl.DeviceEndpoint σ} {before middle after : World σ} {versionString : String}
    (version : endpoint.getVersionString.AnswersIn before versionString middle)
    (failed : endpoint.getType.FailsIn middle (.serviceSpecific 0) after) :
    MisreportsInfo (.aidl endpoint) before after
  | extensions {endpoint : Wire.Aidl.DeviceEndpoint σ} {before middle later after : World σ}
    {versionString : String} {code : Int32} {type : DeviceType}
    (version : endpoint.getVersionString.AnswersIn before versionString middle)
    (typed : endpoint.getType.AnswersIn middle code later) (named : WireEnum.ofWire .aidl code = .ok type)
    (failed : endpoint.getSupportedExtensions.FailsIn later (.serviceSpecific 0) after) :
    MisreportsInfo (.aidl endpoint) before after
  | capabilities {endpoint : Wire.Aidl.DeviceEndpoint σ} {before middle later last after : World σ}
    {versionString : String} {code : Int32} {type : DeviceType} {wire : List Wire.Aidl.Extension}
    {extensions : List Extension}
    (version : endpoint.getVersionString.AnswersIn before versionString middle)
    (typed : endpoint.getType.AnswersIn middle code later) (named : WireEnum.ofWire .aidl code = .ok type)
    (extended : endpoint.getSupportedExtensions.AnswersIn later wire last)
    (received : wire.mapM (fun extension => receive .aidl extension.toCanonical) = .ok extensions)
    (failed : endpoint.getCapabilities.FailsIn last (.serviceSpecific 0) after) :
    MisreportsInfo (.aidl endpoint) before after

private theorem DeviceInfo.readAidl_misreports_iff {endpoint : Wire.Aidl.DeviceEndpoint σ} {before after : World σ} :
    (readAidl endpoint).Misreports before after ↔
      (DeviceEndpoint.aidl endpoint).MisreportsInfo before after := by
  have named (code : Int32) : FailsOrdinarily (WireEnum.ofWire .aidl code : Result DeviceType) := by simp
  have received (wire : List Wire.Aidl.Extension) :
      FailsOrdinarily (wire.mapM fun extension => receive .aidl extension.toCanonical) := by simp
  have answered (versionString : String) (type : DeviceType) (extensions : List Extension)
      (capabilities : Wire.Aidl.Capabilities) : (Action.ofResult (receive .aidl capabilities.toCanonical) >>=
        fun capabilities => pure ⟨versionString, type, extensions, capabilities⟩ :
          Action (World σ) DeviceInfo).FailsVisibly :=
    (FailsVisibly.ofResult (by simp)).bind fun _ => .pure _
  unfold readAidl
  constructor
  · intro misreported
    rcases World.callAidl_bind_misreports_iff.mp misreported with
      failed | ⟨versionString, middle, version, misreported⟩
    · exact .versionString failed
    rcases World.callAidl_bind_misreports_iff.mp misreported with failed | ⟨code, later, typed, misreported⟩
    · exact .type version failed
    obtain ⟨type, known, misreported⟩ := (ofResult_bind_misreports_iff (named code)).mp misreported
    rcases World.callAidl_bind_misreports_iff.mp misreported with failed | ⟨wire, last, extended, misreported⟩
    · exact .extensions version typed known failed
    obtain ⟨extensions, kept, misreported⟩ := (ofResult_bind_misreports_iff (received wire)).mp misreported
    have failed := World.callAidl_misreports_iff.mp ((misreports_bind_iff fun capabilities =>
      answered versionString type extensions capabilities).mp misreported)
    exact .capabilities version typed known extended kept failed
  · intro cause
    cases cause with
    | versionString failed => exact failed.misreports
    | type version failed => exact version.misreports failed.misreports
    | extensions version typed known failed =>
      refine version.misreports ?_
      refine typed.misreports (misreports_of_eq_ok known ?_)
      exact failed.misreports
    | capabilities version typed known extended kept failed =>
      refine version.misreports ?_
      refine typed.misreports (misreports_of_eq_ok known ?_)
      refine extended.misreports (misreports_of_eq_ok kept ?_)
      exact failed.misreports

private theorem DeviceInfo.readV1_0_failsVisibly (endpoint : Wire.Hal.V1_0.DeviceEndpoint σ) :
    (readV1_0 endpoint).FailsVisibly :=
  World.callHal_failsVisibly.bind fun _ => (FailsVisibly.ofResult (by simp)).bind fun _ => .pure _

private theorem DeviceInfo.readV1_2_failsVisibly (endpoint : Wire.Hal.V1_2.DeviceEndpoint σ) :
    (readV1_2 endpoint).FailsVisibly := by
  refine World.callHal_failsVisibly.bind fun versionString => World.callHal_failsVisibly.bind fun code => ?_
  refine (FailsVisibly.ofResult (by simp)).bind fun type => World.callHal_failsVisibly.bind fun wire => ?_
  refine (FailsVisibly.ofResult (by simp)).bind fun extensions => World.callHal_failsVisibly.bind fun capabilities => ?_
  exact (FailsVisibly.ofResult (by simp)).bind fun _ => .pure _

private theorem DeviceInfo.read_misreports_iff {endpoint : DeviceEndpoint σ} {before after : World σ} :
    (read endpoint).Misreports before after ↔ endpoint.MisreportsInfo before after := by
  cases endpoint with
  | v1_0 endpoint => exact iff_of_false (readV1_0_failsVisibly endpoint before after) nofun
  | v1_2 endpoint => exact iff_of_false (readV1_2_failsVisibly endpoint before after) nofun
  | aidl endpoint => exact readAidl_misreports_iff

/-- The endpoint fails the call for the operations it supports with the code of success. -/
inductive DeviceEndpoint.MisreportsSupport (relocated : Model) : DeviceEndpoint σ → World σ → World σ → Prop
  | aidl {endpoint : Wire.Aidl.DeviceEndpoint σ} {wire : Wire.Aidl.Model} {before after : World σ}
    (sent : send .aidl relocated Wire.Aidl.Model.ofCanonical = .ok wire)
    (failed : (endpoint.getSupportedOperations wire).FailsIn before (.serviceSpecific 0) after) :
    MisreportsSupport relocated (.aidl endpoint) before after

/-- The endpoint fails the call that prepares a model with the code of success. -/
inductive DeviceEndpoint.MisreportsPreparation (settings : PreparationSettings) (relocated : Model) :
    DeviceEndpoint σ → World σ → World σ → Prop
  | aidl {endpoint : Wire.Aidl.DeviceEndpoint σ} {wire : Wire.Aidl.Model}
    {wireSettings : Wire.Aidl.PreparationSettings} {before after : World σ}
    (sent : send .aidl relocated Wire.Aidl.Model.ofCanonical = .ok wire)
    (given : Device.aidlPreparation settings = .ok wireSettings)
    (failed : (endpoint.prepareModel wire wireSettings).FailsIn before (.serviceSpecific 0) after) :
    MisreportsPreparation settings relocated (.aidl endpoint) before after

namespace Device

variable {before after : World σ}

theorem create_misreports_iff {name : String} {endpoint : DeviceEndpoint σ} {options : ExecutionOptions} :
    (create name endpoint options).Misreports before after ↔
      name.isEmpty = false ∧ endpoint.MisreportsInfo before after := by
  unfold create
  cases name.isEmpty with
  | true => exact iff_of_false (FailsVisibly.throw (DeviceFault.isOrdinary_error _) before after) nofun
  | false =>
    rw [and_iff_right rfl, ← DeviceInfo.read_misreports_iff]
    exact misreports_bind_iff fun info => (World.link_failsVisibly _).bind fun _ => .pure _

private theorem supportFlags_misreports_iff {device : Device σ} {relocated : Model} :
    (device.supportFlags relocated).Misreports before after ↔
      device.endpoint.MisreportsSupport relocated before after := by
  obtain ⟨name, info, endpoint, options, recipient⟩ := device
  cases endpoint with
  | v1_0 endpoint =>
    refine iff_of_false ?_ nofun
    exact ((FailsVisibly.ofResult (by simp)).bind fun _ => World.callHal_failsVisibly) _ _
  | v1_2 endpoint =>
    refine iff_of_false ?_ nofun
    exact ((FailsVisibly.ofResult (by simp)).bind fun _ => World.callHal_failsVisibly) _ _
  | aidl endpoint =>
    refine (ofResult_bind_misreports_iff (by simp)).trans ?_
    simp only [World.callAidl_misreports_iff]
    constructor
    · rintro ⟨wire, sent, failed⟩
      exact .aidl sent failed
    · rintro ⟨sent, failed⟩
      exact ⟨_, sent, failed⟩

theorem supportedOperations_misreports_iff {device : Device σ} {model : Model} :
    (device.supportedOperations model).Misreports before after ↔
      ∃ relocated files, model.relocate before.host before.shared.files = .ok (relocated, files) ∧
        device.endpoint.MisreportsSupport relocated { before with shared := { before.shared with files } } after := by
  unfold supportedOperations
  rw [World.relocateModel_bind_misreports_iff]
  refine exists_congr fun relocated => exists_congr fun files => ?_
  rw [misreports_bind_iff fun flags => .ofResult (failsOrdinarily_checkFlags model flags), supportFlags_misreports_iff]

private theorem prepareV1_0_failsVisibly (endpoint : Wire.Hal.V1_0.DeviceEndpoint σ) (relocated : Model) :
    (prepareV1_0 endpoint relocated).FailsVisibly := by
  refine (FailsVisibly.ofResult (by simp)).bind fun wire => World.callHal_failsVisibly.bind fun prepared => ?_
  cases prepared with
  | none => exact .throw (DeviceFault.isOrdinary_error _)
  | some prepared => exact .pure _

private theorem prepareV1_2_failsVisibly (endpoint : Wire.Hal.V1_2.DeviceEndpoint σ) (settings : PreparationSettings)
    (relocated : Model) : (prepareV1_2 endpoint settings relocated).FailsVisibly := by
  refine (FailsVisibly.ofResult (by simp)).bind fun wire => (FailsVisibly.ofResult (by simp)).bind fun preference => ?_
  refine World.callHal_failsVisibly.bind fun prepared => ?_
  cases prepared with
  | none => exact .throw (DeviceFault.isOrdinary_error _)
  | some prepared => exact .pure _

private theorem prepareAidl_misreports_iff {endpoint : Wire.Aidl.DeviceEndpoint σ} {settings : PreparationSettings}
    {relocated : Model} : (prepareAidl endpoint settings relocated).Misreports before after ↔
      (DeviceEndpoint.aidl endpoint).MisreportsPreparation settings relocated before after := by
  unfold prepareAidl
  rw [ofResult_bind_misreports_iff (by simp)]
  simp only [ofResult_bind_misreports_iff (failsOrdinarily_aidlPreparation settings),
    misreports_bind_iff fun _ => FailsVisibly.pure _, World.callAidl_misreports_iff]
  constructor
  · rintro ⟨wire, sent, wireSettings, given, failed⟩
    exact .aidl sent given failed
  · rintro ⟨sent, given, failed⟩
    exact ⟨_, sent, _, given, failed⟩

theorem prepareModel_misreports_iff {device : Device σ} {model : Model} {settings : PreparationSettings} :
    (device.prepareModel model settings).Misreports before after ↔
      ∃ relocated files, model.relocate before.host before.shared.files = .ok (relocated, files) ∧
        device.endpoint.MisreportsPreparation settings relocated
          { before with shared := { before.shared with files } } after := by
  obtain ⟨name, info, endpoint, options, recipient⟩ := device
  have created (prepared : PreparedEndpoint σ) : (PreparedModel.create prepared options).FailsVisibly :=
    (World.link_failsVisibly _).bind fun _ => .pure _
  unfold prepareModel
  rw [World.relocateModel_bind_misreports_iff]
  refine exists_congr fun relocated => exists_congr fun files => and_congr_right fun moved => ?_
  cases endpoint with
  | v1_0 endpoint =>
    refine iff_of_false ?_ nofun
    exact (prepareV1_0_failsVisibly endpoint relocated).bind created _ after
  | v1_2 endpoint =>
    refine iff_of_false ?_ nofun
    exact (prepareV1_2_failsVisibly endpoint settings relocated).bind created _ after
  | aidl endpoint => exact (misreports_bind_iff created).trans prepareAidl_misreports_iff

end Device

/-! Executions. -/

/-- The endpoint fails the call that runs a request with the code of success. -/
inductive PreparedEndpoint.MisreportsExecution (settings : ExecutionSettings) (relocated : Request) :
    PreparedEndpoint σ → World σ → World σ → Prop
  | aidl {endpoint : Wire.Aidl.PreparedEndpoint σ} {wire : Wire.Aidl.Request}
    {wireSettings : Wire.Aidl.ExecutionSettings} {before after : World σ}
    (sent : send .aidl relocated Wire.Aidl.requestToWire = .ok wire)
    (timed : PreparedModel.aidlSettings settings = .ok wireSettings)
    (failed : (endpoint.executeSynchronously wire wireSettings).FailsIn before (.serviceSpecific 0) after) :
    MisreportsExecution settings relocated (.aidl endpoint) before after

/-- The endpoint fails the call that launches a request behind fences with the code of success. -/
inductive PreparedEndpoint.MisreportsLaunch (settings : FencedSettings) (relocated : Request) :
    PreparedEndpoint σ → World σ → World σ → Prop
  | aidl {endpoint : Wire.Aidl.PreparedEndpoint σ} {wire : Wire.Aidl.Request}
    {wireSettings : Wire.Aidl.ExecutionSettings} {timeoutAfterFence : Int64} {before after : World σ}
    (sent : send .aidl relocated Wire.Aidl.requestToWire = .ok wire)
    (timed : PreparedModel.aidlSettings settings.toExecutionSettings = .ok wireSettings)
    (bounded : Wire.Aidl.durationToWire settings.timeoutAfterFence = .ok timeoutAfterFence)
    (failed : (endpoint.executeFenced wire settings.waitFor wireSettings timeoutAfterFence).FailsIn before
      (.serviceSpecific 0) after) :
    MisreportsLaunch settings relocated (.aidl endpoint) before after

namespace PreparedModel

variable {before after : World σ} {prepared : PreparedModel σ} {request relocated : Request}

private theorem dispatchV1_0_failsVisibly (endpoint : Wire.Hal.V1_0.PreparedEndpoint σ) (settings : ExecutionSettings) :
    (prepared.dispatchV1_0 endpoint settings request).FailsVisibly :=
  (FailsVisibly.ofResult (by simp)).bind fun _ =>
    World.launch_failsVisibly Wire.Hal.V1_0.failsOrdinarily_readNotification

private theorem finalResult_failsVisibly (answer : Except TransportError Wire.Hal.V1_2.Report) :
    Result.FailsVisibly ((finalResult answer).map Waited.ended) := by
  cases answer with
  | ok report => exact (failsOrdinarily_map.mpr report.failsOrdinarily_toCanonical).failsVisibly
  | error failure => exact failsVisibly_error failure.status_error_ne_none

/-- The answer to a synchronous call is final, or the launch decides. -/
private theorem submit_failsVisibly (prefer : Bool) (endpoint : Wire.Hal.V1_2.PreparedEndpoint σ)
    (wire : Wire.Hal.Request) (measure : Int32) {launch : Action (World σ) (Waited ExecutionResult)}
    (visible : launch.FailsVisibly) :
    (submit prefer (attemptV1_2 endpoint wire measure) launch).FailsVisibly := by
  cases prefer with
  | false => exact visible
  | true =>
    rintro before after ⟨error, failed, hidden⟩
    rcases ran : (ExceptT.run (endpoint.executeSynchronously wire measure)).run before.shared with ⟨answer, shared⟩
    rw [submit_true, apply_bind_ok (apply_attemptV1_2 ran)] at failed
    by_cases declines : Declines (answer.map Wire.Hal.V1_2.Report.status)
    · rw [afterAttempt_of_declines declines] at failed
      exact visible _ _ ⟨error, failed, hidden⟩
    · rw [afterAttempt_of_not_declines declines, apply_ofResult] at failed
      exact finalResult_failsVisibly answer error (Prod.mk.inj failed).1 hidden

private theorem dispatchV1_2_failsVisibly (endpoint : Wire.Hal.V1_2.PreparedEndpoint σ) (settings : ExecutionSettings) :
    (prepared.dispatchV1_2 endpoint settings request).FailsVisibly :=
  (FailsVisibly.ofResult (by simp)).bind fun wire => (FailsVisibly.ofResult (by simp)).bind fun measure =>
    submit_failsVisibly _ endpoint wire measure
      (World.launch_failsVisibly Wire.Hal.V1_2.Report.failsOrdinarily_toCanonical)

private theorem dispatchAidl_misreports_iff {endpoint : Wire.Aidl.PreparedEndpoint σ} {settings : ExecutionSettings} :
    (dispatchAidl endpoint settings relocated).Misreports before after ↔
      (PreparedEndpoint.aidl endpoint).MisreportsExecution settings relocated before after := by
  unfold dispatchAidl
  rw [ofResult_bind_misreports_iff (by simp)]
  simp only [ofResult_bind_misreports_iff (failsOrdinarily_aidlSettings settings),
    misreports_bind_iff fun result =>
      .ofResult (failsOrdinarily_map.mpr (Wire.Aidl.ExecutionResult.failsOrdinarily_toCanonical result)),
    World.callAidl_misreports_iff]
  constructor
  · rintro ⟨wire, sent, wireSettings, timed, failed⟩
    exact .aidl sent timed failed
  · rintro ⟨sent, timed, failed⟩
    exact ⟨_, sent, _, timed, failed⟩

private theorem dispatch_misreports_iff {settings : ExecutionSettings} :
    (prepared.dispatch settings relocated).Misreports before after ↔
      prepared.endpoint.MisreportsExecution settings relocated before after := by
  obtain ⟨endpoint, options, recipient⟩ := prepared
  cases endpoint with
  | v1_0 endpoint => exact iff_of_false (dispatchV1_0_failsVisibly endpoint settings before after) nofun
  | v1_2 endpoint => exact iff_of_false (dispatchV1_2_failsVisibly endpoint settings before after) nofun
  | aidl endpoint => exact dispatchAidl_misreports_iff

theorem execute_misreports_iff {settings : ExecutionSettings} :
    (prepared.execute request settings).Misreports before after ↔
      ∃ relocated files, request.relocate before.host before.shared.files = .ok (relocated, files) ∧
        prepared.endpoint.MisreportsExecution settings relocated
          { before with shared := { before.shared with files } } after := by
  rw [execute_eq, World.executeRelocated, World.relocateRequest_bind_misreports_iff]
  refine exists_congr fun relocated => exists_congr fun files => and_congr_right fun moved => ?_
  refine (misreports_bind_iff fun result => ?_).trans dispatch_misreports_iff
  split
  · exact (World.restoreRequest_failsVisibly request relocated).bind fun _ => .pure _
  · exact .pure _

private theorem replyFence_failsVisibly (fence : Option Fence) :
    (replyFence fence : Action (World σ) Fence).FailsVisibly := by
  cases fence with
  | some fence => exact .pure fence
  | none => exact .ofStep fun _ => nofun

private theorem restoreOn_failsVisibly (waited : Waited FenceState) :
    (restoreOn waited request relocated : Action (World σ) (Waited Unit)).FailsVisibly :=
  match waited with
  | .ended .signaled => (World.restoreRequest_failsVisibly request relocated).bind fun _ => .pure _
  | .ended .active | .ended .error => .throw (ExecutionFault.isOrdinary_error _)
  | .never => .pure _

private theorem restoreAfter_failsVisibly (fence : Fence) (deadline : Option TimePoint) :
    (prepared.restoreAfter fence deadline request relocated).FailsVisibly :=
  FailsVisibly.get.bind fun _ => restoreOn_failsVisibly _

theorem executeFenced_misreports_iff {settings : FencedSettings} :
    (prepared.executeFenced request settings).Misreports before after ↔
      ∃ relocated files, request.relocate before.host before.shared.files = .ok (relocated, files) ∧
        prepared.endpoint.MisreportsLaunch settings relocated
          { before with shared := { before.shared with files } } after := by
  obtain ⟨endpoint, options, recipient⟩ := prepared
  cases endpoint with
  | v1_0 endpoint =>
    refine iff_of_false (FailsVisibly.throw (ExecutionFault.isOrdinary_error _) before after) ?_
    rintro ⟨relocated, files, -, ⟨⟩⟩
  | v1_2 endpoint =>
    refine iff_of_false (FailsVisibly.throw (ExecutionFault.isOrdinary_error _) before after) ?_
    rintro ⟨relocated, files, -, ⟨⟩⟩
  | aidl endpoint =>
    refine World.relocateRequest_bind_misreports_iff.trans ?_
    refine exists_congr fun relocated => exists_congr fun files => and_congr_right fun moved => ?_
    refine ⟨fun misreported => ?_, ?_⟩
    · obtain ⟨wire, sent, misreported⟩ := (ofResult_bind_misreports_iff (by simp)).mp misreported
      obtain ⟨wireSettings, timed, misreported⟩ := (ofResult_bind_misreports_iff (by simp)).mp misreported
      obtain ⟨timeoutAfterFence, bounded, misreported⟩ := (ofResult_bind_misreports_iff (by simp)).mp misreported
      rcases World.callAidl_bind_misreports_iff.mp misreported with
        failed | ⟨⟨getExecutionInfo, fence⟩, middle, answered, misreported⟩
      · exact .aidl sent timed bounded failed
      · cases getExecutionInfo with
        | none => exact absurd misreported (FailsVisibly.throw (ExecutionFault.isOrdinary_error _) _ _)
        | some getExecutionInfo =>
          refine absurd misreported ((replyFence_failsVisibly fence).bind (fun fence => ?_) _ _)
          split
          · exact .pure _
          · exact (restoreAfter_failsVisibly fence settings.deadline).bind fun _ => .pure _
    · rintro ⟨sent, timed, bounded, failed⟩
      exact misreports_of_eq_ok sent (misreports_of_eq_ok timed (misreports_of_eq_ok bounded failed.misreports))

private theorem fencedTimes_misreports_iff {getExecutionInfo : Call σ Wire.Aidl.FencedTimes} :
    (fencedTimes getExecutionInfo).Misreports before after ↔
      getExecutionInfo.FailsIn before (.serviceSpecific 0) after := by
  unfold fencedTimes
  rw [misreports_bind_iff fun times => .ofResult times.failsOrdinarily_toCanonical, World.callAidl_misreports_iff]

end PreparedModel

/-- Which errors have the status of success, and when a caller gets one. -/
structure FailuresAreTold (σ : Type) : Prop where
  transport : ∀ failure : TransportError, failure.error.status ≠ .none
  service : ∀ failure : TransportError, failure.errorWithStatus.status = .none ↔ failure = .serviceSpecific 0
  /-- The 1.x versions tell of all their failures. -/
  halCreated : ∀ name (endpoint : DeviceEndpoint σ) options, endpoint.dialect ≠ .aidl →
    (Device.create name endpoint options).FailsVisibly
  halDevices : ∀ device : Device σ, device.endpoint.dialect ≠ .aidl → ∀ model,
    (device.supportedOperations model).FailsVisibly ∧ ∀ settings, (device.prepareModel model settings).FailsVisibly
  halModels : ∀ prepared : PreparedModel σ, prepared.endpoint.dialect ≠ .aidl → ∀ request,
    (∀ settings, (prepared.execute request settings).FailsVisibly) ∧
      ∀ settings, (prepared.executeFenced request settings).FailsVisibly
  created : ∀ name (endpoint : DeviceEndpoint σ) options before after,
    (Device.create name endpoint options).Misreports before after ↔
      name.isEmpty = false ∧ endpoint.MisreportsInfo before after
  supported : ∀ (device : Device σ) model before after, (device.supportedOperations model).Misreports before after ↔
    ∃ relocated files, model.relocate before.host before.shared.files = .ok (relocated, files) ∧
      device.endpoint.MisreportsSupport relocated { before with shared := { before.shared with files } } after
  prepared : ∀ (device : Device σ) model settings before after,
    (device.prepareModel model settings).Misreports before after ↔
      ∃ relocated files, model.relocate before.host before.shared.files = .ok (relocated, files) ∧
        device.endpoint.MisreportsPreparation settings relocated
          { before with shared := { before.shared with files } } after
  executed : ∀ (prepared : PreparedModel σ) request settings before after,
    (prepared.execute request settings).Misreports before after ↔
      ∃ relocated files, request.relocate before.host before.shared.files = .ok (relocated, files) ∧
        prepared.endpoint.MisreportsExecution settings relocated
          { before with shared := { before.shared with files } } after
  launched : ∀ (prepared : PreparedModel σ) request settings before after,
    (prepared.executeFenced request settings).Misreports before after ↔
      ∃ relocated files, request.relocate before.host before.shared.files = .ok (relocated, files) ∧
        prepared.endpoint.MisreportsLaunch settings relocated
          { before with shared := { before.shared with files } } after
  /-- The times are asked for as the answer to the launch says. -/
  timed : ∀ (prepared : PreparedModel σ) request settings before after fence times,
    (prepared.executeFenced request settings).apply before = (.ok (.ended (fence, times)), after) →
      ∃ relocated files getExecutionInfo launched,
        request.relocate before.host before.shared.files = .ok (relocated, files) ∧
        prepared.endpoint.LaunchesFenced settings relocated { before.shared with files } getExecutionInfo launched ∧
        ∀ world later, times.Misreports world later ↔ getExecutionInfo.FailsIn world (.serviceSpecific 0) later

/-- A caller gets an error with the status of success exactly if the endpoint is one of the AIDL version and fails the
call that it is asked with the code of success. -/
theorem failures_are_told : FailuresAreTold σ where
  transport := TransportError.status_error_ne_none
  service _ := TransportError.status_errorWithStatus_eq_none_iff
  halCreated name endpoint options apart before after misreported := by
    obtain ⟨-, cause⟩ := Device.create_misreports_iff.mp misreported
    cases cause <;> exact apart rfl
  halDevices device apart model := by
    obtain ⟨name, info, endpoint, options, recipient⟩ := device
    constructor
    · intro before after misreported
      obtain ⟨_, _, -, cause⟩ := Device.supportedOperations_misreports_iff.mp misreported
      cases cause
      exact apart rfl
    · intro settings before after misreported
      obtain ⟨_, _, -, cause⟩ := Device.prepareModel_misreports_iff.mp misreported
      cases cause
      exact apart rfl
  halModels prepared apart request := by
    obtain ⟨endpoint, options, recipient⟩ := prepared
    constructor
    · intro settings before after misreported
      obtain ⟨_, _, -, cause⟩ := PreparedModel.execute_misreports_iff.mp misreported
      cases cause
      exact apart rfl
    · intro settings before after misreported
      obtain ⟨_, _, -, cause⟩ := PreparedModel.executeFenced_misreports_iff.mp misreported
      cases cause
      exact apart rfl
  created _ _ _ _ _ := Device.create_misreports_iff
  supported _ _ _ _ := Device.supportedOperations_misreports_iff
  prepared _ _ _ _ _ := Device.prepareModel_misreports_iff
  executed _ _ _ _ _ := PreparedModel.execute_misreports_iff
  launched _ _ _ _ _ := PreparedModel.executeFenced_misreports_iff
  timed prepared request settings before after fence times done := by
    obtain ⟨relocated, files, getExecutionInfo, launched, moved, launches, rfl⟩ :=
      PreparedModel.executeFenced_launches done
    exact ⟨relocated, files, getExecutionInfo, launched, moved, launches, fun _ _ =>
      PreparedModel.fencedTimes_misreports_iff⟩

/-- An AIDL endpoint that fails whatever it is asked, with the code of success. -/
def contraryEndpoint : Wire.Aidl.DeviceEndpoint Unit :=
  ⟨throw (.serviceSpecific 0), throw (.serviceSpecific 0), throw (.serviceSpecific 0), throw (.serviceSpecific 0),
    fun _ => throw (.serviceSpecific 0), fun _ _ => throw (.serviceSpecific 0), fun _ => pure true⟩

/-- The code of success becomes the status of an error, and a caller gets that error. -/
theorem codes_of_success_are_hidden :
    (TransportError.serviceSpecific 0).errorWithStatus.status = .none ∧
      ((Device.create "contrary" (.aidl contraryEndpoint) .standard).apply
        ⟨⟨.empty, .empty, [], ()⟩, ⟨[]⟩, [], ⟨0⟩⟩).1 =
          .error (.execution .none "remote call failed with service-specific error 0") :=
  ⟨rfl, rfl⟩

end NeuralDevice
