import NeuralDevice.Proofs.Execution.Asynchronous
import NeuralDevice.Proofs.Failure.Report
import NeuralDevice.Proofs.Remote.Mirror

/-!
Requests are submitted once. Nothing is submitted unless the request can be moved, checked and converted; then
one call runs it, and only a version 1.2 endpoint that declined the synchronous call is asked a second time.
-/

namespace NeuralDevice

open NeuralDevice.Action

variable {σ : Type}

/-- An answer that makes room for an asynchronous attempt: the endpoint answered, and neither with success nor
that outputs were too small. -/
def Declines (answer : Except TransportError Int32) : Prop :=
  ∃ status, answer = .ok status ∧ status ≠ 0 ∧ status ≠ 3

theorem Declines.answered {α : Type} {status : α → Int32} {answer : Except TransportError α}
    (declines : Declines (answer.map status)) :
    ∃ value, answer = .ok value ∧ status value ≠ 0 ∧ status value ≠ 3 := by
  obtain ⟨_, answered, failed, large⟩ := declines
  cases answer with
  | ok value =>
    cases answered
    exact ⟨value, rfl, failed, large⟩
  | error failure => cases answered

namespace PreparedModel

private theorem run_recorded_executeSynchronously {endpoint : Wire.Hal.V1_2.PreparedEndpoint σ}
    {wire : Wire.Hal.Request} {measure : Int32} {before after : Shared σ}
    {answer : Except TransportError Wire.Hal.V1_2.Report}
    (ran : (ExceptT.run (endpoint.executeSynchronously wire measure)).run before = (answer, after))
    (noted : List Exchange) :
    (ExceptT.run (endpoint.recorded.executeSynchronously wire measure)).run (before.recorded noted) =
      (answer, after.recorded (noted ++ [.ofRun Wire.Hal.V1_2.Report.status answer after.notices])) := by
  refine (Call.run_recorded (.ofRun Wire.Hal.V1_2.Report.status) id ran noted).trans ?_
  cases answer <;> rfl

/-- The result of an answer that is final. -/
def finalResult (answer : Except TransportError Wire.Hal.V1_2.Report) : Result ExecutionResult :=
  match answer with
  | .ok report => report.toCanonical
  | .error failure => throw failure.error

/-- What follows a synchronous attempt. -/
def afterAttempt (asynchronous : Action (World σ) (Waited ExecutionResult)) :
    SyncOutcome (Waited ExecutionResult) → Action (World σ) (Waited ExecutionResult)
  | .completed result => Action.ofResult result
  | .transportFailed error => throw error
  | .declined _ | .unsupported => asynchronous

theorem submit_true (synchronous : Action (World σ) (SyncOutcome (Waited ExecutionResult)))
    (asynchronous : Action (World σ) (Waited ExecutionResult)) :
    submit true synchronous asynchronous = synchronous >>= afterAttempt asynchronous :=
  congrArg (synchronous >>= ·) <| funext fun outcome => by cases outcome <;> rfl

theorem afterAttempt_of_declines {answer : Except TransportError Wire.Hal.V1_2.Report}
    (declines : Declines (answer.map Wire.Hal.V1_2.Report.status))
    (asynchronous : Action (World σ) (Waited ExecutionResult)) :
    afterAttempt asynchronous (attempted answer) = asynchronous := by
  obtain ⟨report, rfl, failed, large⟩ := declines.answered
  simp only [attempted, Wire.Hal.V1_2.Report.outcome]
  split
  · rename_i none
    exact absurd (ErrorStatus.ofWire_eq_none_iff.mp none) failed
  · rename_i small
    exact absurd (ErrorStatus.ofWire_eq_outputInsufficientSize_iff.mp small) large
  · rfl

theorem afterAttempt_of_not_declines {answer : Except TransportError Wire.Hal.V1_2.Report}
    (final : ¬Declines (answer.map Wire.Hal.V1_2.Report.status))
    (asynchronous : Action (World σ) (Waited ExecutionResult)) :
    afterAttempt asynchronous (attempted answer) = Action.ofResult ((finalResult answer).map .ended) := by
  cases answer with
  | error failure => rfl
  | ok report =>
    simp only [attempted, Wire.Hal.V1_2.Report.outcome]
    split
    · rfl
    · rfl
    · rename_i none small
      refine absurd ⟨report.status, rfl, ?_, ?_⟩ final
      · exact fun zero => none (ErrorStatus.ofWire_eq_none_iff.mpr zero)
      · exact fun three => small (ErrorStatus.ofWire_eq_outputInsufficientSize_iff.mpr three)

theorem submit_mirrors (endpoint : Wire.Hal.V1_2.PreparedEndpoint σ) (wire : Wire.Hal.Request)
    (measure : Int32) {asynchronous : Action (World σ) (Waited ExecutionResult)}
    {asynchronous' : Action (World (Recorded σ)) (Waited ExecutionResult)}
    {law whole : Law σ (Waited ExecutionResult)}
    {preferSynchronous : Bool} (launched : asynchronous.Mirrors (Via id) law asynchronous')
    (direct : preferSynchronous = false → ∀ world result exchanges,
      law world result exchanges → whole world result exchanges)
    (final : preferSynchronous = true → ∀ world answer told,
      ¬Declines (answer.map Wire.Hal.V1_2.Report.status) →
      whole world ((finalResult answer).map .ended) [.ofRun Wire.Hal.V1_2.Report.status answer told])
    (declined : preferSynchronous = true → ∀ (world : World σ) shared answer result exchanges,
      Declines (answer.map Wire.Hal.V1_2.Report.status) → law (world.afterCall shared) result exchanges →
      whole world result (.ofRun Wire.Hal.V1_2.Report.status answer shared.notices :: exchanges)) :
    (submit preferSynchronous (attemptV1_2 endpoint wire measure) asynchronous).Mirrors (Via id) whole
      (submit preferSynchronous (attemptV1_2 endpoint.recorded wire measure) asynchronous') := by
  cases preferSynchronous with
  | false => exact launched.weaken fun world exchanges => direct rfl world _ exchanges
  | true =>
    intro world noted
    rcases ran : (ExceptT.run (endpoint.executeSynchronously wire measure)).run world.shared with
      ⟨answer, shared⟩
    have tried' : (attemptV1_2 endpoint.recorded wire measure).apply (world.recorded noted) = _ :=
      apply_attemptV1_2 (run_recorded_executeSynchronously ran noted)
    rw [submit_true, submit_true, apply_bind_ok (apply_attemptV1_2 ran), apply_bind_ok tried']
    let exchange := Exchange.ofRun Wire.Hal.V1_2.Report.status answer shared.notices
    by_cases declines : Declines (answer.map Wire.Hal.V1_2.Report.status)
    · rw [afterAttempt_of_declines declines, afterAttempt_of_declines declines]
      obtain ⟨exchanges, agree, later, lawful⟩ := launched (world.afterCall shared) (noted ++ [exchange])
      rw [World.afterCall_recorded]
      refine ⟨exchange :: exchanges, agree, later.trans ?_,
        declined rfl world shared answer _ _ declines lawful⟩
      rw [List.append_assoc]
      rfl
    · rw [afterAttempt_of_not_declines declines, afterAttempt_of_not_declines declines]
      exact ⟨[exchange], .refl _, World.afterCall_recorded world shared noted _,
        final rfl world answer shared.notices declines⟩

/-- The request and the settings pass their checks and can be converted. -/
def Converts (prepared : PreparedModel σ) (settings : ExecutionSettings) (relocated : Request) : Prop :=
  (∃ message, (Crossing.request prepared.endpoint.dialect).send relocated = .ok message) ∧
    prepared.Sends settings

/-- The request can be moved out of host memory, and what is then to be sent can be converted. -/
def CanSubmit (prepared : PreparedModel σ) (request : Request) (settings : ExecutionSettings)
    (world : World σ) : Prop :=
  ∃ relocated files, request.relocate world.host world.shared.files = .ok (relocated, files) ∧
    prepared.Converts settings relocated

/-- How a request that can be sent is submitted: once, but for an asynchronous call of version 1.2 after a
synchronous one that was declined. -/
def Submits (prepared : PreparedModel σ) (exchanges : List Exchange) : Prop :=
  match prepared.endpoint, prepared.options.preferSynchronous with
  | .aidl _, _ => ∃ answer told, exchanges = [.synchronous answer told]
  | .v1_0 _, _ | .v1_2 _, false => ∃ answer deaths, exchanges = [.launched answer deaths]
  | .v1_2 _, true =>
    ∃ answer told, ¬Declines answer ∧ exchanges = [.synchronous answer told] ∨
      Declines answer ∧ ∃ status deaths, exchanges = [.synchronous answer told, .launched status deaths]

/-- A request is submitted if it can be, and otherwise nothing is. -/
def Law.submits (prepared : PreparedModel σ) (sendable : World σ → Prop) : Law σ (Waited ExecutionResult) :=
  fun world _ exchanges =>
    sendable world ∧ prepared.Submits exchanges ∨ ¬sendable world ∧ exchanges = []

section Dispatch

variable (settings : ExecutionSettings) (request : Request)

private theorem launchV1_2_mirrors (prepared : PreparedModel σ) (endpoint : Wire.Hal.V1_2.PreparedEndpoint σ)
    (deadline : Option TimePoint) (wire : Wire.Hal.Request) (measure : Int32) :
    (prepared.launchV1_2 endpoint deadline wire measure).Mirrors (Via id)
      (fun _ _ exchanges => ∃ answer deaths, exchanges = [.launched answer deaths])
      (prepared.recorded.launchV1_2 endpoint.recorded deadline wire measure) :=
  World.mirrors_launch (fun _ _ => rfl) fun _ => ⟨_, _, rfl⟩

private theorem dispatchV1_0_submits (endpoint : Wire.Hal.V1_0.PreparedEndpoint σ) (options : ExecutionOptions)
    (recipient : Recipient) :
    let prepared : PreparedModel σ := ⟨.v1_0 endpoint, options, recipient⟩
    (prepared.dispatchV1_0 endpoint settings request).Mirrors (Via id)
      (Law.submits prepared fun _ => prepared.Converts settings request)
      (prepared.recorded.dispatchV1_0 endpoint.recorded settings request) := by
  intro prepared
  rw [dispatchV1_0_eq, dispatchV1_0_eq]
  refine mirrors_ofResult_bind (fun error failed world => .inr ⟨?_, rfl⟩) fun wire sent => ?_
  · rintro ⟨⟨message, sent⟩, -⟩
    cases failed.symm.trans sent
  · exact World.mirrors_launch (fun _ _ => rfl) fun world => .inl ⟨⟨⟨wire, sent⟩, nofun⟩, _, _, rfl⟩

private theorem dispatchV1_2_submits (endpoint : Wire.Hal.V1_2.PreparedEndpoint σ) (options : ExecutionOptions)
    (recipient : Recipient) :
    let prepared : PreparedModel σ := ⟨.v1_2 endpoint, options, recipient⟩
    (prepared.dispatchV1_2 endpoint settings request).Mirrors (Via id)
      (Law.submits prepared fun _ => prepared.Converts settings request)
      (prepared.recorded.dispatchV1_2 endpoint.recorded settings request) := by
  intro prepared
  rw [dispatchV1_2_eq, dispatchV1_2_eq]
  refine mirrors_ofResult_bind (fun error failed world => .inr ⟨?_, rfl⟩) fun wire sent => ?_
  · rintro ⟨⟨message, sent⟩, -⟩
    cases failed.symm.trans sent
  have converts : prepared.Converts settings request := ⟨⟨wire, sent⟩, nofun⟩
  refine mirrors_ofResult_bind (fun error failed => ?_) fun measure measured => ?_
  · cases measure : settings.measure <;> rw [measure] at failed <;> cases failed
  have launched := launchV1_2_mirrors prepared endpoint settings.deadline wire measure
  obtain ⟨preferSynchronous, timeout⟩ := options
  cases preferSynchronous with
  | false =>
    refine submit_mirrors endpoint wire measure launched ?_ nofun nofun
    exact fun _ _ _ _ shape => .inl ⟨converts, shape⟩
  | true =>
    refine submit_mirrors endpoint wire measure launched nofun ?_ ?_
    · exact fun _ _ answer told final => .inl ⟨converts, _, told, .inl ⟨final, rfl⟩⟩
    · rintro - world shared answer result _ declines ⟨status, deaths, rfl⟩
      exact .inl ⟨converts, _, _, .inr ⟨declines, status, deaths, rfl⟩⟩

private theorem dispatchAidl_submits (endpoint : Wire.Aidl.PreparedEndpoint σ) (options : ExecutionOptions)
    (recipient : Recipient) :
    let prepared : PreparedModel σ := ⟨.aidl endpoint, options, recipient⟩
    (dispatchAidl endpoint settings request).Mirrors (Via id)
      (Law.submits prepared fun _ => prepared.Converts settings request)
      (dispatchAidl endpoint.recorded settings request) := by
  intro prepared
  refine mirrors_ofResult_bind (fun error failed world => .inr ⟨?_, rfl⟩) fun wire sent => ?_
  · rintro ⟨⟨message, sent⟩, -⟩
    cases failed.symm.trans sent
  refine mirrors_ofResult_bind (fun error failed world => .inr ⟨?_, rfl⟩) fun timed converted => ?_
  · rintro ⟨-, possible⟩
    obtain ⟨timed, converted⟩ := possible rfl
    cases failed.symm.trans converted
  have called : (World.call TransportError.errorWithStatus (endpoint.executeSynchronously wire
      timed)).Mirrors (Via id) (fun _ _ exchanges => ∃ answer told, exchanges = [.synchronous answer told])
        (World.call TransportError.errorWithStatus (endpoint.recorded.executeSynchronously wire timed)) :=
    World.mirrors_call fun _ => ⟨_, _, rfl⟩
  have converts : prepared.Converts settings request := ⟨⟨wire, sent⟩, fun _ => ⟨timed, converted⟩⟩
  refine Mirrors.weaken (called.bind_nothing fun result => ?_) fun _ _ shape => .inl ⟨converts, shape⟩
  exact (Action.silent_ofResult _).mirrors fun _ => rfl

private theorem dispatch_submits (prepared : PreparedModel σ) :
    (prepared.dispatch settings request).Mirrors (Via id)
      (Law.submits prepared fun _ => prepared.Converts settings request)
      (prepared.recorded.dispatch settings request) := by
  obtain ⟨endpoint, options, recipient⟩ := prepared
  cases endpoint with
  | v1_0 endpoint => exact dispatchV1_0_submits settings request endpoint options recipient
  | v1_2 endpoint => exact dispatchV1_2_submits settings request endpoint options recipient
  | aidl endpoint => exact dispatchAidl_submits settings request endpoint options recipient

end Dispatch

private theorem canSubmit_iff_converts {prepared : PreparedModel σ} {request relocated : Request}
    {settings : ExecutionSettings} {world : World σ} {files : FileStore}
    (moved : request.relocate world.host world.shared.files = .ok (relocated, files)) :
    prepared.CanSubmit request settings world ↔ prepared.Converts settings relocated := by
  constructor
  · rintro ⟨relocated', files', moved', converts⟩
    cases moved.symm.trans moved'
    exact converts
  · exact fun converts => ⟨relocated, files, moved, converts⟩

private theorem execute_submits (prepared : PreparedModel σ) (request : Request) (settings : ExecutionSettings) :
    (prepared.execute request settings).Mirrors (Via id)
      (Law.submits prepared (prepared.CanSubmit request settings))
      (prepared.recorded.execute request settings) := by
  rw [execute_eq, execute_eq]
  have moves : (World.relocateRequest request : Action (World σ) Request).Mirrors (Via id) .nothing
      (World.relocateRequest request) := (World.silent_relocateRequest request).mirrors fun _ => rfl
  have runs (relocated : Request) : (do
        let waited ← prepared.dispatch settings relocated
        if waited.hasEnded && !request.hasNoPointerData then World.restoreRequest request relocated
        pure waited).Mirrors (Via id) (Law.submits prepared fun _ => prepared.Converts settings relocated)
      (do
        let waited ← prepared.recorded.dispatch settings relocated
        if waited.hasEnded && !request.hasNoPointerData then World.restoreRequest request relocated
        pure waited) := by
    refine Mirrors.bind_nothing (dispatch_submits settings relocated prepared) fun waited => ?_
    rw [id_eq]
    have restores : (World.restoreRequest request relocated : Action (World σ) Unit).Mirrors (Via id)
        .nothing (World.restoreRequest request relocated) :=
      (World.silent_restoreRequest request relocated).mirrors fun _ => rfl
    split
    · exact restores.bind_nothing fun _ => mirrors_pure rfl fun _ => rfl
    · exact mirrors_pure rfl fun _ => rfl
  refine Mirrors.bind_via moves runs ?_ ?_
  · rintro world error later exchanges failed rfl
    refine .inr ⟨?_, rfl⟩
    rintro ⟨relocated, files, moved, -⟩
    rw [World.apply_relocateRequest, moved] at failed
    cases failed
  · rintro world relocated later _ result exchanges done rfl submitted
    rcases moved : request.relocate world.host world.shared.files with error | ⟨relocated', files⟩
    · rw [World.apply_relocateRequest, moved] at done
      cases done
    · rw [World.apply_relocateRequest, moved] at done
      cases done
      unfold Law.submits at submitted ⊢
      rwa [canSubmit_iff_converts moved]

theorem executeFenced_refused {prepared : PreparedModel σ} (old : prepared.endpoint.dialect ≠ .aidl)
    (request : Request) (settings : FencedSettings) (world : World σ) :
    (prepared.executeFenced request settings).apply world =
      (.error ExecutionFault.fencedUnsupported.error, world) := by
  obtain ⟨endpoint, options, recipient⟩ := prepared
  cases endpoint with
  | v1_0 endpoint => rfl
  | v1_2 endpoint => rfl
  | aidl endpoint => exact absurd rfl old

private theorem dialect_recorded (prepared : PreparedModel σ) :
    prepared.recorded.endpoint.dialect = prepared.endpoint.dialect := by
  obtain ⟨endpoint, options, recipient⟩ := prepared
  cases endpoint <;> rfl

/-- A prepared model that runs a request submits it if it can be moved, checked and converted, and then once,
but for an asynchronous submission after a synchronous one that version 1.2 declined. Behind fences, versions
1.0 and 1.2 submit nothing and leave everything as it is. -/
theorem submission_discipline (prepared : PreparedModel σ) :
    (∀ request settings, (prepared.execute request settings).Mirrors (Via id)
      (Law.submits prepared (prepared.CanSubmit request settings))
      (prepared.recorded.execute request settings)) ∧
    (prepared.endpoint.dialect ≠ .aidl → ∀ request settings world noted,
      (prepared.executeFenced request settings).apply world =
        (.error ExecutionFault.fencedUnsupported.error, world) ∧
      (prepared.recorded.executeFenced request settings).apply (world.recorded noted) =
        (.error ExecutionFault.fencedUnsupported.error, world.recorded noted)) := by
  refine ⟨prepared.execute_submits, fun old request settings world noted => ⟨?_, ?_⟩⟩
  · exact executeFenced_refused old request settings world
  · exact executeFenced_refused (prepared.dialect_recorded ▸ old) request settings (world.recorded noted)

/-- An endpoint that declines the synchronous call gets the request twice; it gets none behind fences. -/
theorem submission_discipline_declined :
    let endpoint : Wire.Hal.V1_2.PreparedEndpoint Unit :=
      ⟨fun _ _ => pure ⟨[.notified ⟨0, [], ⟨0, 0⟩⟩], .ok 0⟩, fun _ _ => pure ⟨2, [], ⟨0, 0⟩⟩,
        fun _ => pure true⟩
    let prepared : PreparedModel Unit := ⟨.v1_2 endpoint, ⟨true, none⟩, 0⟩
    let world : World Unit := ⟨⟨.empty, .empty, [], ()⟩, ⟨[]⟩, [.new], ⟨0⟩⟩
    prepared.endpoint.dialect ≠ .aidl ∧
      (∃ exchanges, prepared.Submits exchanges ∧
        exchanges = [.synchronous (.ok 2) [], .launched (.ok 0) [false]] ∧
        ((prepared.recorded.execute ⟨[], [], []⟩ ⟨.no, none, none⟩).apply
          (world.recorded [])).2.shared.remote.exchanges = exchanges) ∧
      (prepared.executeFenced ⟨[], [], []⟩ ⟨⟨.no, none, none⟩, [], none⟩).apply world =
        (.error ExecutionFault.fencedUnsupported.error, world) := by
  intro endpoint prepared world
  have old : prepared.endpoint.dialect ≠ .aidl := nofun
  obtain ⟨exchanges, -, noted, submitted⟩ :=
    (submission_discipline prepared).1 ⟨[], [], []⟩ ⟨.no, none, none⟩ world []
  have ran : ((prepared.recorded.execute ⟨[], [], []⟩ ⟨.no, none, none⟩).apply
      (world.recorded [])).2.shared.remote.exchanges =
      [.synchronous (.ok 2) [], .launched (.ok 0) [false]] := rfl
  have same := congrArg (·.shared.remote.exchanges) noted
  have found : exchanges = [.synchronous (.ok 2) [], .launched (.ok 0) [false]] := same.symm.trans ran
  refine ⟨old, ⟨exchanges, ?_, found, same⟩, ((submission_discipline prepared).2 old _ _ world []).1⟩
  rcases submitted with ⟨-, submits⟩ | ⟨-, none⟩
  · exact submits
  · cases found.symm.trans none

end PreparedModel

end NeuralDevice
