import NeuralDevice.Proofs.Execution.Submission
import NeuralDevice.Proofs.Failure.Relocation

/-!
Dead endpoints are recognized. An operation fails with a dead object exactly if one of its exchanges found the
endpoint dead: nothing else is taken for a death, and no death is hidden by what comes after it.
-/

namespace NeuralDevice

open NeuralDevice.Action Result

variable {σ α β γ δ η : Type}

namespace World

variable {first second : World σ}

private theorem monitors_serviceDied_congr (same : first.monitors = second.monitors) (recipient : Recipient) :
    (first.serviceDied recipient).monitors = (second.serviceDied recipient).monitors := by
  simp only [serviceDied, monitor, same]

theorem monitors_tell_congr (same : first.monitors = second.monitors) (recipients : List Recipient) :
    (first.tell recipients).monitors = (second.tell recipients).monitors := by
  induction recipients generalizing first second with
  | nil => exact same
  | cons recipient rest ih => exact ih (monitors_serviceDied_congr same recipient)

end World

namespace Exchange

/-- Whether one of the exchanges found the endpoint dead. A launch finds it so if the recipient knows of a death by
then, be it from before the first exchange or from one since. -/
def foundDead (recipient : Recipient) : World σ → List Exchange → Bool
  | _, [] => false
  | world, exchange :: rest =>
    exchange.isFatal (world.monitor recipient).hasDied || foundDead recipient (world.tell exchange.told) rest

variable {recipient : Recipient} {world : World σ}

theorem foundDead_singleton (exchange : Exchange) :
    foundDead recipient world [exchange] = exchange.isFatal (world.monitor recipient).hasDied :=
  Bool.or_false _

private theorem foundDead_append (first second : List Exchange) :
    foundDead recipient world (first ++ second) =
      (foundDead recipient world first || foundDead recipient (world.tell (first.flatMap told)) second) := by
  induction first generalizing world with
  | nil => rfl
  | cons exchange rest ih =>
    have later : (world.tell exchange.told).tell (rest.flatMap told) =
        world.tell ((exchange :: rest).flatMap told) := by
      rw [List.flatMap_cons, World.tell, World.tell, World.tell, List.foldl_append]
    rw [List.cons_append, foundDead, ih, later, foundDead, Bool.or_assoc]

/-- Only what is known of deaths counts. -/
theorem foundDead_congr {first second : World σ} (same : first.monitors = second.monitors)
    (exchanges : List Exchange) : foundDead recipient first exchanges = foundDead recipient second exchanges := by
  induction exchanges generalizing first second with
  | nil => rfl
  | cons exchange rest ih =>
    have known : first.monitor recipient = second.monitor recipient := by
      rw [World.monitor, World.monitor, same]
    rw [foundDead, foundDead, known, ih (World.monitors_tell_congr same exchange.told)]

end Exchange

/-- The outcome is a dead object exactly if an exchange found the endpoint dead. -/
def Law.executes (recipient : Recipient) : Law σ α :=
  fun world result exchanges => isDeadObject result = Exchange.foundDead recipient world exchanges

/-- Calls explain the outcome, whatever any recipient knew before. -/
def Law.calls : Law σ α :=
  fun _ result exchanges => ∀ recipient (before : World σ), Law.executes recipient before result exchanges

/-- What comes after an exchange of calls that succeeded decides. -/
theorem Law.executes.append {recipient : Recipient} {world : World σ} {value : α} {result : Result β}
    {first second : List Exchange} (before : Law.executes recipient world (.ok value : Result α) first)
    (after : Law.executes recipient (world.tell (first.flatMap Exchange.told)) result second) :
    Law.executes recipient world result (first ++ second) := by
  have harmless : Exchange.foundDead recipient world first = false := before.symm
  rw [Law.executes, Exchange.foundDead_append, harmless, Bool.false_or]
  exact after

section Rules

variable {related : α → β → Prop} {related' : γ → δ → Prop} {recipient : Recipient}
  {action : Action (World σ) α} {recorded : Action (World (Recorded σ)) β}
  {next : α → Action (World σ) γ} {next' : β → Action (World (Recorded σ)) δ}

theorem Action.Mirrors.executes (mirrors : action.Mirrors related .calls recorded) :
    action.Mirrors related (.executes recipient) recorded :=
  mirrors.weaken fun _ _ explained => explained _ _

theorem Action.Mirrors.calls_calls (head : action.Mirrors related .calls recorded)
    (tail : ∀ value other, related value other → (next value).Mirrors related' .calls (next' other)) :
    (action >>= next).Mirrors related' .calls (recorded >>= next') :=
  head.bind tail (fun _ _ _ _ _ explained => explained)
    fun _ _ _ _ _ _ _ before after _ _ => (before _ _).append (after _ _)

theorem Action.Mirrors.then_calls {convert : α → β} (head : action.Mirrors (Via convert) .calls recorded)
    (tail : ∀ value, (next value).Mirrors related' .calls (next' (convert value))) :
    (action >>= next).Mirrors related' .calls (recorded >>= next') := by
  refine head.calls_calls ?_
  rintro value _ rfl
  exact tail value

/-- What calls no endpoint and tells nobody of a death may come before an execution. -/
theorem Action.Silent.then_executes {recorded : Action (World (Recorded σ)) α}
    {next' : α → Action (World (Recorded σ)) δ} (silent : action.Silent recorded)
    (ordinary : ∀ world, FailsOrdinarily (action.apply world).1) (kept : action.Keeps World.monitors)
    (tail : ∀ value, (next value).Mirrors related' (.executes recipient) (next' value)) :
    (action >>= next).Mirrors related' (.executes recipient) (recorded >>= next') := by
  have nothing : action.Mirrors (Via id) .nothing recorded := silent.mirrors fun _ => rfl
  refine nothing.bind_via tail ?_ ?_
  · intro world error later exchanges failed none
    obtain rfl := none
    have harmless := (ordinary world).isDeadObject
    rwa [failed] at harmless
  · intro world value later first result second ran none after
    obtain rfl := none
    have same : later.monitors = world.monitors := by simpa only [ran] using kept world
    exact after.trans (Exchange.foundDead_congr same second)

private theorem Action.Mirrors.executes_calls (head : action.Mirrors related (.executes recipient) recorded)
    (tail : ∀ value other, related value other → (next value).Mirrors related' .calls (next' other)) :
    (action >>= next).Mirrors related' (.executes recipient) (recorded >>= next') :=
  head.bind tail (fun _ _ _ _ _ explained => explained)
    fun _ _ _ _ _ _ _ before after => before.append (after _ _)

end Rules

/-! Steps that call no endpoint and fail ordinarily. -/

theorem Action.Silent.calls {action : Action (World σ) α} {recorded : Action (World (Recorded σ)) α}
    (silent : action.Silent recorded) (ordinary : ∀ world, FailsOrdinarily (action.apply world).1) :
    action.Mirrors (Via id) .calls recorded :=
  silent.mirrors fun world _ _ => (ordinary world).isDeadObject

theorem Action.ofResult_calls {result : Result α} (ordinary : FailsOrdinarily result) :
    (Action.ofResult result : Action (World σ) α).Mirrors (Via id) .calls (Action.ofResult result) :=
  (Action.silent_ofResult result).calls fun _ => ordinary

theorem Action.ofResult_executes {related : γ → δ → Prop} {result : Result α} (ordinary : FailsOrdinarily result)
    {recipient : Recipient} {next : α → Action (World σ) γ} {next' : α → Action (World (Recorded σ)) δ}
    (tail : ∀ value, (next value).Mirrors related (.executes recipient) (next' value)) :
    (Action.ofResult result >>= next).Mirrors related (.executes recipient) (Action.ofResult result >>= next') :=
  (Action.silent_ofResult result).then_executes (fun _ => ordinary) (.ofResult result) tail

theorem Action.pure_calls {related : α → β → Prop} {value : α} {other : β}
    (same : related value other) :
    (pure value : Action (World σ) α).Mirrors related .calls (pure other) :=
  mirrors_pure same fun _ _ _ => rfl

theorem Action.throw_calls {related : α → β → Prop} {error : Error}
    (ordinary : error.isOrdinary = true) :
    (throw error : Action (World σ) α).Mirrors related .calls (throw error) :=
  mirrors_throw fun _ _ _ => Error.isDeadObject_of_isOrdinary ordinary

namespace World

theorem relocateModel_calls (model : Model) :
    (relocateModel model : Action (World σ) Model).Mirrors (Via id) .calls (relocateModel model) := by
  refine (silent_relocateModel model).calls fun world => ?_
  have moved := model.failsOrdinarily_relocate world.host world.shared.files
  rw [apply_relocateModel]
  split
  · exact failsOrdinarily_ok _
  · rename_i failed
    exact failsOrdinarily_error.mpr (moved _ failed)

theorem failsOrdinarily_relocateRequest (request : Request) (world : World σ) :
    FailsOrdinarily ((relocateRequest request).apply world).1 := by
  have moved := request.failsOrdinarily_relocate world.host world.shared.files
  rw [apply_relocateRequest]
  split
  · exact failsOrdinarily_ok _
  · rename_i failed
    exact failsOrdinarily_error.mpr (moved _ failed)

private theorem relocateRequest_calls (request : Request) :
    (relocateRequest request : Action (World σ) Request).Mirrors (Via id) .calls
      (relocateRequest request) :=
  (silent_relocateRequest request).calls (failsOrdinarily_relocateRequest request)

theorem restoreRequest_calls (request relocated : Request) :
    (restoreRequest request relocated : Action (World σ) Unit).Mirrors (Via id) .calls
      (restoreRequest request relocated) :=
  (silent_restoreRequest request relocated).calls fun world =>
    request.failsOrdinarily_restore relocated world.shared.files world.host

/-- A call explains its outcome if its error is a dead object exactly for a dead endpoint. -/
theorem call_calls {classify : TransportError → Error} {call : Call σ α}
    {note : Except TransportError α → List Recipient → Exchange} {convert : α → β}
    (exact : ∀ failure, (classify failure).isDeadObject = decide (failure = .dead))
    (noted : ∀ answer told died,
      (note answer told).isFatal died = decide (Exchange.failure? answer = some .dead)) :
    (World.call classify call).Mirrors (Via convert) .calls
      (World.call classify (Call.recorded note convert call)) := by
  refine mirrors_call fun world recipient before => ?_
  rw [Law.executes, Exchange.foundDead_singleton, noted]
  cases ((ExceptT.run call).run world.shared).1 with
  | ok value => rfl
  | error failure => simpa [Except.mapError, isDeadObject, Exchange.failure?] using exact failure

/-- A call of a 1.x endpoint, whose values are handed out as `convert` says. -/
theorem callHal_calls {dialect : Dialect} {name : String} {call : Call σ (Int32 × α)} (convert : α → β) :
    (World.callHal dialect name call).Mirrors (Via convert) .calls
      (World.callHal dialect name (Call.recorded .ofAnswer (Prod.map id convert) call)) := by
  refine (call_calls TransportError.isDeadObject_error fun _ _ _ => rfl).then_calls fun (status, value) => ?_
  exact (ofResult_calls (failsOrdinarily_checkStatus _ _ _)).then_calls fun _ => pure_calls rfl

theorem callAidl_calls {call : Call σ α} {convert : α → β} :
    (World.call TransportError.errorWithStatus call).Mirrors (Via convert) .calls
      (World.call TransportError.errorWithStatus (Call.recorded .ofAnswer convert call)) :=
  call_calls TransportError.isDeadObject_errorWithStatus fun _ _ _ => rfl

theorem get_calls : (get : Action (World σ) (World σ)).Mirrors
    (fun world other => ∃ noted, other = world.recorded noted) .calls get :=
  fun world noted => ⟨[], .ok ⟨noted, rfl⟩, by rw [List.append_nil]; rfl, fun _ _ => rfl⟩

@[simp] theorem isOrdinary_linkRefused : linkRefused.isOrdinary = true := rfl

theorem link_calls (linkToDeath : Recipient → Call σ Bool) :
    (World.link linkToDeath).Mirrors (Via id) .calls
      (World.link fun recipient => Call.recorded .ofAnswer id (linkToDeath recipient)) := by
  refine get_calls.calls_calls ?_
  rintro world _ ⟨noted, rfl⟩
  have added : (modify fun world => { world with monitors := world.monitors ++ [.new] } :
      Action (World σ) PUnit).Silent (modify fun world =>
        { world with monitors := world.monitors ++ [.new] }) := fun _ _ => rfl
  refine (added.calls fun _ => failsOrdinarily_ok _).then_calls fun _ => ?_
  refine (call_calls TransportError.isDeadObject_error fun _ _ _ => rfl).then_calls fun isLinked => ?_
  cases isLinked with
  | false => exact throw_calls isOrdinary_linkRefused
  | true => exact pure_calls rfl

end World

/-! Devices. -/

namespace DeviceInfo

private theorem readV1_0_calls (endpoint : Wire.Hal.V1_0.DeviceEndpoint σ) :
    (readV1_0 endpoint).Mirrors (Via id) .calls (readV1_0 endpoint.recorded) :=
  (World.callHal_calls id).then_calls fun _ => (ofResult_calls (by simp)).then_calls fun _ => pure_calls rfl

private theorem readV1_2_calls (endpoint : Wire.Hal.V1_2.DeviceEndpoint σ) :
    (readV1_2 endpoint).Mirrors (Via id) .calls (readV1_2 endpoint.recorded) := by
  refine (World.callHal_calls id).then_calls fun versionString => ?_
  refine (World.callHal_calls id).then_calls fun type => ?_
  refine (ofResult_calls (by simp)).then_calls fun type => ?_
  refine (World.callHal_calls id).then_calls fun extensions => ?_
  refine (ofResult_calls (by simp)).then_calls fun extensions => ?_
  refine (World.callHal_calls id).then_calls fun capabilities => ?_
  refine (ofResult_calls (by simp)).then_calls fun capabilities => ?_
  exact pure_calls rfl

private theorem readAidl_calls (endpoint : Wire.Aidl.DeviceEndpoint σ) :
    (readAidl endpoint).Mirrors (Via id) .calls (readAidl endpoint.recorded) := by
  refine World.callAidl_calls.then_calls fun versionString => ?_
  refine World.callAidl_calls.then_calls fun type => ?_
  refine (ofResult_calls (by simp)).then_calls fun type => ?_
  refine World.callAidl_calls.then_calls fun extensions => ?_
  refine (ofResult_calls (by simp)).then_calls fun extensions => ?_
  refine World.callAidl_calls.then_calls fun capabilities => ?_
  refine (ofResult_calls (by simp)).then_calls fun capabilities => ?_
  exact pure_calls rfl

private theorem read_calls (endpoint : DeviceEndpoint σ) :
    (read endpoint).Mirrors (Via id) .calls (read endpoint.recorded) := by
  cases endpoint with
  | v1_0 endpoint => exact readV1_0_calls endpoint
  | v1_2 endpoint => exact readV1_2_calls endpoint
  | aidl endpoint => exact readAidl_calls endpoint

end DeviceInfo

theorem DeviceEndpoint.link_calls (endpoint : DeviceEndpoint σ) :
    (World.link endpoint.linkToDeath).Mirrors (Via id) .calls (World.link endpoint.recorded.linkToDeath) := by
  cases endpoint <;> exact World.link_calls _

theorem PreparedEndpoint.link_calls (endpoint : PreparedEndpoint σ) :
    (World.link endpoint.linkToDeath).Mirrors (Via id) .calls (World.link endpoint.recorded.linkToDeath) := by
  cases endpoint <;> exact World.link_calls _

theorem PreparedModel.create_calls (endpoint : PreparedEndpoint σ) (options : ExecutionOptions) :
    (create endpoint options).Mirrors (Via recorded) .calls (create endpoint.recorded options) :=
  endpoint.link_calls.then_calls fun _ => pure_calls rfl

namespace Device

theorem create_calls (name : String) (endpoint : DeviceEndpoint σ) (options : ExecutionOptions) :
    (create name endpoint options).Mirrors (Via recorded) .calls (create name endpoint.recorded options) := by
  unfold create
  split
  · exact throw_calls (DeviceFault.isOrdinary_error _)
  · refine (DeviceInfo.read_calls endpoint).then_calls fun info => ?_
    exact endpoint.link_calls.then_calls fun recipient => pure_calls rfl

private theorem supportFlags_calls (device : Device σ) (relocated : Model) :
    (device.supportFlags relocated).Mirrors (Via id) .calls (device.recorded.supportFlags relocated) := by
  obtain ⟨name, info, endpoint, options, recipient⟩ := device
  cases endpoint with
  | v1_0 endpoint => exact (ofResult_calls (by simp)).then_calls fun wire => World.callHal_calls id
  | v1_2 endpoint => exact (ofResult_calls (by simp)).then_calls fun wire => World.callHal_calls id
  | aidl endpoint => exact (ofResult_calls (by simp)).then_calls fun wire => World.callAidl_calls

private theorem supportedOperations_calls (device : Device σ) (model : Model) :
    (device.supportedOperations model).Mirrors (Via id) .calls
      (device.recorded.supportedOperations model) := by
  refine (World.relocateModel_calls model).then_calls fun relocated => ?_
  refine (device.supportFlags_calls relocated).then_calls fun flags => ?_
  exact ofResult_calls (failsOrdinarily_checkFlags model flags)

private theorem prepareV1_0_calls (endpoint : Wire.Hal.V1_0.DeviceEndpoint σ) (relocated : Model) :
    (prepareV1_0 endpoint relocated).Mirrors (Via PreparedEndpoint.recorded) .calls
      (prepareV1_0 endpoint.recorded relocated) := by
  refine (ofResult_calls (by simp)).then_calls fun wire => ?_
  refine (World.callHal_calls (Option.map Wire.Hal.V1_0.PreparedEndpoint.recorded)).then_calls ?_
  intro prepared
  cases prepared with
  | none => exact throw_calls (DeviceFault.isOrdinary_error _)
  | some prepared => exact pure_calls rfl

private theorem prepareV1_2_calls (endpoint : Wire.Hal.V1_2.DeviceEndpoint σ) (settings : PreparationSettings)
    (relocated : Model) :
    (prepareV1_2 endpoint settings relocated).Mirrors (Via PreparedEndpoint.recorded) .calls
      (prepareV1_2 endpoint.recorded settings relocated) := by
  refine (ofResult_calls (by simp)).then_calls fun wire => ?_
  refine (ofResult_calls (by simp)).then_calls fun preference => ?_
  refine (World.callHal_calls (Option.map Wire.Hal.V1_2.PreparedEndpoint.recorded)).then_calls ?_
  intro prepared
  cases prepared with
  | none => exact throw_calls (DeviceFault.isOrdinary_error _)
  | some prepared => exact pure_calls rfl

private theorem prepareAidl_calls (endpoint : Wire.Aidl.DeviceEndpoint σ) (settings : PreparationSettings)
    (relocated : Model) :
    (prepareAidl endpoint settings relocated).Mirrors (Via PreparedEndpoint.recorded) .calls
      (prepareAidl endpoint.recorded settings relocated) := by
  refine (ofResult_calls (by simp)).then_calls fun wire => ?_
  refine (ofResult_calls (by simp)).then_calls fun settings => ?_
  exact World.callAidl_calls.then_calls fun prepared => pure_calls rfl

private theorem prepareModel_calls (device : Device σ) (model : Model) (settings : PreparationSettings) :
    (device.prepareModel model settings).Mirrors (Via PreparedModel.recorded) .calls
      (device.recorded.prepareModel model settings) := by
  obtain ⟨name, info, endpoint, options, recipient⟩ := device
  refine (World.relocateModel_calls model).then_calls fun relocated => ?_
  cases endpoint with
  | v1_0 endpoint =>
    exact (prepareV1_0_calls endpoint relocated).then_calls fun prepared =>
      PreparedModel.create_calls prepared options
  | v1_2 endpoint =>
    exact (prepareV1_2_calls endpoint settings relocated).then_calls fun prepared =>
      PreparedModel.create_calls prepared options
  | aidl endpoint =>
    exact (prepareAidl_calls endpoint settings relocated).then_calls fun prepared =>
      PreparedModel.create_calls prepared options

end Device

/-! Executions. -/

/-- A launch and what arrived explain the result together. -/
private theorem launchResult_explained {report : η → Result ExecutionResult}
    (ordinary : ∀ notification, FailsOrdinarily (report notification)) (dialect : Dialect) (name : String)
    (monitor : Monitor Nat) (launch : Launch η) (timeout : Option Duration) :
    isDeadObject
        (launchResult dialect name launch.status (monitor.watch report launch.events).1 timeout) =
      (Exchange.ofLaunch launch).isFatal monitor.hasDied := by
  have arrived := monitor.result_watch report launch
  obtain ⟨events, status⟩ := launch
  cases status with
  | error failure => exact failure.isDeadObject_error
  | ok code =>
    by_cases succeeded : code = 0
    · subst succeeded
      simp only [launchResult, checkStatus_zero, pure_bind, Completion.wait, arrived, Launch.arrival]
      cases monitor.hasDied with
      | true => rfl
      | false =>
        cases events with
        | nil => cases timeout <;> rfl
        | cons event rest =>
          cases event with
          | died => rfl
          | notified notification => exact (failsOrdinarily_map.mpr (ordinary notification)).isDeadObject
    · obtain ⟨error, refused, common⟩ := @checkStatus_of_ne_zero dialect code succeeded name
      have harmless : (Exchange.ofLaunch ⟨events, .ok code⟩ : Exchange).isFatal monitor.hasDied = false := by
        simp [Exchange.ofLaunch, Exchange.isFatal, succeeded]
      rw [harmless]
      simp only [launchResult, refused]
      exact Error.isDeadObject_of_isOrdinary common

theorem World.launch_executes {dialect : Dialect} {name : String} {recipient : Recipient}
    {report : η → Result ExecutionResult} {timeout : World σ → Option Duration}
    {timeout' : World (Recorded σ) → Option Duration} {launch : StateM (Shared σ) (Launch η)}
    (ordinary : ∀ notification, FailsOrdinarily (report notification))
    (same : ∀ world noted, timeout' (world.recorded noted) = timeout world) :
    (World.launch dialect name recipient report timeout launch).Mirrors (Via id) (.executes recipient)
      (World.launch dialect name recipient report timeout' (Launch.recorded launch)) := by
  refine mirrors_launch same fun world => ?_
  rw [Law.executes, Exchange.foundDead_singleton]
  exact launchResult_explained ordinary ..

namespace PreparedModel

variable {prepared : PreparedModel σ} {request : Request}

private theorem launchV1_0_executes (endpoint : Wire.Hal.V1_0.PreparedEndpoint σ) (deadline : Option TimePoint)
    (wire : Wire.Hal.Request) :
    (prepared.launchV1_0 endpoint deadline wire).Mirrors (Via id) (.executes prepared.recipient)
      (prepared.recorded.launchV1_0 endpoint.recorded deadline wire) :=
  World.launch_executes Wire.Hal.V1_0.failsOrdinarily_readNotification fun _ _ => rfl

private theorem launchV1_2_executes (endpoint : Wire.Hal.V1_2.PreparedEndpoint σ) (deadline : Option TimePoint)
    (wire : Wire.Hal.Request) (measure : Int32) :
    (prepared.launchV1_2 endpoint deadline wire measure).Mirrors (Via id) (.executes prepared.recipient)
      (prepared.recorded.launchV1_2 endpoint.recorded deadline wire measure) :=
  World.launch_executes Wire.Hal.V1_2.Report.failsOrdinarily_toCanonical fun _ _ => rfl

private theorem dispatchV1_0_executes (endpoint : Wire.Hal.V1_0.PreparedEndpoint σ) (settings : ExecutionSettings)
    (request : Request) :
    (prepared.dispatchV1_0 endpoint settings request).Mirrors (Via id) (.executes prepared.recipient)
      (prepared.recorded.dispatchV1_0 endpoint.recorded settings request) := by
  rw [dispatchV1_0_eq, dispatchV1_0_eq]
  refine ofResult_executes (by simp) fun wire => ?_
  exact launchV1_0_executes endpoint settings.deadline wire

private theorem dispatchV1_2_executes (endpoint : Wire.Hal.V1_2.PreparedEndpoint σ) (settings : ExecutionSettings)
    (request : Request) :
    (prepared.dispatchV1_2 endpoint settings request).Mirrors (Via id) (.executes prepared.recipient)
      (prepared.recorded.dispatchV1_2 endpoint.recorded settings request) := by
  rw [dispatchV1_2_eq, dispatchV1_2_eq]
  refine ofResult_executes (by simp) fun wire => ?_
  refine ofResult_executes (by simp) fun measure => ?_
  refine submit_mirrors endpoint wire measure (launchV1_2_executes endpoint settings.deadline wire measure)
    (fun _ _ _ _ explained => explained) ?_ ?_
  · intro _ world answer told final
    rw [Law.executes, Exchange.foundDead_singleton, Exchange.isFatal_ofRun]
    cases answer with
    | error failure =>
      refine failure.isDeadObject_error.trans ?_
      simp only [Exchange.failure?, Option.some.injEq]
    | ok report =>
      have ordinary := Wire.Hal.V1_2.Report.failsOrdinarily_toCanonical report
      exact (failsOrdinarily_map.mpr ordinary).isDeadObject
  · intro _ world shared answer result exchanges declines explained
    obtain ⟨report, rfl, -⟩ := declines.answered
    -- The launch finds what the recipient was told up to the end of the synchronous call.
    have same : ({ world with shared } : World σ).monitors = world.monitors := rfl
    have told : (world.afterCall shared).monitors = (world.tell shared.notices).monitors :=
      World.monitors_tell_congr same shared.notices
    exact explained.trans (Exchange.foundDead_congr told exchanges)

private theorem dispatchAidl_calls (endpoint : Wire.Aidl.PreparedEndpoint σ) (settings : ExecutionSettings)
    (request : Request) :
    (dispatchAidl endpoint settings request).Mirrors (Via id) .calls
      (dispatchAidl endpoint.recorded settings request) := by
  refine (ofResult_calls (by simp)).then_calls fun wire => ?_
  refine (ofResult_calls (by simp)).then_calls fun wireSettings => ?_
  have called : (World.call TransportError.errorWithStatus (endpoint.executeSynchronously wire
      wireSettings)).Mirrors (Via id) .calls (World.call TransportError.errorWithStatus
        (endpoint.recorded.executeSynchronously wire wireSettings)) := by
    refine World.call_calls TransportError.isDeadObject_errorWithStatus (Exchange.isFatal_ofRun _)
  exact called.then_calls fun result => ofResult_calls (by simp)

private theorem dispatch_executes (prepared : PreparedModel σ) (settings : ExecutionSettings) (request : Request) :
    (prepared.dispatch settings request).Mirrors (Via id) (.executes prepared.recipient)
      (prepared.recorded.dispatch settings request) := by
  obtain ⟨endpoint, options, recipient⟩ := prepared
  cases endpoint with
  | v1_0 endpoint => exact dispatchV1_0_executes endpoint settings request
  | v1_2 endpoint => exact dispatchV1_2_executes endpoint settings request
  | aidl endpoint => exact (dispatchAidl_calls endpoint settings request).executes

private theorem execute_executes (prepared : PreparedModel σ) (request : Request) (settings : ExecutionSettings) :
    (prepared.execute request settings).Mirrors (Via id) (.executes prepared.recipient)
      (prepared.recorded.execute request settings) := by
  rw [execute_eq, execute_eq]
  refine (World.silent_relocateRequest request).then_executes ?_ ?_ fun relocated => ?_
  · exact World.failsOrdinarily_relocateRequest request
  · intro world
    rw [World.apply_relocateRequest]
    split <;> rfl
  refine (dispatch_executes prepared settings relocated).executes_calls ?_
  rintro result _ rfl
  split
  · exact (World.restoreRequest_calls request relocated).then_calls fun _ => pure_calls rfl
  · exact pure_calls rfl

/-- Neither ends; or the fences are the same, and so is what asking for the times yields. -/
inductive FencedAgree : Waited (Fence × Action (World σ) (Timing × Timing)) →
    Waited (Fence × Action (World (Recorded σ)) (Timing × Timing)) → Prop
  | ended (fence : Fence) {times : Action (World σ) (Timing × Timing)}
    {times' : Action (World (Recorded σ)) (Timing × Timing)} (mirrors : times.Mirrors (Via id) .calls times') :
    FencedAgree (.ended (fence, times)) (.ended (fence, times'))
  | never : FencedAgree .never .never

theorem fencedTimes_calls (getExecutionInfo : Call σ Wire.Aidl.FencedTimes) :
    (fencedTimes getExecutionInfo).Mirrors (Via id) .calls
      (fencedTimes (Call.recorded .ofAnswer id getExecutionInfo)) :=
  World.callAidl_calls.then_calls fun times => ofResult_calls (by simp)

private theorem replyFence_calls (fence : Option Fence) :
    (replyFence fence : Action (World σ) Fence).Mirrors (Via id) .calls (replyFence fence) :=
  (silent_replyFence fence).calls fun _ => by cases fence <;> exact failsOrdinarily_ok _

private theorem restoreOn_calls (waited : Waited FenceState) (request relocated : Request) :
    (restoreOn waited request relocated : Action (World σ) (Waited Unit)).Mirrors (Via id) .calls
      (restoreOn waited request relocated) :=
  match waited with
  | .ended .signaled => (World.restoreRequest_calls request relocated).then_calls fun _ => pure_calls rfl
  | .ended .active | .ended .error => throw_calls (ExecutionFault.isOrdinary_error _)
  | .never => pure_calls rfl

private theorem restoreAfter_calls (prepared : PreparedModel σ) (fence : Fence) (deadline : Option TimePoint)
    (request relocated : Request) :
    (prepared.restoreAfter fence deadline request relocated).Mirrors (Via id) .calls
      (prepared.recorded.restoreAfter fence deadline request relocated) := by
  refine World.get_calls.calls_calls ?_
  rintro world _ ⟨noted, rfl⟩
  exact restoreOn_calls (world.shared.fences.wait fence (prepared.timeout deadline world)) request relocated

private theorem executeFencedAidl_calls (prepared : PreparedModel σ) (endpoint : Wire.Aidl.PreparedEndpoint σ)
    (request : Request) (settings : FencedSettings) :
    (prepared.executeFencedAidl endpoint request settings).Mirrors FencedAgree .calls
      (prepared.recorded.executeFencedAidl endpoint.recorded request settings) := by
  refine (World.relocateRequest_calls request).then_calls fun relocated => ?_
  refine (ofResult_calls (by simp)).then_calls fun wire => ?_
  refine (ofResult_calls (by simp)).then_calls fun wireSettings => ?_
  refine (ofResult_calls (by simp)).then_calls fun timeoutAfterFence => ?_
  have called : (World.call TransportError.errorWithStatus (endpoint.executeFenced wire settings.waitFor
      wireSettings timeoutAfterFence)).Mirrors (Via Wire.Aidl.FencedReply.recorded) .calls
        (World.call TransportError.errorWithStatus (endpoint.recorded.executeFenced wire settings.waitFor
          wireSettings timeoutAfterFence)) :=
    World.call_calls TransportError.isDeadObject_errorWithStatus fun _ _ _ => rfl
  refine called.then_calls ?_
  rintro ⟨getExecutionInfo, fence⟩
  cases getExecutionInfo with
  | none => exact throw_calls (ExecutionFault.isOrdinary_error _)
  | some getExecutionInfo =>
    refine (replyFence_calls fence).then_calls fun fence => ?_
    split
    · exact pure_calls (.ended _ (fencedTimes_calls getExecutionInfo))
    · refine (prepared.restoreAfter_calls fence settings.deadline request relocated).then_calls fun waited => ?_
      cases waited with
      | ended => exact pure_calls (.ended _ (fencedTimes_calls getExecutionInfo))
      | never => exact pure_calls .never

private theorem executeFenced_calls (prepared : PreparedModel σ) (request : Request) (settings : FencedSettings) :
    (prepared.executeFenced request settings).Mirrors FencedAgree .calls
      (prepared.recorded.executeFenced request settings) := by
  obtain ⟨endpoint, options, recipient⟩ := prepared
  cases endpoint with
  | v1_0 endpoint => exact throw_calls (ExecutionFault.isOrdinary_error _)
  | v1_2 endpoint => exact throw_calls (ExecutionFault.isOrdinary_error _)
  | aidl endpoint => exact executeFencedAidl_calls _ endpoint request settings

end PreparedModel

/-- Every operation of a device or prepared model, and the question for the times of a fenced execution, fails
with a dead object exactly if one of its exchanges found the endpoint dead. An execution that waits also knows
of a death that its recipient was told of before its launch, be it during its synchronous call. Recording the
exchanges changes nothing else. -/
theorem deadObject_iff_found_dead :
    (∀ name (endpoint : DeviceEndpoint σ) options,
      (Device.create name endpoint options).Mirrors (Via Device.recorded) .calls
        (Device.create name endpoint.recorded options)) ∧
    (∀ (device : Device σ) model,
      (device.supportedOperations model).Mirrors (Via id) .calls
        (device.recorded.supportedOperations model)) ∧
    (∀ (device : Device σ) model settings,
      (device.prepareModel model settings).Mirrors (Via PreparedModel.recorded) .calls
        (device.recorded.prepareModel model settings)) ∧
    (∀ (prepared : PreparedModel σ) request settings,
      (prepared.execute request settings).Mirrors (Via id) (.executes prepared.recipient)
        (prepared.recorded.execute request settings)) ∧
    ∀ (prepared : PreparedModel σ) request settings,
      (prepared.executeFenced request settings).Mirrors PreparedModel.FencedAgree .calls
        (prepared.recorded.executeFenced request settings) :=
  ⟨Device.create_calls, Device.supportedOperations_calls, Device.prepareModel_calls,
    PreparedModel.execute_executes, PreparedModel.executeFenced_calls⟩

/-- An endpoint that dies during the synchronous call and declines it. The launch that follows is accepted, and
nothing arrives for it before its recipient's earlier notice. -/
example :
    let endpoint : Wire.Hal.V1_2.PreparedEndpoint Unit :=
      ⟨fun _ _ => pure ⟨[.notified ⟨0, [], ⟨0, 0⟩⟩], .ok 0⟩,
        fun _ _ => do
          modify fun shared => { shared with notices := [0] }
          pure ⟨2, [], ⟨0, 0⟩⟩,
        fun _ => pure true⟩
    let prepared : PreparedModel Unit := ⟨.v1_2 endpoint, ⟨true, none⟩, 0⟩
    let world : World Unit := ⟨⟨.empty, .empty, [], ()⟩, ⟨[]⟩, [.new], ⟨0⟩⟩
    ((prepared.execute ⟨[], [], []⟩ ⟨.no, none, none⟩).apply world).1 = .error WaitFault.endpointDied.error := rfl

end NeuralDevice
