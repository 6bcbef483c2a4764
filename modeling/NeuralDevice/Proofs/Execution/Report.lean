import NeuralDevice.Proofs.Conversion.Crossing
import NeuralDevice.Proofs.Execution.Submission
import NeuralDevice.Proofs.Remote.Answer

/-!
Where results come from. An execution that succeeds was reported by its endpoint in one of a few ways, and a report
is a success only if its status is and all it holds is received.
-/

namespace NeuralDevice

open NeuralDevice.Action Result

variable {σ α β η : Type} {result : ExecutionResult}

theorem Result.map_ended_eq_ok_iff {given : Result α} {value : α} :
    given.map Waited.ended = .ok (.ended value) ↔ given = .ok value := by
  cases given <;> simp [Except.map]

/-! Reports. -/

namespace Wire.Hal.V1_0

theorem readNotification_eq_ok_iff {code : Int32} :
    readNotification code = .ok result ↔ code = 0 ∧ ⟨[], .notMeasured⟩ = result := by
  unfold readNotification
  split
  · rename_i succeeded
    rw [pure_eq_ok_iff, and_iff_right (ErrorStatus.ofWire_eq_none_iff.mp succeeded)]
  · rename_i failed
    refine iff_of_false throw_ne_ok fun succeeded => failed ?_
    exact ErrorStatus.ofWire_eq_none_iff.mpr succeeded.1

end Wire.Hal.V1_0

/-- The report is a success, and the result is what it holds, as it is received. -/
structure Wire.Hal.V1_2.Report.Gives (report : Wire.Hal.V1_2.Report) (result : ExecutionResult) : Prop where
  succeeded : report.status = 0
  shapes : report.outputShapes.mapM (fun shape => receive .v1_2 shape.toCanonical) = .ok result.outputShapes
  timing : receive .v1_2 (Wire.Hal.timingToCanonical report.timing) = .ok result.timing

/-- The result is what the report holds, as it is received; a report without times has not measured any. -/
structure Wire.Aidl.ExecutionResult.Gives (report : Wire.Aidl.ExecutionResult)
    (result : NeuralDevice.ExecutionResult) : Prop where
  sufficient : report.isSufficient = true
  shapes : report.outputShapes.mapM (fun shape => receive .aidl shape.toCanonical) = .ok result.outputShapes
  timing : match report.timing with
    | none => result.timing = .notMeasured
    | some timing => receive .aidl (Wire.Aidl.timingToCanonical timing) = .ok result.timing

/-- Both times are received, and the status is success. -/
structure Wire.Aidl.FencedTimes.Gives (times : Wire.Aidl.FencedTimes)
    (launched fenced : NeuralDevice.Timing) : Prop where
  succeeded : times.status = 0
  launched : receive .aidl (Wire.Aidl.timingToCanonical times.launched) = .ok launched
  fenced : receive .aidl (Wire.Aidl.timingToCanonical times.fenced) = .ok fenced

theorem outputsTooSmall_ne_ok {α index : Type} [Word index] {shapes : List (Wire.OutputShape index)} {value : α} :
    outputsTooSmall shapes ≠ .ok value := by
  intro succeeded
  obtain ⟨_, -, thrown⟩ := bind_eq_ok_iff.mp succeeded
  exact throw_ne_ok thrown

theorem Wire.Hal.V1_2.Report.toCanonical_eq_ok_iff {report : Wire.Hal.V1_2.Report} :
    report.toCanonical = .ok result ↔ report.Gives result := by
  unfold toCanonical
  split
  · rename_i succeeded
    simp only [bind_eq_ok_iff, pure_eq_ok_iff]
    constructor
    · rintro ⟨shapes, received, timing, measured, rfl⟩
      exact ⟨ErrorStatus.ofWire_eq_none_iff.mp succeeded, received, measured⟩
    · intro given
      exact ⟨_, given.shapes, _, given.timing, rfl⟩
  · rename_i insufficient
    refine iff_of_false outputsTooSmall_ne_ok fun given => ?_
    rw [ErrorStatus.ofWire_eq_none_iff.mpr given.succeeded] at insufficient
    cases insufficient
  · rename_i failed _
    exact iff_of_false throw_ne_ok fun given => failed (ErrorStatus.ofWire_eq_none_iff.mpr given.succeeded)

theorem Wire.Aidl.ExecutionResult.toCanonical_eq_ok_iff {report : Wire.Aidl.ExecutionResult}
    {result : NeuralDevice.ExecutionResult} :
    report.toCanonical = .ok result ↔ report.Gives result := by
  obtain ⟨isSufficient, outputShapes, timing⟩ := report
  cases isSufficient with
  | false => exact iff_of_false outputsTooSmall_ne_ok fun given => Bool.false_ne_true given.sufficient
  | true =>
    constructor
    · intro succeeded
      obtain ⟨shapes, received, measured⟩ := bind_eq_ok_iff.mp succeeded
      cases timing with
      | none =>
        cases pure_eq_ok_iff.mp measured
        exact ⟨rfl, received, rfl⟩
      | some timing =>
        obtain ⟨times, accepted, last⟩ := bind_eq_ok_iff.mp measured
        cases pure_eq_ok_iff.mp last
        exact ⟨rfl, received, accepted⟩
    · intro given
      refine bind_eq_ok_iff.mpr ⟨_, given.shapes, ?_⟩
      cases timing with
      | none =>
        have unmeasured : result.timing = .notMeasured := given.timing
        rw [← unmeasured]
        rfl
      | some timing => exact bind_eq_ok_iff.mpr ⟨_, given.timing, rfl⟩

theorem Wire.Aidl.FencedTimes.toCanonical_eq_ok_iff {times : Wire.Aidl.FencedTimes}
    {launched fenced : NeuralDevice.Timing} :
    times.toCanonical = .ok (launched, fenced) ↔ times.Gives launched fenced := by
  simp only [toCanonical, bind_eq_ok_iff, World.checkStatus_eq_ok_iff, pure_eq_ok_iff, Prod.mk.injEq]
  constructor
  · rintro ⟨_, succeeded, _, first, _, second, rfl, rfl⟩
    exact ⟨succeeded, first, second⟩
  · intro given
    exact ⟨(), given.succeeded, _, given.launched, _, given.fenced, rfl, rfl⟩

/-- The action succeeds with the value, leaves the shared state so and the caller's buffers alone. -/
def Action.LeadsTo (action : Action (World σ) α) (world : World σ) (value : α) (shared : Shared σ) : Prop :=
  ∃ later, action.apply world = (.ok value, later) ∧ later.shared = shared ∧ later.host = world.host

section Steps

variable {world : World σ} {shared : Shared σ} {value : β}

theorem Action.ofResult_leadsTo_iff {given : Result β} :
    (Action.ofResult given).LeadsTo world value shared ↔ given = .ok value ∧ world.shared = shared := by
  simp only [LeadsTo, apply_ofResult_eq_ok_iff]
  constructor
  · rintro ⟨_, ⟨same, rfl⟩, last, -⟩
    exact ⟨same, last⟩
  · rintro ⟨same, last⟩
    exact ⟨world, ⟨same, rfl⟩, last, rfl⟩

theorem Action.ofResult_bind_leadsTo_iff {given : Result α} {next : α → Action (World σ) β} :
    (Action.ofResult given >>= next).LeadsTo world value shared ↔
      ∃ middle, given = .ok middle ∧ (next middle).LeadsTo world value shared := by
  simp only [LeadsTo, apply_bind_eq_ok_iff, apply_ofResult_eq_ok_iff]
  constructor
  · rintro ⟨later, ⟨middle, _, ⟨same, rfl⟩, done⟩, kept⟩
    exact ⟨middle, same, later, done, kept⟩
  · rintro ⟨middle, same, later, done, kept⟩
    exact ⟨later, ⟨middle, world, ⟨same, rfl⟩, done⟩, kept⟩

private theorem World.call_bind_leadsTo_iff {classify : TransportError → Error} {call : Call σ α}
    {next : α → Action (World σ) β} :
    (World.call classify call >>= next).LeadsTo world value shared ↔
      ∃ answer middle, call.Answers world.shared answer middle ∧
        (next answer).LeadsTo (world.afterCall middle) value shared := by
  simp only [Action.LeadsTo, apply_bind_eq_ok_iff, World.apply_call_eq_ok_iff]
  constructor
  · rintro ⟨later, ⟨answer, _, ⟨middle, answered, rfl⟩, done⟩, same, host⟩
    exact ⟨answer, middle, answered, later, done, same, by rw [host, World.host_afterCall]⟩
  · rintro ⟨answer, middle, answered, later, done, same, host⟩
    exact ⟨later, ⟨answer, _, ⟨middle, answered, rfl⟩, done⟩, same, by rw [host, World.host_afterCall]⟩

end Steps

/-! Launches. -/

/-- The launch ends well, and the first thing that happens is a notification of the result. -/
structure Launch.Notifies (launch : Launch η) (report : η → Result ExecutionResult) (result : ExecutionResult) :
    Prop where
  succeeded : launch.status = .ok 0
  first : ∃ notification rest, launch.events = .notified notification :: rest ∧ report notification = .ok result

section Launches

variable {dialect : Dialect} {name : String} {report : η → Result ExecutionResult} {launch : Launch η}

private theorem Launch.arrival_eq_ok_iff {hasDied : Bool} :
    launch.arrival report hasDied = some (.ok result) ↔ hasDied = false ∧
      ∃ notification rest, launch.events = .notified notification :: rest ∧ report notification = .ok result := by
  obtain ⟨events, status⟩ := launch
  cases hasDied with
  | true => exact iff_of_false (fun died => throw_ne_ok (Option.some.inj died)) fun alive => absurd alive.1 nofun
  | false =>
    rw [and_iff_right rfl]
    cases events with
    | nil => exact iff_of_false nofun (by rintro ⟨_, _, listed, -⟩; cases listed)
    | cons event rest =>
      constructor
      · intro arrived
        cases event with
        | notified notification => exact ⟨notification, rest, rfl, Option.some.inj arrived⟩
        | died => exact absurd (Option.some.inj arrived) throw_ne_ok
      · rintro ⟨notification, _, listed, reported⟩
        cases listed
        exact congrArg some reported

theorem launchResult_eq_ok_iff {monitor : Monitor Nat} {timeout : Option Duration} :
    launchResult dialect name launch.status (monitor.watch report launch.events).1 timeout =
        .ok (.ended result) ↔
      monitor.hasDied = false ∧ launch.Notifies report result := by
  have waited : ((monitor.watch report launch.events).1.wait timeout = .ok (.ended result)) ↔
      launch.arrival report monitor.hasDied = some (.ok result) := by
    rw [← Monitor.result_watch]
    unfold Completion.wait
    cases (monitor.watch report launch.events).1.result? with
    | some arrived => exact map_ended_eq_ok_iff.trans Option.some_inj.symm
    | none => cases timeout <;> exact iff_of_false nofun nofun
  rw [Launch.arrival_eq_ok_iff] at waited
  unfold launchResult
  cases ended : launch.status with
  | error failure =>
    exact iff_of_false throw_ne_ok fun noted => absurd (ended.symm.trans noted.2.succeeded) nofun
  | ok code =>
    simp only [bind_eq_ok_iff, World.checkStatus_eq_ok_iff, waited]
    constructor
    · rintro ⟨_, rfl, alive, first⟩
      exact ⟨alive, ended, first⟩
    · rintro ⟨alive, noted⟩
      exact ⟨(), Except.ok.inj (ended.symm.trans noted.succeeded), alive, noted.first⟩

/-- An asynchronous execution succeeds exactly if the endpoint lives and its launch notifies the result. -/
theorem World.launch_leadsTo_iff {recipient : Recipient} {timeout : World σ → Option Duration}
    {launch : StateM (Shared σ) (Launch η)} {world : World σ} {shared : Shared σ} :
    (World.launch dialect name recipient report timeout launch).LeadsTo world (.ended result) shared ↔
      ∃ reply, launch.run world.shared = (reply, shared) ∧ (world.monitor recipient).hasDied = false ∧
        reply.Notifies report result := by
  constructor
  · rintro ⟨later, done, rfl, -⟩
    unfold World.launch at done
    rw [apply_ofStep] at done
    obtain ⟨ended, rfl⟩ := Prod.mk.inj done
    obtain ⟨alive, noted⟩ := launchResult_eq_ok_iff.mp ended
    exact ⟨_, rfl, alive, noted⟩
  · rintro ⟨reply, launched, alive, noted⟩
    refine ⟨{ world with
      shared
      monitors := world.monitors.set recipient ((world.monitor recipient).watch report reply.events).2 },
      ?_, rfl, rfl⟩
    unfold World.launch
    rw [apply_ofStep]
    simp only [launched, launchResult_eq_ok_iff.mpr ⟨alive, noted⟩]

end Launches

/-! Executions. -/

/-- How an endpoint comes to the result of an execution. The synchronous call of version 1.2 is tried if it is
preferred, and the launch follows if there was no preference or the endpoint declined. A launch counts only if its
recipient knows of no death by then. -/
inductive PreparedEndpoint.Yields (prefersSynchronous : Bool) (recipient : Recipient) (settings : ExecutionSettings)
    (relocated : Request) : PreparedEndpoint σ → World σ → ExecutionResult → Shared σ → Prop
  | v1_0 {endpoint : Wire.Hal.V1_0.PreparedEndpoint σ} {wire : Wire.Hal.Request} {world : World σ}
    {after : Shared σ} {reply : Launch Int32} {result : ExecutionResult}
    (sent : send .v1_0 relocated Wire.Hal.requestToWire = .ok wire)
    (launched : (endpoint.execute wire).run world.shared = (reply, after))
    (alive : (world.monitor recipient).hasDied = false)
    (notified : reply.Notifies Wire.Hal.V1_0.readNotification result) :
    Yields prefersSynchronous recipient settings relocated (.v1_0 endpoint) world result after
  | synchronous {endpoint : Wire.Hal.V1_2.PreparedEndpoint σ} {wire : Wire.Hal.Request} {measure : Int32}
    {world : World σ} {after : Shared σ} {report : Wire.Hal.V1_2.Report} {result : ExecutionResult}
    (sent : send .v1_2 relocated Wire.Hal.requestToWire = .ok wire)
    (measured : WireEnum.toWire .v1_2 settings.measure = .ok measure) (preferred : prefersSynchronous = true)
    (answered : (endpoint.executeSynchronously wire measure).Answers world.shared report after)
    (given : report.Gives result) :
    Yields prefersSynchronous recipient settings relocated (.v1_2 endpoint) world result after
  | launched {endpoint : Wire.Hal.V1_2.PreparedEndpoint σ} {wire : Wire.Hal.Request} {measure : Int32}
    {world middle : World σ} {after : Shared σ} {reply : Launch Wire.Hal.V1_2.Report} {result : ExecutionResult}
    (sent : send .v1_2 relocated Wire.Hal.requestToWire = .ok wire)
    (measured : WireEnum.toWire .v1_2 settings.measure = .ok measure)
    (first : if prefersSynchronous then
        ∃ report shared, (endpoint.executeSynchronously wire measure).Answers world.shared report shared ∧
          Declines (.ok report.status) ∧ world.afterCall shared = middle
      else world = middle)
    (launched : (endpoint.execute wire measure).run middle.shared = (reply, after))
    (alive : (middle.monitor recipient).hasDied = false)
    (notified : reply.Notifies Wire.Hal.V1_2.Report.toCanonical result) :
    Yields prefersSynchronous recipient settings relocated (.v1_2 endpoint) world result after
  | aidl {endpoint : Wire.Aidl.PreparedEndpoint σ} {wire : Wire.Aidl.Request}
    {wireSettings : Wire.Aidl.ExecutionSettings} {world : World σ} {after : Shared σ}
    {report : Wire.Aidl.ExecutionResult} {result : ExecutionResult}
    (sent : send .aidl relocated Wire.Aidl.requestToWire = .ok wire)
    (timed : PreparedModel.aidlSettings settings = .ok wireSettings)
    (answered : (endpoint.executeSynchronously wire wireSettings).Answers world.shared report after)
    (given : report.Gives result) :
    Yields prefersSynchronous recipient settings relocated (.aidl endpoint) world result after

/-- The endpoint launched an execution behind fences, and its answer tells how to ask for the times. -/
inductive PreparedEndpoint.LaunchesFenced (settings : FencedSettings) (relocated : Request) :
    PreparedEndpoint σ → Shared σ → Call σ Wire.Aidl.FencedTimes → Shared σ → Prop
  | aidl {endpoint : Wire.Aidl.PreparedEndpoint σ} {wire : Wire.Aidl.Request}
    {wireSettings : Wire.Aidl.ExecutionSettings} {timeoutAfterFence : Int64} {before after : Shared σ}
    {reply : Wire.Aidl.FencedReply σ} {getExecutionInfo : Call σ Wire.Aidl.FencedTimes}
    (sent : send .aidl relocated Wire.Aidl.requestToWire = .ok wire)
    (timed : PreparedModel.aidlSettings settings.toExecutionSettings = .ok wireSettings)
    (bounded : Wire.Aidl.durationToWire settings.timeoutAfterFence = .ok timeoutAfterFence)
    (answered : (endpoint.executeFenced wire settings.waitFor wireSettings timeoutAfterFence).Answers
      before reply after)
    (asked : reply.getExecutionInfo = some getExecutionInfo) :
    LaunchesFenced settings relocated (.aidl endpoint) before getExecutionInfo after

theorem PreparedEndpoint.LaunchesFenced.dialect_eq {settings : FencedSettings} {relocated : Request}
    {endpoint : PreparedEndpoint σ} {before after : Shared σ} {getExecutionInfo : Call σ Wire.Aidl.FencedTimes}
    (launched : endpoint.LaunchesFenced settings relocated before getExecutionInfo after) :
    endpoint.dialect = .aidl := by
  cases launched with
  | aidl => rfl

namespace PreparedModel

variable {world later : World σ} {settings : ExecutionSettings} {relocated : Request}

/-- A synchronous call of version 1.2 that is answered for good yields what its report holds, and the launch
follows if the endpoint declined. -/
private theorem submit_leadsTo_iff {endpoint : Wire.Hal.V1_2.PreparedEndpoint σ} {wire : Wire.Hal.Request}
    {measure : Int32} {launch : Action (World σ) (Waited ExecutionResult)} {shared : Shared σ} :
    (submit true (attemptV1_2 endpoint wire measure) launch).LeadsTo world (.ended result) shared ↔
      ∃ report middle, (endpoint.executeSynchronously wire measure).Answers world.shared report middle ∧
        (report.Gives result ∧ middle = shared ∨
          Declines (.ok report.status) ∧ launch.LeadsTo (world.afterCall middle) (.ended result) shared) := by
  rcases ran : (ExceptT.run (endpoint.executeSynchronously wire measure)).run world.shared with ⟨answer, middle⟩
  have submitted : (submit true (attemptV1_2 endpoint wire measure) launch).LeadsTo world (.ended result) shared ↔
      (afterAttempt launch (attempted answer)).LeadsTo (world.afterCall middle) (.ended result) shared := by
    unfold LeadsTo
    rw [submit_true, apply_bind_ok (apply_attemptV1_2 ran), World.host_afterCall]
  have answers : ∀ report last, (endpoint.executeSynchronously wire measure).Answers world.shared report last ↔
      answer = .ok report ∧ middle = last := by
    intro report last
    rw [Call.Answers, ran, Prod.mk.injEq]
  simp only [submitted, answers]
  by_cases declines : Declines (answer.map Wire.Hal.V1_2.Report.status)
  · rw [afterAttempt_of_declines declines]
    obtain ⟨report, rfl, failed, large⟩ := declines.answered
    constructor
    · intro done
      exact ⟨report, middle, ⟨rfl, rfl⟩, .inr ⟨declines, done⟩⟩
    · rintro ⟨_, _, ⟨same, rfl⟩, given | ⟨-, done⟩⟩
      · cases same
        exact absurd given.1.succeeded failed
      · exact done
  · rw [afterAttempt_of_not_declines declines, Action.ofResult_leadsTo_iff, map_ended_eq_ok_iff,
      World.shared_afterCall]
    constructor
    · rintro ⟨final, rfl⟩
      cases answer with
      | error failure => cases final
      | ok report =>
        exact ⟨report, middle, ⟨rfl, rfl⟩, .inl ⟨Wire.Hal.V1_2.Report.toCanonical_eq_ok_iff.mp final, rfl⟩⟩
    · rintro ⟨report, _, ⟨rfl, rfl⟩, ⟨given, rfl⟩ | ⟨declined, -⟩⟩
      · exact ⟨Wire.Hal.V1_2.Report.toCanonical_eq_ok_iff.mpr given, rfl⟩
      · exact absurd declined declines

theorem dispatch_leadsTo_iff {prepared : PreparedModel σ} {shared : Shared σ} :
    (prepared.dispatch settings relocated).LeadsTo world (.ended result) shared ↔
      prepared.endpoint.Yields prepared.options.preferSynchronous prepared.recipient settings relocated world
        result shared := by
  obtain ⟨endpoint, ⟨prefersSynchronous, timeout⟩, recipient⟩ := prepared
  cases endpoint with
  | v1_0 endpoint =>
    simp only [dispatch, dispatchV1_0, ofResult_bind_leadsTo_iff, World.launch_leadsTo_iff]
    constructor
    · rintro ⟨wire, sent, reply, launched, alive, notified⟩
      exact .v1_0 sent launched alive notified
    · intro yielded
      cases yielded with
      | v1_0 sent launched alive notified => exact ⟨_, sent, _, launched, alive, notified⟩
  | v1_2 endpoint =>
    simp only [dispatch, dispatchV1_2, ofResult_bind_leadsTo_iff]
    cases prefersSynchronous with
    | false =>
      have direct : ∀ attempt launch,
          submit false attempt launch = (launch : Action (World σ) (Waited ExecutionResult)) := fun _ _ => rfl
      simp only [direct, World.launch_leadsTo_iff]
      constructor
      · rintro ⟨wire, sent, measure, measured, reply, launched, alive, notified⟩
        exact .launched sent measured rfl launched alive notified
      · intro yielded
        cases yielded with
        | synchronous _ _ preferred => cases preferred
        | launched sent measured first launched alive notified =>
          cases first
          exact ⟨_, sent, _, measured, _, launched, alive, notified⟩
    | true =>
      simp only [submit_leadsTo_iff, World.launch_leadsTo_iff]
      constructor
      · rintro ⟨wire, sent, measure, measured, report, middle, answered, ⟨given, rfl⟩ |
          ⟨declined, reply, launched, alive, notified⟩⟩
        · exact .synchronous sent measured rfl answered given
        · exact .launched sent measured ⟨report, middle, answered, declined, rfl⟩ launched alive notified
      · intro yielded
        cases yielded with
        | synchronous sent measured _ answered given =>
          exact ⟨_, sent, _, measured, _, _, answered, .inl ⟨given, rfl⟩⟩
        | launched sent measured first launched alive notified =>
          obtain ⟨report, _, answered, declined, rfl⟩ := first
          exact ⟨_, sent, _, measured, report, _, answered, .inr ⟨declined, _, launched, alive, notified⟩⟩
  | aidl endpoint =>
    simp only [dispatch, dispatchAidl, ofResult_bind_leadsTo_iff, World.call_bind_leadsTo_iff,
      ofResult_leadsTo_iff, map_ended_eq_ok_iff, World.shared_afterCall,
      Wire.Aidl.ExecutionResult.toCanonical_eq_ok_iff]
    constructor
    · rintro ⟨wire, sent, wireSettings, timed, report, _, answered, given, rfl⟩
      exact .aidl sent timed answered given
    · intro yielded
      cases yielded with
      | aidl sent timed answered given => exact ⟨_, sent, _, timed, _, _, answered, given, rfl⟩

private theorem dispatch_keeps (prepared : PreparedModel σ) (settings : ExecutionSettings) (request : Request) :
    (prepared.dispatch settings request).Keeps World.host := by
  unfold dispatch
  split
  · exact prepared.dispatchV1_0_keeps _ settings request
  · exact prepared.dispatchV1_2_keeps _ settings request
  · exact dispatchAidl_keeps _ settings request

/-- An execution succeeds exactly with what its endpoint came to for the relocated request, if results for the
caller's buffers can be moved back. -/
theorem execute_eq_ok_iff {prepared : PreparedModel σ} {request : Request} :
    (∃ later, (prepared.execute request settings).apply world = (.ok (.ended result), later)) ↔
      ∃ relocated files shared, request.relocate world.host world.shared.files = .ok (relocated, files) ∧
        prepared.endpoint.Yields prepared.options.preferSynchronous prepared.recipient settings relocated
          { world with shared := { world.shared with files } } result shared ∧
        (request.hasNoPointerData = true ∨
          ∃ host, request.restore relocated shared.files world.host = (.ok (), host)) := by
  simp only [execute_eq, World.executeRelocated, apply_bind_eq_ok_iff, World.apply_relocateRequest_eq_ok_iff]
  constructor
  · rintro ⟨later, relocated, _, ⟨files, moved, rfl⟩, waited, between, dispatched, restored⟩
    have host : between.host = world.host := by
      have kept := prepared.dispatch_keeps settings relocated
        { world with shared := { world.shared with files } }
      rwa [dispatched] at kept
    have yielded : (prepared.dispatch settings relocated).LeadsTo { world with shared := { world.shared with files } }
        waited between.shared := ⟨between, dispatched, rfl, host⟩
    cases bare : request.hasNoPointerData with
    | true =>
      simp only [bare, Bool.not_true, Bool.and_false, Bool.false_eq_true, if_false, apply_pure_eq_ok_iff] at restored
      obtain ⟨rfl, -⟩ := restored
      exact ⟨relocated, files, between.shared, moved, dispatch_leadsTo_iff.mp yielded, .inl rfl⟩
    | false =>
      have same : waited = .ended result := by
        split at restored
        · simp only [apply_bind_eq_ok_iff, apply_pure_eq_ok_iff] at restored
          obtain ⟨-, -, -, same, -⟩ := restored
          exact same
        · exact (apply_pure_eq_ok_iff.mp restored).1
      subst same
      simp only [bare, Waited.hasEnded, Bool.not_false, Bool.and_true, if_true, apply_bind_eq_ok_iff,
        apply_pure_eq_ok_iff, World.apply_restoreRequest_eq_iff] at restored
      obtain ⟨_, _, ⟨buffers, written, -⟩, -⟩ := restored
      rw [host] at written
      exact ⟨relocated, files, between.shared, moved, dispatch_leadsTo_iff.mp yielded, .inr ⟨buffers, written⟩⟩
  · rintro ⟨relocated, files, shared, moved, yielded, restored⟩
    have came : (prepared.dispatch settings relocated).LeadsTo { world with shared := { world.shared with files } }
        (.ended result) shared := dispatch_leadsTo_iff.mpr yielded
    obtain ⟨between, dispatched, rfl, host⟩ := came
    cases bare : request.hasNoPointerData with
    | true => exact ⟨between, relocated, _, ⟨files, moved, rfl⟩, .ended result, between, dispatched, rfl⟩
    | false =>
      obtain ⟨buffers, written⟩ := restored.resolve_left (by simp [bare])
      rw [← host] at written
      refine ⟨{ between with host := buffers }, relocated, _, ⟨files, moved, rfl⟩, .ended result, between, dispatched,
        ?_⟩
      simp only [Waited.hasEnded, Bool.not_false, Bool.and_true, if_true, apply_bind_eq_ok_iff, apply_pure_eq_ok_iff,
        World.apply_restoreRequest_eq_iff]
      exact ⟨(), _, ⟨buffers, written, rfl⟩, trivial, rfl⟩

theorem fencedTimes_eq_ok_iff {getExecutionInfo : Call σ Wire.Aidl.FencedTimes} {launched fenced : Timing} :
    (fencedTimes getExecutionInfo).apply world = (.ok (launched, fenced), later) ↔
      ∃ times shared, getExecutionInfo.Answers world.shared times shared ∧ times.Gives launched fenced ∧
        world.afterCall shared = later := by
  simp only [fencedTimes, apply_bind_eq_ok_iff, World.apply_call_eq_ok_iff, apply_ofResult_eq_ok_iff,
    Wire.Aidl.FencedTimes.toCanonical_eq_ok_iff]
  constructor
  · rintro ⟨times, _, ⟨shared, answered, rfl⟩, given, rfl⟩
    exact ⟨times, shared, answered, given, rfl⟩
  · rintro ⟨times, shared, answered, given, rfl⟩
    exact ⟨times, _, ⟨shared, answered, rfl⟩, given, rfl⟩

theorem executeFenced_launches {prepared : PreparedModel σ} {request : Request} {settings : FencedSettings}
    {fence : Fence} {times : Action (World σ) (Timing × Timing)}
    (done : (prepared.executeFenced request settings).apply world = (.ok (.ended (fence, times)), later)) :
    ∃ relocated files getExecutionInfo shared,
      request.relocate world.host world.shared.files = .ok (relocated, files) ∧
      prepared.endpoint.LaunchesFenced settings relocated { world.shared with files } getExecutionInfo shared ∧
      times = fencedTimes getExecutionInfo := by
  obtain ⟨endpoint, options, recipient⟩ := prepared
  cases endpoint with
  | v1_0 endpoint => cases done
  | v1_2 endpoint => cases done
  | aidl endpoint =>
    simp only [executeFenced, executeFencedAidl, apply_bind_eq_ok_iff, apply_ofResult_eq_ok_iff,
      World.apply_relocateRequest_eq_ok_iff, World.apply_call_eq_ok_iff] at done
    obtain ⟨relocated, _, ⟨files, moved, rfl⟩, wire, _, ⟨sent, rfl⟩, wireSettings, _, ⟨timed, rfl⟩,
      timeoutAfterFence, _, ⟨bounded, rfl⟩, reply, _, ⟨shared, answered, rfl⟩, followed⟩ := done
    cases asked : reply.getExecutionInfo with
    | none =>
      simp only [asked] at followed
      cases followed
    | some getExecutionInfo =>
      simp only [asked] at followed
      refine ⟨relocated, files, getExecutionInfo, shared, moved, .aidl sent timed bounded answered asked, ?_⟩
      obtain ⟨fence, _, -, restored⟩ := apply_bind_eq_ok_iff.mp followed
      split at restored
      · obtain ⟨same, -⟩ := apply_pure_eq_ok_iff.mp restored
        exact (Prod.mk.inj (Waited.ended.inj same)).2.symm
      · obtain ⟨waited, _, -, ended⟩ := apply_bind_eq_ok_iff.mp restored
        obtain ⟨same, -⟩ := apply_pure_eq_ok_iff.mp ended
        cases waited with
        | ended => exact (Prod.mk.inj (Waited.ended.inj same)).2.symm
        | never => cases same

end PreparedModel

end NeuralDevice
