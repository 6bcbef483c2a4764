import NeuralDevice.Proofs.Action
import NeuralDevice.Proofs.Execution.Kernel

/-!
Executions that an endpoint serves. Whichever call is used, its success is the result of the dispatch, and the
shared state afterwards is the one in which the endpoint left it.
-/

namespace NeuralDevice

open NeuralDevice.Action Result

variable {σ α η : Type}

/-! The first result that arrives is the one that counts. -/

namespace Waiting

variable {report : η → Result ExecutionResult} {waiter : Nat} {waiting : Waiting}
  {result : Result ExecutionResult}

private theorem result_observe (done : waiting.completion.result? = some result) (event : LaunchEvent η) :
    (observe report waiter waiting event).completion.result? = some result := by
  cases event with
  | notified notification => simp [observe, Completion.complete, done]
  | died =>
    simp only [observe]
    split
    · simp [Completion.completeDead, Completion.complete, done]
    · exact done

theorem result_foldl (done : waiting.completion.result? = some result)
    (events : List (LaunchEvent η)) :
    (events.foldl (observe report waiter) waiting).completion.result? = some result := by
  induction events generalizing waiting with
  | nil => exact done
  | cons event rest ih => exact ih (result_observe done event)

end Waiting

private theorem Monitor.watch_notified {monitor : Monitor Nat} (alive : monitor.hasDied = false)
    (report : η → Result ExecutionResult) (notification : η) (events : List (LaunchEvent η)) :
    (monitor.watch report (.notified notification :: events)).1.result? = some (report notification) := by
  have start : Waiting.start monitor =
      (some monitor.nextNumber, ⟨.empty, (monitor.protect monitor.nextNumber).2⟩) := by
    simp [Waiting.start, Monitor.protect, alive]
  simp only [Monitor.watch, start, List.foldl_cons]
  exact Waiting.result_foldl rfl events

private theorem launchResult_of_result {dialect : Dialect} {name : String} {completion : Completion}
    {timeout : Option Duration} {result : ExecutionResult}
    (done : completion.result? = some (.ok result)) (succeeds : checkStatus dialect name 0 = .ok ()) :
    launchResult dialect name (.ok 0) completion timeout = .ok (.ended result) := by
  simp only [launchResult, succeeds, Completion.wait, done]
  rfl

namespace World

private theorem apply_call {classify : TransportError → Error} {call : Call σ α} {world : World σ} {reply : α}
    {shared : Shared σ} (ran : (ExceptT.run call).run world.shared = (.ok reply, shared)) :
    (World.call classify call).apply world = (.ok reply, world.afterCall shared) := by
  unfold World.call
  rw [apply_ofStep]
  simp only [ran]
  rfl

theorem apply_launch {dialect : Dialect} {name : String} {recipient : Recipient}
    {report : η → Result ExecutionResult} {timeout : World σ → Option Duration}
    {launch : StateM (Shared σ) (Launch η)} {world : World σ} {notification : η}
    {events : List (LaunchEvent η)} {shared : Shared σ} {result : ExecutionResult}
    (alive : (world.monitor recipient).hasDied = false)
    (ran : launch.run world.shared = (⟨.notified notification :: events, .ok 0⟩, shared))
    (reported : report notification = .ok result) (succeeds : checkStatus dialect name 0 = .ok ()) :
    ∃ later, (World.launch dialect name recipient report timeout launch).apply world =
      (.ok (.ended result), later) ∧ later.shared = shared ∧ later.host = world.host := by
  have watched := Monitor.watch_notified alive report notification events
  rw [reported] at watched
  refine ⟨{ world with
    shared
    monitors := world.monitors.set recipient
      ((world.monitor recipient).watch report (.notified notification :: events)).2 }, ?_, rfl, rfl⟩
  unfold World.launch
  rw [apply_ofStep]
  simp only [ran, launchResult_of_result watched succeeds]

end World

namespace PreparedModel

/-- The call that executes a relocated request. -/
def dispatch (prepared : PreparedModel σ) (settings : ExecutionSettings) (request : Request) :
    Action (World σ) (Waited ExecutionResult) :=
  match prepared.endpoint with
  | .v1_0 endpoint => prepared.dispatchV1_0 endpoint settings request
  | .v1_2 endpoint => prepared.dispatchV1_2 endpoint settings request
  | .aidl endpoint => dispatchAidl endpoint settings request

theorem execute_eq (prepared : PreparedModel σ) (request : Request) (settings : ExecutionSettings) :
    prepared.execute request settings = World.executeRelocated request (prepared.dispatch settings) := rfl

/-- Whether notifications count: a call that waits for one fails once the endpoint has died. -/
def CanNotify (prepared : PreparedModel σ) (world : World σ) : Prop :=
  match prepared.endpoint with
  | .v1_0 _ => (world.monitor prepared.recipient).hasDied = false
  | .v1_2 _ => prepared.options.preferSynchronous = false →
    (world.monitor prepared.recipient).hasDied = false
  | .aidl _ => True

/-- Whether the settings can be sent, if they are. -/
def Sends (prepared : PreparedModel σ) (settings : ExecutionSettings) : Prop :=
  prepared.endpoint.dialect = .aidl → ∃ wire, aidlSettings settings = .ok wire

/-- A report that is a success is the final answer to a synchronous call. -/
private theorem outcome_of_toCanonical {report : Wire.Hal.V1_2.Report} {result : ExecutionResult}
    (succeeded : report.toCanonical = .ok result) : report.outcome = .completed (.ok (.ended result)) := by
  unfold Wire.Hal.V1_2.Report.outcome
  rw [succeeded]
  split
  · rfl
  · rfl
  · rename_i status none insufficient
    unfold Wire.Hal.V1_2.Report.toCanonical at succeeded
    split at succeeded
    · rename_i found
      exact absurd found none
    · rename_i found
      exact absurd found insufficient
    · exact absurd succeeded throw_ne_ok

/-- How a synchronous attempt ended, from the answer to its call. -/
def attempted (answer : Except TransportError Wire.Hal.V1_2.Report) : SyncOutcome (Waited ExecutionResult) :=
  match answer with
  | .ok report => report.outcome
  | .error failure => .transportFailed failure.error

theorem apply_attemptV1_2 {endpoint : Wire.Hal.V1_2.PreparedEndpoint σ} {wire : Wire.Hal.Request}
    {measure : Int32} {world : World σ} {answer : Except TransportError Wire.Hal.V1_2.Report}
    {shared : Shared σ}
    (ran : (ExceptT.run (endpoint.executeSynchronously wire measure)).run world.shared = (answer, shared)) :
    (attemptV1_2 endpoint wire measure).apply world = (.ok (attempted answer), world.afterCall shared) := by
  have called : (World.call TransportError.error (endpoint.executeSynchronously wire measure)).apply world =
      (answer.mapError TransportError.error, world.afterCall shared) := by
    unfold World.call
    rw [apply_ofStep]
    simp only [ran]
  unfold attemptV1_2
  rw [apply_bind_ok (apply_attempt _ _), called]
  cases answer <;> rfl

variable {kernel : Kernel σ} {settings : ExecutionSettings} {request : Request} {world : World σ}
  {outcome : FileStore × σ}

/-! In each version, a served request succeeds. -/

private theorem dispatchV1_0_eq_ok {prepared : PreparedModel σ} {endpoint : Wire.Hal.V1_0.PreparedEndpoint σ}
    {message : Wire.Hal.Request} (computes : (PreparedEndpoint.v1_0 endpoint).Computes kernel)
    (alive : (world.monitor prepared.recipient).hasDied = false)
    (sent : send .v1_0 request Wire.Hal.requestToWire = .ok message)
    (served : kernel.serve .v1_0 message world.shared = .ok outcome) :
    ∃ result later, (prepared.dispatchV1_0 endpoint settings request).apply world = (.ok (.ended result), later) ∧
      later.shared.IsAfter outcome ∧ later.host = world.host := by
  obtain ⟨events, shared, ran, after⟩ := computes message world.shared outcome served
  unfold dispatchV1_0
  rw [apply_ofResult_bind sent]
  have notified : Wire.Hal.V1_0.readNotification 0 = .ok ⟨[], .notMeasured⟩ := rfl
  obtain ⟨later, done, same, host⟩ := World.apply_launch alive ran notified rfl
  exact ⟨_, later, done, by rw [same]; exact after, host⟩

private theorem dispatchV1_2_eq_ok {prepared : PreparedModel σ} {endpoint : Wire.Hal.V1_2.PreparedEndpoint σ}
    {message : Wire.Hal.Request} (computes : (PreparedEndpoint.v1_2 endpoint).Computes kernel)
    (alive : prepared.options.preferSynchronous = false →
      (world.monitor prepared.recipient).hasDied = false)
    (sent : send .v1_2 request Wire.Hal.requestToWire = .ok message)
    (served : kernel.serve .v1_2 message world.shared = .ok outcome) :
    ∃ result later, (prepared.dispatchV1_2 endpoint settings request).apply world = (.ok (.ended result), later) ∧
      later.shared.IsAfter outcome ∧ later.host = world.host := by
  obtain ⟨measure, measured⟩ : ∃ measure, WireEnum.toWire .v1_2 settings.measure = .ok measure := by
    cases settings.measure <;> exact ⟨_, rfl⟩
  obtain ⟨⟨report, executed, shared, ran, after, succeeded⟩,
    report', executed', events, shared', ran', after', succeeded'⟩ :=
    computes message measure world.shared outcome served
  unfold dispatchV1_2
  rw [apply_ofResult_bind sent, apply_ofResult_bind measured]
  cases prefers : prepared.options.preferSynchronous with
  | true =>
    refine ⟨executed, world.afterCall shared, ?_, by simpa using after, by simp⟩
    have tried := apply_attemptV1_2 ran
    simp only [attempted, outcome_of_toCanonical succeeded] at tried
    exact apply_bind_ok tried
  | false =>
    obtain ⟨later, done, same, host⟩ := World.apply_launch (alive prefers) ran' succeeded' rfl
    exact ⟨_, later, done, by rw [same]; exact after', host⟩

private theorem dispatchAidl_eq_ok {endpoint : Wire.Aidl.PreparedEndpoint σ} {message : Wire.Aidl.Request}
    (computes : (PreparedEndpoint.aidl endpoint).Computes kernel)
    {wire : Wire.Aidl.ExecutionSettings} (timed : aidlSettings settings = .ok wire)
    (sent : send .aidl request Wire.Aidl.requestToWire = .ok message)
    (served : kernel.serve .aidl message world.shared = .ok outcome) :
    ∃ result later, (dispatchAidl endpoint settings request).apply world = (.ok (.ended result), later) ∧
      later.shared.IsAfter outcome ∧ later.host = world.host := by
  obtain ⟨reply, executed, shared, ran, after, succeeded⟩ :=
    computes message wire world.shared outcome served
  refine ⟨executed, world.afterCall shared, ?_, by simpa using after, by simp⟩
  unfold dispatchAidl
  rw [apply_ofResult_bind sent, apply_ofResult_bind timed, apply_bind_ok (World.apply_call ran),
    apply_ofResult, succeeded]
  rfl

/-- A dispatch succeeds if the endpoint serves the request and its answer can arrive. -/
theorem dispatch_eq_ok {prepared : PreparedModel σ} (computes : prepared.endpoint.Computes kernel)
    (hears : prepared.CanNotify world) (timed : prepared.Sends settings)
    {message : (Crossing.request prepared.endpoint.dialect).Message}
    (sent : (Crossing.request prepared.endpoint.dialect).send request = .ok message)
    (served : kernel.serve prepared.endpoint.dialect message world.shared = .ok outcome) :
    ∃ result later, (prepared.dispatch settings request).apply world = (.ok (.ended result), later) ∧
      later.shared.IsAfter outcome ∧ later.host = world.host := by
  obtain ⟨endpoint, options, recipient⟩ := prepared
  cases endpoint with
  | v1_0 endpoint => exact dispatchV1_0_eq_ok computes hears sent served
  | v1_2 endpoint => exact dispatchV1_2_eq_ok computes hears sent served
  | aidl endpoint =>
    obtain ⟨wire, sentSettings⟩ := timed rfl
    exact dispatchAidl_eq_ok computes sentSettings sent served

end PreparedModel

end NeuralDevice
