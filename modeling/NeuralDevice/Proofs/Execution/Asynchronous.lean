import NeuralDevice.Proofs.Execution.Dispatch

/-!
Asynchronous executions. A launch that fails decides the result; after one that does not, the first event does,
and whatever happens later is ignored. Afterwards the watch on the endpoint has forgotten the execution and
nothing else, unless the endpoint died.
-/

namespace NeuralDevice

open NeuralDevice.Action

variable {σ η κ : Type}

namespace LaunchEvent

def isDeath : LaunchEvent η → Bool
  | .died => true
  | .notified _ => false

/-- What an execution learns from an event. -/
def result (report : η → Result ExecutionResult) : LaunchEvent η → Result ExecutionResult
  | .notified notification => report notification
  | .died => throw WaitFault.endpointDied.error

end LaunchEvent

namespace Launch

/-- What arrives for an execution: an endpoint that had died before is the first to count, then come the
events of the launch. -/
def arrival (launch : Launch η) (report : η → Result ExecutionResult) (hasDied : Bool) :
    Option (Result ExecutionResult) :=
  if hasDied then some (throw WaitFault.endpointDied.error)
  else launch.events.head?.map (LaunchEvent.result report)

/-- The result of an execution that waits for it no longer than `waited`. -/
def decision (launch : Launch η) (dialect : Dialect) (call : String)
    (report : η → Result ExecutionResult) (hasDied : Bool) (waited : Duration) : Result ExecutionResult :=
  match launch.status with
  | .error failure => throw failure.error
  | .ok code =>
    match ErrorStatus.ofWire dialect code with
    | .none => (launch.arrival report hasDied).getD (throw (WaitFault.timedOut waited).error)
    | status => throw (failedWith call status)

end Launch

namespace Monitor

/-- Registrations have numbers that were given out, so the next one is free. -/
def IsNumbered (monitor : Monitor κ) : Prop :=
  ∀ registration ∈ monitor.pending, registration.1 < monitor.nextNumber

private theorem isNumbered_new : (new : Monitor κ).IsNumbered := List.forall_mem_nil _

theorem IsNumbered.protect {monitor : Monitor κ} (numbered : monitor.IsNumbered) (waiter : κ) :
    (monitor.protect waiter).2.IsNumbered := by
  unfold Monitor.protect
  split
  · exact numbered
  · intro registration member
    rcases List.mem_append.mp member with earlier | added
    · exact Nat.lt_succ_of_lt (numbered registration earlier)
    · rw [List.mem_singleton.mp added]
      exact Nat.lt_succ_self _

theorem IsNumbered.drop {monitor : Monitor κ} (numbered : monitor.IsNumbered) (registration : Option Nat) :
    (monitor.drop registration).IsNumbered := by
  cases registration with
  | none => exact numbered
  | some number => exact fun other member => numbered other (List.mem_of_mem_filter member)

private theorem isNumbered_serviceDied (monitor : Monitor κ) (isThere : κ → Bool) :
    (monitor.serviceDied isThere).2.IsNumbered := List.forall_mem_nil _

private theorem pending_drop_protect {monitor : Monitor κ} (numbered : monitor.IsNumbered) (waiter : κ) :
    ((monitor.protect waiter).2.drop (monitor.protect waiter).1).pending = monitor.pending := by
  unfold protect
  split
  · rfl
  · have others : ∀ registration ∈ monitor.pending, (registration.1 != monitor.nextNumber) = true :=
      fun registration member => by simp [Nat.ne_of_lt (numbered registration member)]
    simp only [drop, List.filter_append, List.filter_eq_self.mpr others]
    simp

/-- The watch after some events: a death ends all registrations. -/
def after (monitor : Monitor κ) (events : List (LaunchEvent η)) : Monitor κ :=
  if events.any LaunchEvent.isDeath then (monitor.serviceDied fun _ => true).2 else monitor

end Monitor

namespace Waiting

variable {report : η → Result ExecutionResult} {waiter : Nat}

private theorem monitor_foldl (waiting : Waiting) (events : List (LaunchEvent η)) :
    (events.foldl (observe report waiter) waiting).monitor = waiting.monitor.after events := by
  induction events generalizing waiting with
  | nil => rfl
  | cons event rest ih =>
    rw [List.foldl_cons, ih]
    cases event with
    | notified notification => rfl
    | died =>
      simp only [observe, Monitor.after, Monitor.serviceDied, List.any_cons, LaunchEvent.isDeath,
        Bool.true_or, if_true]
      split <;> rfl

theorem monitor_start (monitor : Monitor Nat) :
    start monitor = ((monitor.protect monitor.nextNumber).1,
      ⟨if monitor.hasDied then Completion.empty.completeDead else .empty,
        (monitor.protect monitor.nextNumber).2⟩) := by
  unfold start Monitor.protect
  cases monitor.hasDied <;> rfl

end Waiting

namespace Monitor

theorem result_watch (monitor : Monitor Nat) (report : η → Result ExecutionResult) (launch : Launch η) :
    (monitor.watch report launch.events).1.result? = launch.arrival report monitor.hasDied := by
  unfold watch Launch.arrival
  rw [Waiting.monitor_start]
  cases dead : monitor.hasDied with
  | true => exact Waiting.result_foldl rfl launch.events
  | false =>
    cases launch.events with
    | nil => rfl
    | cons event rest =>
      simp only [List.foldl_cons]
      refine Waiting.result_foldl ?_ rest
      cases event with
      | notified notification => rfl
      | died => simp [Waiting.observe, protect, dead, serviceDied, Completion.completeDead,
          Completion.complete, Completion.empty, LaunchEvent.result]

theorem monitor_watch (monitor : Monitor Nat) (report : η → Result ExecutionResult)
    (events : List (LaunchEvent η)) :
    (monitor.watch report events).2 =
      ((monitor.protect monitor.nextNumber).2.after events).drop (monitor.protect monitor.nextNumber).1 := by
  unfold watch
  rw [Waiting.monitor_start]
  simp only [Waiting.monitor_foldl]

private theorem pending_watch {monitor : Monitor Nat} (numbered : monitor.IsNumbered)
    (report : η → Result ExecutionResult) (events : List (LaunchEvent η)) :
    (monitor.watch report events).2.pending =
      if events.any LaunchEvent.isDeath then [] else monitor.pending := by
  rw [monitor_watch, after]
  split
  · cases (monitor.protect monitor.nextNumber).1 <;> rfl
  · exact pending_drop_protect numbered _

private theorem isNumbered_watch {monitor : Monitor Nat} (numbered : monitor.IsNumbered)
    (report : η → Result ExecutionResult) (events : List (LaunchEvent η)) :
    (monitor.watch report events).2.IsNumbered := by
  rw [monitor_watch, after]
  apply IsNumbered.drop
  split
  · exact isNumbered_serviceDied _ _
  · exact numbered.protect _

end Monitor

private theorem launchResult_eq_decision (dialect : Dialect) (call : String)
    (report : η → Result ExecutionResult) (monitor : Monitor Nat) (launch : Launch η) (waited : Duration) :
    launchResult dialect call launch.status (monitor.watch report launch.events).1 (some waited) =
      (launch.decision dialect call report monitor.hasDied waited).map .ended := by
  unfold launchResult Launch.decision
  cases launch.status with
  | error failure => rfl
  | ok code =>
    simp only [checkStatus, Completion.wait, Monitor.result_watch]
    cases ErrorStatus.ofWire dialect code with
    | none => cases launch.arrival report monitor.hasDied <;> rfl
    | _ => rfl

namespace World

section Watches

variable {world later : World σ} {recipient : Recipient} {monitor : Monitor Nat}

private theorem monitor_of_set (changed : later.monitors = world.monitors.set recipient monitor) :
    later.monitor recipient = if recipient < world.monitors.length then monitor else .new := by
  simp only [World.monitor, changed, List.getElem?_set_self']
  split
  · rename_i inside
    simp [inside]
  · rename_i outside
    simp [outside]

private theorem monitor_of_set_ne (changed : later.monitors = world.monitors.set recipient monitor)
    {other : Recipient} (apart : other ≠ recipient) : later.monitor other = world.monitor other := by
  simp only [World.monitor, changed, List.getElem?_set_ne apart.symm]

end Watches

/-- An execution that was launched is forgotten: its number is registered nowhere, the other registrations
are still there unless the endpoint died meanwhile, and other endpoints are watched as before. -/
structure Forgets (before after : World σ) (recipient : Recipient) (events : List (LaunchEvent η)) :
    Prop where
  unregistered : ∀ registration ∈ (after.monitor recipient).pending,
    registration.1 ≠ (before.monitor recipient).nextNumber
  pending : (after.monitor recipient).pending =
    if events.any LaunchEvent.isDeath then [] else (before.monitor recipient).pending
  numbered : (after.monitor recipient).IsNumbered
  others : ∀ other, other ≠ recipient → after.monitor other = before.monitor other

private theorem forgets_of_watch {world later : World σ} {recipient : Recipient}
    {report : η → Result ExecutionResult} {events : List (LaunchEvent η)}
    (numbered : (world.monitor recipient).IsNumbered)
    (watched : later.monitors =
      world.monitors.set recipient ((world.monitor recipient).watch report events).2) :
    world.Forgets later recipient events := by
  have own := monitor_of_set watched
  have left : (later.monitor recipient).pending =
      if events.any LaunchEvent.isDeath then [] else (world.monitor recipient).pending := by
    rw [own]
    split
    · exact Monitor.pending_watch numbered report events
    · rename_i outside
      simp [World.monitor, Nat.le_of_not_lt outside, Monitor.new]
  refine ⟨?_, left, ?_, fun other apart => monitor_of_set_ne watched apart⟩
  · intro registration member
    rw [left] at member
    split at member
    · simp at member
    · exact Nat.ne_of_lt (numbered registration member)
  · rw [own]
    split
    · exact Monitor.isNumbered_watch numbered report events
    · exact Monitor.isNumbered_new

theorem apply_launch_forgets {dialect : Dialect} {name : String} {recipient : Recipient}
    {report : η → Result ExecutionResult} {timeout : World σ → Option Duration} {waited : Duration}
    {launch : StateM (Shared σ) (Launch η)} {world : World σ} {reply : Launch η} {shared : Shared σ}
    (numbered : (world.monitor recipient).IsNumbered) (ran : launch.run world.shared = (reply, shared))
    (bounded : ∀ monitors, timeout { world with shared, monitors } = some waited) :
    ∃ later, (World.launch dialect name recipient report timeout launch).apply world =
        ((reply.decision dialect name report (world.monitor recipient).hasDied waited).map .ended, later) ∧
      later.shared = shared ∧ later.host = world.host ∧
      world.Forgets later recipient reply.events := by
  refine ⟨{ world with
    shared
    monitors := world.monitors.set recipient ((world.monitor recipient).watch report reply.events).2 },
    ?_, rfl, rfl, forgets_of_watch numbered rfl⟩
  unfold World.launch
  rw [apply_ofStep]
  simp only [ran, bounded, launchResult_eq_decision]

end World

namespace PreparedModel

variable {prepared : PreparedModel σ} {world : World σ}

def launchV1_0 (prepared : PreparedModel σ) (endpoint : Wire.Hal.V1_0.PreparedEndpoint σ)
    (deadline : Option TimePoint) (wire : Wire.Hal.Request) : Action (World σ) (Waited ExecutionResult) :=
  World.launch .v1_0 "execute" prepared.recipient Wire.Hal.V1_0.readNotification
    (prepared.timeout deadline) (endpoint.execute wire)

def launchV1_2 (prepared : PreparedModel σ) (endpoint : Wire.Hal.V1_2.PreparedEndpoint σ)
    (deadline : Option TimePoint) (wire : Wire.Hal.Request) (measure : Int32) :
    Action (World σ) (Waited ExecutionResult) :=
  World.launch .v1_2 "execute_1_2" prepared.recipient Wire.Hal.V1_2.Report.toCanonical
    (prepared.timeout deadline) (endpoint.execute wire measure)

theorem dispatchV1_0_eq (endpoint : Wire.Hal.V1_0.PreparedEndpoint σ) (settings : ExecutionSettings)
    (request : Request) :
    prepared.dispatchV1_0 endpoint settings request =
      Action.ofResult (send .v1_0 request Wire.Hal.requestToWire) >>=
        prepared.launchV1_0 endpoint settings.deadline := rfl

theorem dispatchV1_2_eq (endpoint : Wire.Hal.V1_2.PreparedEndpoint σ) (settings : ExecutionSettings)
    (request : Request) :
    prepared.dispatchV1_2 endpoint settings request = (do
      let wire ← Action.ofResult (send .v1_2 request Wire.Hal.requestToWire)
      let measure ← Action.ofResult (WireEnum.toWire .v1_2 settings.measure)
      submit prepared.options.preferSynchronous (attemptV1_2 endpoint wire measure)
        (prepared.launchV1_2 endpoint settings.deadline wire measure)) := rfl

/-- A launch that fails decides an asynchronous execution, otherwise what arrives first does, and the wait
ends in vain only if nothing arrives. The watch forgets the execution either way. -/
theorem launch_decides {deadline : Option TimePoint} {waited : Duration}
    (bounded : prepared.timeout deadline world = some waited)
    (numbered : (world.monitor prepared.recipient).IsNumbered) :
    (∀ (endpoint : Wire.Hal.V1_0.PreparedEndpoint σ) wire reply shared,
      (endpoint.execute wire).run world.shared = (reply, shared) →
      ∃ later, (prepared.launchV1_0 endpoint deadline wire).apply world =
          ((reply.decision .v1_0 "execute" Wire.Hal.V1_0.readNotification
            (world.monitor prepared.recipient).hasDied waited).map .ended, later) ∧
        later.shared = shared ∧ later.host = world.host ∧
        world.Forgets later prepared.recipient reply.events) ∧
    ∀ (endpoint : Wire.Hal.V1_2.PreparedEndpoint σ) wire measure reply shared,
      (endpoint.execute wire measure).run world.shared = (reply, shared) →
      ∃ later, (prepared.launchV1_2 endpoint deadline wire measure).apply world =
          ((reply.decision .v1_2 "execute_1_2" Wire.Hal.V1_2.Report.toCanonical
            (world.monitor prepared.recipient).hasDied waited).map .ended, later) ∧
        later.shared = shared ∧ later.host = world.host ∧
        world.Forgets later prepared.recipient reply.events := by
  refine ⟨fun endpoint wire reply shared ran => ?_, fun endpoint wire measure reply shared ran => ?_⟩
  · exact World.apply_launch_forgets numbered ran fun _ => bounded
  · exact World.apply_launch_forgets numbered ran fun _ => bounded

/-- An endpoint of version 1.0 dies before it notifies success, one of version 1.2 notifies success and then a
failure; another execution is registered, and nobody waits. -/
theorem launch_decides_at_once :
    let dying : Wire.Hal.V1_0.PreparedEndpoint Unit :=
      ⟨fun _ => pure ⟨[.died, .notified 0], .ok 0⟩, fun _ => pure true⟩
    let hasty : Wire.Hal.V1_2.PreparedEndpoint Unit :=
      ⟨fun _ _ => pure ⟨[.notified ⟨0, [⟨[2, 3], true⟩], ⟨4, 5⟩⟩, .notified ⟨1, [], ⟨0, 0⟩⟩], .ok 0⟩,
        fun _ _ => pure ⟨1, [], ⟨0, 0⟩⟩, fun _ => pure true⟩
    let world : World Unit := ⟨⟨.empty, .empty, [], ()⟩, ⟨[]⟩, [⟨false, 3, [(1, 1)]⟩], ⟨0⟩⟩
    let prepared (endpoint : PreparedEndpoint Unit) : PreparedModel Unit := ⟨endpoint, ⟨true, some .zero⟩, 0⟩
    (∀ endpoint, (prepared endpoint).timeout none world = some .zero) ∧ (world.monitor 0).IsNumbered ∧
      (∃ later, ((prepared (.v1_0 dying)).launchV1_0 dying none ⟨[], [], []⟩).apply world =
          (.error WaitFault.endpointDied.error, later) ∧ (later.monitor 0).pending = []) ∧
      ∃ later, ((prepared (.v1_2 hasty)).launchV1_2 hasty none ⟨[], [], []⟩ 0).apply world =
          (.ok (.ended ⟨[⟨[2, 3], true⟩], ⟨some (.ofMicroseconds 4), some (.ofMicroseconds 5)⟩⟩), later) ∧
        (later.monitor 0).pending = [(1, 1)] := by
  intro dying hasty world prepared
  have numbered : (world.monitor 0).IsNumbered :=
    show ∀ registration ∈ [((1 : Nat), (1 : Nat))], registration.1 < 3 by decide
  have bounded : ∀ endpoint, (prepared endpoint).timeout none world = some .zero := fun _ => rfl
  obtain ⟨first, died, -, -, empty⟩ :=
    (launch_decides (bounded (.v1_0 dying)) numbered).1 dying ⟨[], [], []⟩ _ _ rfl
  obtain ⟨second, notified, -, -, kept⟩ :=
    (launch_decides (bounded (.v1_2 hasty)) numbered).2 hasty ⟨[], [], []⟩ 0 _ _ rfl
  refine ⟨bounded, numbered, ⟨first, died, empty.pending⟩, second, notified.trans ?_, kept.pending⟩
  exact congrArg (·, second) (by decide +kernel)

end PreparedModel

end NeuralDevice
