import NeuralDevice.Proofs.Device.Admission
import NeuralDevice.Proofs.Execution.Report
import NeuralDevice.Proofs.Relocation.Restoration

/-!
Fenced executions. What happens while a caller waits for a fence is up to others, so the wait is a parameter here.
A caller with host memory gets a fence and results only after it saw the fence signaled, and any other never waits.
-/

namespace NeuralDevice

open NeuralDevice.Action Result

variable {σ : Type}

/-- A wait for a fence: what others do meanwhile, and how it comes out. It ends with the state of the fence that is
seen last. A bounded wait always ends; one without bound does not end before the fence has fired. -/
structure FenceWait (σ : Type) where
  run : Fence → Option Duration → StateM (Shared σ) (Waited FenceState)
  observes : ∀ fence timeout before seen after,
    (run fence timeout).run before = (.ended seen, after) → after.fences.state fence = seen
  bounded : ∀ fence timeout before after, (run fence (some timeout)).run before ≠ (.never, after)
  unbounded : ∀ fence before after, (run fence none).run before ≠ (.ended .active, after)

/-- The wait at the start of which others act once. -/
def FenceWait.acting (act : Fence → Shared σ → Shared σ) : FenceWait σ where
  run fence timeout := fun shared => ((act fence shared).fences.wait fence timeout, act fence shared)
  observes := by
    intro fence timeout before seen after waited
    obtain ⟨ended, rfl⟩ := Prod.mk.inj waited
    exact (FenceTable.wait_eq_ended_iff.mp ended).1
  bounded := by
    intro fence timeout before after waited
    have never := (Prod.mk.inj waited).1
    rw [FenceTable.wait_some] at never
    cases never
  unbounded := by
    intro fence before after waited
    exact (FenceTable.wait_eq_ended_iff.mp (Prod.mk.inj waited).1).2 rfl rfl

/-- The wait during which nobody else does anything. -/
def FenceWait.still : FenceWait σ := .acting fun _ => id

/-- Points and spans of time have counts of nanoseconds that the wire has numbers for. -/
structure FencedSettings.FitsWire (settings : FencedSettings) : Prop where
  deadline : ∀ point, settings.deadline = some point → 0 ≤ point.sinceEpoch ∧ point.sinceEpoch < 2 ^ 63
  loopTimeout : ∀ span, settings.loopTimeout = some span → span.nanoseconds < 2 ^ 63
  timeoutAfterFence : ∀ span, settings.timeoutAfterFence = some span → span.nanoseconds < 2 ^ 63

namespace Wire.Aidl

theorem exists_durationToWire_iff {duration : Option Duration} :
    (∃ word, durationToWire duration = .ok word) ↔ ∀ span, duration = some span → span.nanoseconds < 2 ^ 63 := by
  unfold durationToWire
  cases duration with
  | none => simp [pure_eq_ok_iff]
  | some span => simp [exists_narrow_iff, Word.fits_int64_iff]

theorem exists_deadlineToWire_iff {deadline : Option TimePoint} :
    (∃ word, deadlineToWire deadline = .ok word) ↔
      ∀ point, deadline = some point → 0 ≤ point.sinceEpoch ∧ point.sinceEpoch < 2 ^ 63 := by
  unfold deadlineToWire
  cases deadline with
  | none => simp [pure_eq_ok_iff]
  | some point =>
    simp only [refuse_eq_ok_iff, Option.some.injEq, forall_eq', exists_and_left, exists_narrow_iff, Int.not_lt]
    refine and_congr_right fun late => ?_
    obtain ⟨count, counted⟩ := Int.eq_ofNat_of_zero_le late
    rw [counted, Word.fits_int64_iff]
    omega

end Wire.Aidl

namespace PreparedModel

private theorem fitsWire_iff {settings : FencedSettings} :
    settings.FitsWire ↔
      (∃ wire, aidlSettings settings.toExecutionSettings = .ok wire) ∧
        ∃ word, Wire.Aidl.durationToWire settings.timeoutAfterFence = .ok word := by
  simp only [aidlSettings, bind_eq_ok_iff, pure_eq_ok_iff]
  rw [Wire.Aidl.exists_durationToWire_iff]
  constructor
  · intro fits
    obtain ⟨deadline, dated⟩ := Wire.Aidl.exists_deadlineToWire_iff.mpr fits.deadline
    obtain ⟨loopTimeout, bounded⟩ := Wire.Aidl.exists_durationToWire_iff.mpr fits.loopTimeout
    exact ⟨⟨_, deadline, dated, loopTimeout, bounded, rfl⟩, fits.timeoutAfterFence⟩
  · intro converted
    obtain ⟨⟨_, deadline, dated, loopTimeout, bounded, -⟩, timeoutAfterFence⟩ := converted
    exact ⟨Wire.Aidl.exists_deadlineToWire_iff.mp ⟨deadline, dated⟩,
      Wire.Aidl.exists_durationToWire_iff.mp ⟨loopTimeout, bounded⟩, timeoutAfterFence⟩

/-- A fenced execution up to the reply of its endpoint. -/
def launchFenced (endpoint : Wire.Aidl.PreparedEndpoint σ) (request : Request) (settings : FencedSettings) :
    Action (World σ) (Request × Wire.Aidl.FencedReply σ) := do
  let relocated ← World.relocateRequest request
  let wire ← Action.ofResult (send .aidl relocated Wire.Aidl.requestToWire)
  let wireSettings ← Action.ofResult (aidlSettings settings.toExecutionSettings)
  let timeoutAfterFence ← Action.ofResult (Wire.Aidl.durationToWire settings.timeoutAfterFence)
  let reply ← World.call TransportError.errorWithStatus
    (endpoint.executeFenced wire settings.waitFor wireSettings timeoutAfterFence)
  pure (relocated, reply)

/-- Waits for a fence while others act, and moves results back. -/
def restoreWhile (wait : FenceWait σ) (prepared : PreparedModel σ) (fence : Fence) (deadline : Option TimePoint)
    (request relocated : Request) : Action (World σ) (Waited Unit) := do
  let waited ← Action.ofStep fun world =>
    let (waited, shared) := (wait.run fence (prepared.timeout deadline world)).run world.shared
    (.ok waited, { world with shared })
  restoreOn waited request relocated

/-- A fenced execution from the reply of its endpoint on. -/
def finishFenced (wait : FenceWait σ) (prepared : PreparedModel σ) (request : Request) (settings : FencedSettings)
    (relocated : Request) (reply : Wire.Aidl.FencedReply σ) :
    Action (World σ) (Waited (Fence × Action (World σ) (Timing × Timing))) :=
  match reply.getExecutionInfo with
  | none => throw ExecutionFault.noCallback.error
  | some getExecutionInfo => do
    let fence ← replyFence reply.fence
    if request.hasNoPointerData then return .ended (fence, fencedTimes getExecutionInfo)
    let waited ← prepared.restoreWhile wait fence settings.deadline request relocated
    pure (waited.map fun _ => (fence, fencedTimes getExecutionInfo))

/-- A fenced execution during whose wait others act. -/
def executeFencedWhile (wait : FenceWait σ) (prepared : PreparedModel σ)
    (endpoint : Wire.Aidl.PreparedEndpoint σ) (request : Request) (settings : FencedSettings) :
    Action (World σ) (Waited (Fence × Action (World σ) (Timing × Timing))) := do
  let (relocated, reply) ← launchFenced endpoint request settings
  prepared.finishFenced wait request settings relocated reply

private theorem executeFencedWhile_still (prepared : PreparedModel σ) (endpoint : Wire.Aidl.PreparedEndpoint σ)
    (request : Request) (settings : FencedSettings) :
    prepared.executeFencedWhile .still endpoint request settings =
      prepared.executeFencedAidl endpoint request settings := by
  unfold executeFencedWhile launchFenced
  simp only [bind_assoc, pure_bind]
  rfl

/-- The caller gets the fence of the endpoint, or a new one that has fired already. -/
inductive Hands (world : World σ) : Option Fence → Fence → World σ → Prop
  | own (fence : Fence) : Hands world (some fence) fence world
  | signaled {fence : Fence} {fences : FenceTable} (made : world.shared.fences.create .signaled = (fence, fences)) :
    Hands world none fence { world with shared := { world.shared with fences } }

/-- The caller waits for its fence, with this bound if there is one, and the wait comes out so. -/
inductive Awaits (wait : FenceWait σ) (prepared : PreparedModel σ) (deadline : Option TimePoint)
    (reply : Option Fence) (answered : World σ) : Fence → Option Duration → Waited FenceState → World σ → Prop
  | last {fence : Fence} {handed : World σ} {timeout : Option Duration} {waited : Waited FenceState}
    {shared : Shared σ} (hands : Hands answered reply fence handed)
    (bound : prepared.timeout deadline handed = timeout)
    (ran : (wait.run fence timeout).run handed.shared = (waited, shared)) :
    Awaits wait prepared deadline reply answered fence timeout waited { handed with shared }

/-- What a fenced execution comes to after the reply of its endpoint. -/
structure FencedOutcome (wait : FenceWait σ) (prepared : PreparedModel σ) (request : Request)
    (settings : FencedSettings) (relocated : Request) (reply : Wire.Aidl.FencedReply σ) (world answered : World σ)
    (outcome : Result (Waited (Fence × Action (World σ) (Timing × Timing)))) (later : World σ) : Prop where
  declined : reply.getExecutionInfo = none → ∃ text, outcome = .error (.generalFailure text)
  unwaited : ∀ getExecutionInfo, reply.getExecutionInfo = some getExecutionInfo →
    request.hasNoPointerData = true →
    ∃ fence, Hands answered reply.fence fence later ∧
      (reply.fence = none → later.shared.fences.state fence = .signaled) ∧
      outcome = .ok (.ended (fence, fencedTimes getExecutionInfo))
  /-- Only a bounded wait ends at a fence that is still active. -/
  timedOut : reply.getExecutionInfo.isSome = true → request.hasNoPointerData = false →
    ∀ fence timeout ended,
      Awaits wait prepared settings.deadline reply.fence answered fence timeout (.ended .active) ended →
    (∃ bound, timeout = some bound) ∧ ∃ text, outcome = .error (.deadlineExceeded text)
  failed : reply.getExecutionInfo.isSome = true → request.hasNoPointerData = false →
    ∀ fence timeout ended,
      Awaits wait prepared settings.deadline reply.fence answered fence timeout (.ended .error) ended →
    ∃ text, outcome = .error (.generalFailure text)
  /-- Only a wait without bound for a fence that does not fire keeps the call from returning. -/
  endless : outcome = .ok .never ↔
    reply.getExecutionInfo.isSome = true ∧ request.hasNoPointerData = false ∧
      ∃ fence ended, Awaits wait prepared settings.deadline reply.fence answered fence none .never ended
  restored : request.hasNoPointerData = false → ∀ fence times, outcome = .ok (.ended (fence, times)) →
    (∃ getExecutionInfo, reply.getExecutionInfo = some getExecutionInfo ∧ times = fencedTimes getExecutionInfo) ∧
    (∃ timeout ended,
      Awaits wait prepared settings.deadline reply.fence answered fence timeout (.ended .signaled) ended) ∧
    later.shared.fences.state fence = .signaled ∧
    ((∃ output ∈ request.outputs, output.isInHost = true) →
      ∃ memory results, relocated.pools.getLast? = some (.memory memory) ∧
        request.HasResults relocated memory later.shared.files results ∧
        request.HasRestored results world.host later.host)

section Outcome

variable {wait : FenceWait σ} {prepared : PreparedModel σ} {endpoint : Wire.Aidl.PreparedEndpoint σ}
  {request relocated : Request} {settings : FencedSettings} {reply : Wire.Aidl.FencedReply σ}
  {world answered later : World σ} {fence : Fence} {times : Action (World σ) (Timing × Timing)}

private theorem launchFenced_eq_ok_iff :
    (launchFenced endpoint request settings).apply world = (.ok (relocated, reply), answered) ↔
      ∃ files wire wireSettings timeoutAfterFence shared,
        request.relocate world.host world.shared.files = .ok (relocated, files) ∧
        send .aidl relocated Wire.Aidl.requestToWire = .ok wire ∧
        aidlSettings settings.toExecutionSettings = .ok wireSettings ∧
        Wire.Aidl.durationToWire settings.timeoutAfterFence = .ok timeoutAfterFence ∧
        (endpoint.executeFenced wire settings.waitFor wireSettings timeoutAfterFence).Answers
          { world.shared with files } reply shared ∧
        ({ world with shared := { world.shared with files } } : World σ).afterCall shared = answered := by
  simp only [launchFenced, apply_bind_eq_ok_iff, apply_ofResult_eq_ok_iff, apply_pure_eq_ok_iff,
    World.apply_relocateRequest_eq_ok_iff, World.apply_call_eq_ok_iff]
  constructor
  · intro done
    obtain ⟨_, _, ⟨files, moved, rfl⟩, wire, _, ⟨sent, rfl⟩, wireSettings, _, ⟨timed, rfl⟩, timeoutAfterFence, _,
      ⟨bounded, rfl⟩, _, _, ⟨shared, called, rfl⟩, same, rfl⟩ := done
    obtain ⟨rfl, rfl⟩ := Prod.mk.inj same
    exact ⟨files, wire, wireSettings, timeoutAfterFence, shared, moved, sent, timed, bounded, called, rfl⟩
  · intro parts
    obtain ⟨files, wire, wireSettings, timeoutAfterFence, shared, moved, sent, timed, bounded, called, rfl⟩ := parts
    exact ⟨_, _, ⟨files, moved, rfl⟩, wire, _, ⟨sent, rfl⟩, wireSettings, _, ⟨timed, rfl⟩, timeoutAfterFence, _,
      ⟨bounded, rfl⟩, _, _, ⟨shared, called, rfl⟩, rfl, rfl⟩

theorem replyFence_eq_ok_iff {given : Option Fence} :
    (replyFence given).apply world = (.ok fence, later) ↔ Hands world given fence later := by
  constructor
  · intro done
    cases given with
    | some given =>
      obtain ⟨rfl, rfl⟩ := apply_pure_eq_ok_iff.mp done
      exact .own given
    | none =>
      cases done
      exact .signaled rfl
  · intro hands
    cases hands with
    | own => rfl
    | signaled made =>
      unfold replyFence
      rw [apply_ofStep, made]

theorem exists_hands (answered : World σ) (given : Option Fence) :
    ∃ fence handed, Hands answered given fence handed := by
  cases given with
  | some fence => exact ⟨fence, answered, .own fence⟩
  | none => exact ⟨_, _, .signaled rfl⟩

theorem exists_awaits (wait : FenceWait σ) (prepared : PreparedModel σ) (deadline : Option TimePoint)
    (given : Option Fence) (answered : World σ) :
    ∃ fence timeout waited ended, Awaits wait prepared deadline given answered fence timeout waited ended := by
  obtain ⟨fence, handed, hands⟩ := exists_hands answered given
  exact ⟨fence, _, _, _, .last hands rfl rfl⟩

private theorem Hands.state_of_none {given : Option Fence} (hands : Hands answered given fence later)
    (missing : given = none) : later.shared.fences.state fence = .signaled := by
  cases hands with
  | own => cases missing
  | signaled made =>
    obtain ⟨rfl, rfl⟩ := Prod.mk.inj made
    simp [FenceTable.state]

section Awaits

variable {deadline : Option TimePoint} {given : Option Fence} {timeout : Option Duration} {ended : World σ}

private theorem Awaits.state_eq {seen : FenceState}
    (awaits : Awaits wait prepared deadline given answered fence timeout (.ended seen) ended) :
    ended.shared.fences.state fence = seen := by
  cases awaits with
  | last hands bound ran => exact wait.observes _ _ _ _ _ ran

private theorem Awaits.timeout_eq_none
    (awaits : Awaits wait prepared deadline given answered fence timeout .never ended) : timeout = none := by
  cases awaits with
  | last hands bound ran =>
    cases timeout with
    | none => rfl
    | some timeout => exact absurd ran (wait.bounded _ _ _ _)

private theorem Awaits.exists_bound
    (awaits : Awaits wait prepared deadline given answered fence timeout (.ended .active) ended) :
    ∃ bound, timeout = some bound := by
  cases awaits with
  | last hands bound ran =>
    cases timeout with
    | none => exact absurd ran (wait.unbounded _ _ _)
    | some span => exact ⟨span, rfl⟩

private theorem Awaits.host_eq {waited : Waited FenceState}
    (awaits : Awaits wait prepared deadline given answered fence timeout waited ended) :
    ended.host = answered.host := by
  cases awaits with
  | last hands => cases hands <;> rfl

end Awaits

variable {getExecutionInfo : Call σ Wire.Aidl.FencedTimes}

theorem apply_finishFenced_of_bare (answers : reply.getExecutionInfo = some getExecutionInfo)
    (bare : request.hasNoPointerData = true) (hands : Hands answered reply.fence fence later) :
    (prepared.finishFenced wait request settings relocated reply).apply answered =
      (.ok (.ended (fence, fencedTimes getExecutionInfo)), later) := by
  unfold finishFenced
  rw [answers]
  simp only [bare, if_true]
  rw [apply_bind_ok (replyFence_eq_ok_iff.mpr hands)]
  rfl

/-- With host memory the caller gets its fence once results are moved back, if the wait for the fence ends so. -/
theorem apply_finishFenced_of_awaits (answers : reply.getExecutionInfo = some getExecutionInfo)
    (moves : request.hasNoPointerData = false) {timeout : Option Duration} {waited : Waited FenceState}
    {ended : World σ}
    (awaits : Awaits wait prepared settings.deadline reply.fence answered fence timeout waited ended) :
    (prepared.finishFenced wait request settings relocated reply).apply answered =
      (restoreOn waited request relocated >>= fun restored =>
        pure (restored.map fun _ => (fence, fencedTimes getExecutionInfo))).apply ended := by
  cases awaits with
  | last hands bound ran =>
    unfold finishFenced restoreWhile
    rw [answers]
    simp only [moves, Bool.false_eq_true, if_false, bind_assoc]
    rw [apply_bind_ok (replyFence_eq_ok_iff.mpr hands), apply_bind_ok (by rw [apply_ofStep, bound, ran])]

/-- A fenced execution that does not fail waits for nothing, waits forever, or saw its fence signaled and moved results
back. -/
private theorem finishFenced_cases {outcome : Waited (Fence × Action (World σ) (Timing × Timing))}
    (done : (prepared.finishFenced wait request settings relocated reply).apply answered = (.ok outcome, later)) :
    ∃ getExecutionInfo fence, reply.getExecutionInfo = some getExecutionInfo ∧
      (request.hasNoPointerData = true ∧ outcome = .ended (fence, fencedTimes getExecutionInfo) ∨
        request.hasNoPointerData = false ∧ outcome = .never ∧
          Awaits wait prepared settings.deadline reply.fence answered fence none .never later ∨
        request.hasNoPointerData = false ∧ outcome = .ended (fence, fencedTimes getExecutionInfo) ∧
          ∃ timeout ended,
            Awaits wait prepared settings.deadline reply.fence answered fence timeout (.ended .signaled) ended ∧
              (World.restoreRequest request relocated).apply ended = (.ok (), later)) := by
  cases answers : reply.getExecutionInfo with
  | none =>
    unfold finishFenced at done
    rw [answers] at done
    cases done
  | some getExecutionInfo =>
    cases moves : request.hasNoPointerData with
    | true =>
      obtain ⟨fence, handed, hands⟩ := exists_hands answered reply.fence
      rw [apply_finishFenced_of_bare answers moves hands] at done
      cases done
      exact ⟨_, fence, rfl, .inl ⟨rfl, rfl⟩⟩
    | false =>
      obtain ⟨fence, timeout, waited, ended, awaits⟩ :=
        exists_awaits wait prepared settings.deadline reply.fence answered
      rw [apply_finishFenced_of_awaits answers moves awaits] at done
      -- Of all the ways in which the wait may come out, two let the call not fail.
      match waited with
      | .never =>
        obtain rfl := awaits.timeout_eq_none
        cases done
        exact ⟨_, fence, rfl, .inr (.inl ⟨rfl, rfl, awaits⟩)⟩
      | .ended .active | .ended .error => cases done
      | .ended .signaled =>
        simp only [restoreOn, bind_assoc, pure_bind] at done
        obtain ⟨_, _, restored, given⟩ := apply_bind_eq_ok_iff.mp done
        obtain ⟨rfl, rfl⟩ := apply_pure_eq_ok_iff.mp given
        exact ⟨_, fence, rfl, .inr (.inr ⟨rfl, rfl, timeout, ended, awaits, restored⟩)⟩

private theorem restored_of_finishFenced (moves : request.hasNoPointerData = false)
    (launched : (launchFenced endpoint request settings).apply world = (.ok (relocated, reply), answered))
    (done : (prepared.finishFenced wait request settings relocated reply).apply answered =
      (.ok (.ended (fence, times)), later)) :
    (∃ getExecutionInfo, reply.getExecutionInfo = some getExecutionInfo ∧ times = fencedTimes getExecutionInfo) ∧
    (∃ timeout ended,
      Awaits wait prepared settings.deadline reply.fence answered fence timeout (.ended .signaled) ended) ∧
    later.shared.fences.state fence = .signaled ∧
    ((∃ output ∈ request.outputs, output.isInHost = true) →
      ∃ memory results, relocated.pools.getLast? = some (.memory memory) ∧
        request.HasResults relocated memory later.shared.files results ∧
        request.HasRestored results world.host later.host) := by
  obtain ⟨files, _, _, _, _, moved, -, -, -, -, rfl⟩ := launchFenced_eq_ok_iff.mp launched
  obtain ⟨getExecutionInfo, own, answers, ⟨bare, -⟩ | ⟨-, never, -⟩ |
    ⟨-, same, timeout, ended, awaits, restored⟩⟩ := finishFenced_cases done
  · cases bare.symm.trans moves
  · cases never
  · obtain ⟨rfl, rfl⟩ := Prod.mk.inj (Waited.ended.inj same)
    obtain ⟨host, copied, rfl⟩ := World.apply_restoreRequest_eq_iff.mp restored
    refine ⟨⟨getExecutionInfo, answers, rfl⟩, ⟨timeout, ended, awaits⟩, awaits.state_eq, fun inHost => ?_⟩
    obtain ⟨output, member, inHost⟩ := inHost
    obtain ⟨memory, last⟩ := Request.exists_last_memory_of_relocate moved member inHost
    obtain ⟨missing, -⟩ | ⟨memory, results, last, found, -, rfl⟩ := Request.restore_eq_ok_iff.mp copied
    · exact absurd last (missing memory)
    · have restored := found.hasRestored ended.host
      rw [awaits.host_eq, World.host_afterCall] at restored ⊢
      exact ⟨memory, results, last, found, restored⟩

private theorem finishFenced_eq_never_iff :
    ((prepared.finishFenced wait request settings relocated reply).apply answered).1 = .ok .never ↔
      reply.getExecutionInfo.isSome = true ∧ request.hasNoPointerData = false ∧
        ∃ fence ended, Awaits wait prepared settings.deadline reply.fence answered fence none .never ended := by
  constructor
  · intro lasts
    obtain ⟨getExecutionInfo, fence, answers, ⟨-, same⟩ | ⟨moves, -, awaits⟩ | ⟨-, same, -⟩⟩ :=
      finishFenced_cases (Prod.ext lasts rfl)
    · cases same
    · exact ⟨Option.isSome_of_eq_some answers, moves, fence, _, awaits⟩
    · cases same
  · intro waits
    obtain ⟨answers, moves, fence, ended, awaits⟩ := waits
    obtain ⟨getExecutionInfo, answers⟩ := Option.isSome_iff_exists.mp answers
    rw [apply_finishFenced_of_awaits answers moves awaits]
    rfl

/-- What a fenced execution comes to depends on the reply, the request and what is seen of the fence. -/
private theorem fencedOutcome_of_launched
    (launched : (launchFenced endpoint request settings).apply world = (.ok (relocated, reply), answered)) :
    FencedOutcome wait prepared request settings relocated reply world answered
      ((prepared.executeFencedWhile wait endpoint request settings).apply world).1
      ((prepared.executeFencedWhile wait endpoint request settings).apply world).2 := by
  have followed : (prepared.executeFencedWhile wait endpoint request settings).apply world =
      (prepared.finishFenced wait request settings relocated reply).apply answered := apply_bind_ok launched
  rw [followed]
  constructor
  case declined =>
    intro declines
    unfold finishFenced
    rw [declines]
    exact ⟨_, rfl⟩
  case unwaited =>
    intro getExecutionInfo answers bare
    obtain ⟨fence, later, hands⟩ := exists_hands answered reply.fence
    rw [apply_finishFenced_of_bare answers bare hands]
    exact ⟨fence, hands, hands.state_of_none, rfl⟩
  case timedOut =>
    intro answers moves fence timeout ended awaits
    obtain ⟨getExecutionInfo, answers⟩ := Option.isSome_iff_exists.mp answers
    rw [apply_finishFenced_of_awaits answers moves awaits]
    exact ⟨awaits.exists_bound, _, rfl⟩
  case failed =>
    intro answers moves fence timeout ended awaits
    obtain ⟨getExecutionInfo, answers⟩ := Option.isSome_iff_exists.mp answers
    rw [apply_finishFenced_of_awaits answers moves awaits]
    exact ⟨_, rfl⟩
  case endless => exact finishFenced_eq_never_iff
  case restored =>
    intro moves fence times done
    exact restored_of_finishFenced moves launched (Prod.ext done rfl)

private theorem executeFenced_refused_of_unfit (speaks : prepared.endpoint = .aidl endpoint)
    (unfit : ¬settings.FitsWire) :
    (prepared.executeFenced request settings).Mirrors FencedAgree .refused
      (prepared.recorded.executeFenced request settings) := by
  obtain ⟨_, options, recipient⟩ := prepared
  obtain rfl : _ = PreparedEndpoint.aidl endpoint := speaks
  refine (World.silent_relocateRequest request).refused fun world relocated later ran => ?_
  refine refuses_ofResult_bind fun wire _ => ?_
  refine refuses_ofResult_bind fun wireSettings timed => ?_
  refine refuses_ofResult_bind fun timeoutAfterFence bounded => ?_
  exact absurd (fitsWire_iff.mpr ⟨⟨wireSettings, timed⟩, timeoutAfterFence, bounded⟩) unfit

end Outcome

/-- A fenced execution of the AIDL version hands out a fence with results behind it: whatever others do while it
waits, a caller with host memory gets one only if it was seen signaled, and then has its results. Times are handed
out only if they are received with success. -/
theorem fenced_executions_await_results {prepared : PreparedModel σ} {endpoint : Wire.Aidl.PreparedEndpoint σ}
    (speaks : prepared.endpoint = .aidl endpoint) (request : Request) (settings : FencedSettings) :
    prepared.executeFenced request settings = prepared.executeFencedWhile .still endpoint request settings ∧
    (¬settings.FitsWire → (prepared.executeFenced request settings).Mirrors FencedAgree .refused
      (prepared.recorded.executeFenced request settings)) ∧
    (∀ (wait : FenceWait σ) (world : World σ),
      (∀ error later, (launchFenced endpoint request settings).apply world = (.error error, later) →
        (prepared.executeFencedWhile wait endpoint request settings).apply world = (.error error, later)) ∧
      ∀ relocated reply answered,
        (launchFenced endpoint request settings).apply world = (.ok (relocated, reply), answered) →
        FencedOutcome wait prepared request settings relocated reply world answered
          ((prepared.executeFencedWhile wait endpoint request settings).apply world).1
          ((prepared.executeFencedWhile wait endpoint request settings).apply world).2) ∧
    ∀ (getExecutionInfo : Call σ Wire.Aidl.FencedTimes) (world : World σ) (launched fenced : Timing),
      (∃ later, (fencedTimes getExecutionInfo).apply world = (.ok (launched, fenced), later)) ↔
        ∃ times shared, getExecutionInfo.Answers world.shared times shared ∧ times.Gives launched fenced ∧
          Carries .aidl launched ∧ Carries .aidl fenced := by
  refine ⟨?_, fun unfit => executeFenced_refused_of_unfit speaks unfit, fun wait world => ⟨?_, ?_⟩, ?_⟩
  · rw [executeFencedWhile_still]
    unfold executeFenced
    rw [speaks]
  · intro error later failed
    exact apply_bind_error failed
  · intro relocated reply answered launched
    exact fencedOutcome_of_launched launched
  · intro getExecutionInfo world launched fenced
    simp only [fencedTimes_eq_ok_iff]
    constructor
    · intro done
      obtain ⟨_, times, shared, answered, given, -⟩ := done
      exact ⟨times, shared, answered, given, (receive_eq_ok_iff.mp given.launched).2,
        (receive_eq_ok_iff.mp given.fenced).2⟩
    · intro parts
      obtain ⟨times, shared, answered, given, -⟩ := parts
      exact ⟨_, times, shared, answered, given, rfl⟩

/-- An endpoint that leaves two bytes of results behind a fence of its own. -/
def fillingEndpoint : Wire.Aidl.PreparedEndpoint Unit where
  executeSynchronously _ _ := pure ⟨true, [], none⟩
  executeFenced _ _ _ _ := do
    modify fun shared => { shared with files := ⟨[.ofBytes [7, 8]]⟩ }
    pure ⟨some (pure ⟨⟨4, 5⟩, ⟨3, 4⟩, 0⟩), some ⟨0⟩⟩
  linkToDeath _ := pure true

/-- A wait during which somebody signals the fence. -/
def signaling : FenceWait Unit := .acting fun fence shared => { shared with fences := shared.fences.signal fence }

/-- The caller waits for a fence no longer than `timeout`, or for as long as it takes. -/
def fillingPrepared (timeout : Option Duration) : PreparedModel Unit := ⟨.aidl fillingEndpoint, ⟨true, timeout⟩, 0⟩

def twoBytes : Request := ⟨[], [⟨.pointer, ⟨some ⟨0, 0, 2, true⟩, 0, 0, 2⟩, []⟩], []⟩

def twoBytesMoved : Request := ⟨[], [.ofPool 0 0 2], [.memory ⟨⟨[0], []⟩, 2, Memory.allocatedName⟩]⟩

def undated : FencedSettings := ⟨⟨.no, none, none⟩, [], none⟩

/-- The only fence has not fired yet. -/
def behindFence : World Unit := ⟨⟨.empty, ⟨[.active]⟩, [], ()⟩, ⟨[[0, 0]]⟩, [.new], ⟨0⟩⟩

/-- Behind a fence that is still active, results arrive only if somebody signals it during the wait. Otherwise a
bounded wait ends without them, and one without bound never ends. -/
theorem signaled_results_arrive :
    (∃ text, (((fillingPrepared (some .zero)).executeFenced twoBytes undated).apply behindFence).1 =
      .error (.deadlineExceeded text)) ∧
    (((fillingPrepared none).executeFenced twoBytes undated).apply behindFence).1 = .ok .never ∧
    ∃ fence times later,
      ((fillingPrepared none).executeFencedWhile signaling fillingEndpoint twoBytes undated).apply behindFence =
        (.ok (.ended (fence, times)), later) ∧
      later.shared.fences.state fence = .signaled ∧ later.host = ⟨[[7, 8]]⟩ := by
  have speaks (timeout : Option Duration) : (fillingPrepared timeout).endpoint = .aidl fillingEndpoint := rfl
  have launched : (launchFenced fillingEndpoint twoBytes undated).apply behindFence =
    (.ok (twoBytesMoved, _), _) := rfl
  obtain ⟨same, -, bounded, -⟩ := fenced_executions_await_results (speaks (some .zero)) twoBytes undated
  obtain ⟨same', -, unbounded, -⟩ := fenced_executions_await_results (speaks none) twoBytes undated
  refine ⟨?_, ?_, ?_⟩
  · rw [same]
    exact (((bounded .still behindFence).2 _ _ _ launched).timedOut rfl rfl _ _ _ (.last (.own _) rfl rfl)).2
  · rw [same']
    exact ((unbounded .still behindFence).2 _ _ _ launched).endless.mpr ⟨rfl, rfl, _, _, .last (.own _) rfl rfl⟩
  · have restored := ((unbounded signaling behindFence).2 _ _ _ launched).restored rfl _ _ rfl
    exact ⟨_, _, _, rfl, restored.2.2.1, rfl⟩

end PreparedModel

end NeuralDevice
