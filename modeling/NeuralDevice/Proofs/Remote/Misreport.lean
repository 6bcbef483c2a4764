import NeuralDevice.Proofs.Execution.Asynchronous
import NeuralDevice.Proofs.Failure.Relocation
import NeuralDevice.Proofs.Remote.Answer

/-!
Failures that look like success. A step misreports if it fails with the status of success. Only a call whose failures
are statuses can do so, and it does exactly if its endpoint fails it with the code of success.
-/

namespace NeuralDevice

open NeuralDevice.Action Result

variable {σ α β η : Type}

namespace Result

/-- A failure of the computation has the status of a failure. -/
def FailsVisibly (result : Result α) : Prop := ∀ error, result = .error error → error.status ≠ .none

theorem FailsOrdinarily.failsVisibly {result : Result α} (ordinary : FailsOrdinarily result) :
    FailsVisibly result := by
  intro error failed hidden
  have told := ordinary error failed
  simp [Error.isOrdinary, hidden] at told

theorem failsVisibly_error {error : Error} (told : error.status ≠ .none) :
    FailsVisibly (.error error : Result α) := by
  rintro _ ⟨⟩
  exact told

theorem FailsVisibly.bind {first : Result α} {next : α → Result β} (visible : FailsVisibly first)
    (each : ∀ value, FailsVisibly (next value)) : FailsVisibly (first >>= next) := by
  cases first with
  | ok value => exact each value
  | error error => exact failsVisibly_error (visible error rfl)

end Result

namespace TransportError

theorem status_error_ne_none (failure : TransportError) : failure.error.status ≠ .none := by
  cases failure <;> simp [error, Error.status]

/-- Of the codes of a service, only that of success yields an error with the status of success. -/
theorem status_errorWithStatus_eq_none_iff {failure : TransportError} :
    failure.errorWithStatus.status = .none ↔ failure = .serviceSpecific 0 := by
  cases failure with
  | serviceSpecific code =>
    rw [errorWithStatus, Error.status_ofStatus, ErrorStatus.ofWire_eq_none_iff, serviceSpecific.injEq]
  | dead => exact iff_of_false (status_error_ne_none .dead) (by simp)
  | failed status => exact iff_of_false (status_error_ne_none (.failed status)) (by simp)

end TransportError

theorem WaitFault.status_error_ne_none (fault : WaitFault) : fault.error.status ≠ .none := by
  cases fault <;> simp [error, Error.status]

/-- The call fails and leaves the shared state so. -/
def Call.Fails (call : Call σ α) (before : Shared σ) (failure : TransportError) (after : Shared σ) : Prop :=
  (ExceptT.run call).run before = (.error failure, after)

/-- The call fails and leaves the world so. -/
def Call.FailsIn (call : Call σ α) (before : World σ) (failure : TransportError) (after : World σ) : Prop :=
  ∃ shared, call.Fails before.shared failure shared ∧ before.afterCall shared = after

/-- The action fails with the status of success. -/
def Action.Misreports (action : Action (World σ) α) (before after : World σ) : Prop :=
  ∃ error, action.apply before = (.error error, after) ∧ error.status = .none

/-- No failure of the action has the status of success. -/
def Action.FailsVisibly (action : Action (World σ) α) : Prop := ∀ before after, ¬action.Misreports before after

namespace Action

theorem bind_misreports_iff {first : Action (World σ) α} {next : α → Action (World σ) β} {before after : World σ} :
    (first >>= next).Misreports before after ↔ first.Misreports before after ∨
      ∃ value middle, first.apply before = (.ok value, middle) ∧ (next value).Misreports middle after := by
  unfold Misreports
  rcases ran : first.apply before with ⟨error | value, middle⟩
  · simp [apply_bind_error ran]
  · simp [apply_bind_ok ran]

/-- What follows steps that fail visibly decides. -/
theorem FailsVisibly.bind_misreports_iff {first : Action (World σ) α} {next : α → Action (World σ) β}
    {before after : World σ} (visible : first.FailsVisibly) :
    (first >>= next).Misreports before after ↔
      ∃ value middle, first.apply before = (.ok value, middle) ∧ (next value).Misreports middle after := by
  rw [Action.bind_misreports_iff, or_iff_right (visible before after)]

theorem misreports_bind_iff {first : Action (World σ) α} {next : α → Action (World σ) β} {before after : World σ}
    (each : ∀ value, (next value).FailsVisibly) :
    (first >>= next).Misreports before after ↔ first.Misreports before after := by
  rw [bind_misreports_iff, or_iff_left]
  rintro ⟨value, middle, -, misreported⟩
  exact each value middle after misreported

theorem FailsVisibly.bind {first : Action (World σ) α} {next : α → Action (World σ) β}
    (visible : first.FailsVisibly) (each : ∀ value, (next value).FailsVisibly) : (first >>= next).FailsVisibly := by
  intro before after misreported
  exact visible before after ((misreports_bind_iff each).mp misreported)

theorem FailsVisibly.ofStep {step : World σ → Result α × World σ}
    (visible : ∀ world, Result.FailsVisibly (step world).1) : (ofStep step).FailsVisibly := by
  rintro before after ⟨error, failed, hidden⟩
  exact visible before error (Prod.ext_iff.mp failed).1 hidden

theorem FailsVisibly.ofResult {result : Result α} (ordinary : FailsOrdinarily result) :
    (ofResult result : Action (World σ) α).FailsVisibly := .ofStep fun _ => ordinary.failsVisibly

theorem FailsVisibly.pure (value : α) : (pure value : Action (World σ) α).FailsVisibly :=
  .ofResult (failsOrdinarily_ok value)

theorem FailsVisibly.throw {error : Error} (ordinary : error.isOrdinary = true) :
    (throw error : Action (World σ) α).FailsVisibly := .ofResult (failsOrdinarily_error.mpr ordinary)

theorem FailsVisibly.get : (get : Action (World σ) (World σ)).FailsVisibly := .ofStep fun _ => nofun

theorem FailsVisibly.modify (change : World σ → World σ) :
    (modify change : Action (World σ) Unit).FailsVisibly := by
  rintro before after ⟨error, failed, -⟩
  cases failed

/-- A result that could be computed, and what follows it. -/
theorem ofResult_bind_misreports_iff {result : Result α} {next : α → Action (World σ) β} {before after : World σ}
    (ordinary : FailsOrdinarily result) :
    (Action.ofResult result >>= next).Misreports before after ↔
      ∃ value, result = .ok value ∧ (next value).Misreports before after := by
  simp [(FailsVisibly.ofResult ordinary).bind_misreports_iff, apply_ofResult_eq_ok_iff]

theorem misreports_of_eq_ok {result : Result α} {value : α} {next : α → Action (World σ) β} {before after : World σ}
    (done : result = .ok value) (misreported : (next value).Misreports before after) :
    (Action.ofResult result >>= next).Misreports before after :=
  bind_misreports_iff.mpr (.inr ⟨value, before, apply_ofResult_eq_ok_iff.mpr ⟨done, rfl⟩, misreported⟩)

end Action

/-- The wait for an execution fails visibly, whatever is notified. -/
private theorem failsVisibly_launchResult {dialect : Dialect} {name : String} {report : η → Result ExecutionResult}
    (ordinary : ∀ notification, FailsOrdinarily (report notification)) (monitor : Monitor Nat) (launch : Launch η)
    (timeout : Option Duration) :
    Result.FailsVisibly
      (launchResult dialect name launch.status (monitor.watch report launch.events).1 timeout) := by
  have arrived := monitor.result_watch report launch
  obtain ⟨events, status⟩ := launch
  cases status with
  | error failure => exact failsVisibly_error failure.status_error_ne_none
  | ok code =>
    refine (failsOrdinarily_checkStatus dialect name code).failsVisibly.bind fun _ => ?_
    simp only [Completion.wait, arrived, Launch.arrival]
    cases monitor.hasDied with
    | true => exact failsVisibly_error (WaitFault.status_error_ne_none _)
    | false =>
      cases events with
      | nil =>
        cases timeout with
        | none =>
          intro error failed
          cases failed
        | some timeout => exact failsVisibly_error (WaitFault.status_error_ne_none _)
      | cons event rest =>
        cases event with
        | died => exact failsVisibly_error (WaitFault.status_error_ne_none _)
        | notified notification => exact (failsOrdinarily_map.mpr (ordinary notification)).failsVisibly

namespace World

theorem call_misreports_iff {classify : TransportError → Error} {call : Call σ α} {before after : World σ} :
    (World.call classify call).Misreports before after ↔
      ∃ failure, call.FailsIn before failure after ∧ (classify failure).status = .none := by
  unfold World.call Action.Misreports Call.FailsIn Call.Fails
  simp only [apply_ofStep]
  rcases (ExceptT.run call).run before.shared with ⟨failure | value, shared⟩
  · constructor
    · rintro ⟨_, failed, hidden⟩
      obtain ⟨told, rfl⟩ := Prod.mk.inj failed
      exact ⟨failure, ⟨shared, rfl, rfl⟩, Except.error.inj told ▸ hidden⟩
    · rintro ⟨_, ⟨_, failed, rfl⟩, hidden⟩
      obtain ⟨⟨⟩, rfl⟩ := Prod.mk.inj failed
      exact ⟨_, rfl, hidden⟩
  · refine iff_of_false ?_ ?_
    · rintro ⟨_, failed, -⟩
      cases (Prod.mk.inj failed).1
    · rintro ⟨_, ⟨_, failed, -⟩, -⟩
      cases (Prod.mk.inj failed).1

theorem call_failsVisibly (call : Call σ α) : (World.call TransportError.error call).FailsVisibly := by
  intro before after misreported
  obtain ⟨failure, -, hidden⟩ := call_misreports_iff.mp misreported
  exact failure.status_error_ne_none hidden

/-- A call whose failures are statuses misreports exactly if it fails with the code of success. -/
theorem callAidl_misreports_iff {call : Call σ α} {before after : World σ} :
    (World.call TransportError.errorWithStatus call).Misreports before after ↔
      call.FailsIn before (.serviceSpecific 0) after := by
  simp only [call_misreports_iff, TransportError.status_errorWithStatus_eq_none_iff, exists_eq_right]

theorem callAidl_bind_misreports_iff {call : Call σ α} {next : α → Action (World σ) β} {before after : World σ} :
    (World.call TransportError.errorWithStatus call >>= next).Misreports before after ↔
      call.FailsIn before (.serviceSpecific 0) after ∨
      ∃ value middle, call.AnswersIn before value middle ∧ (next value).Misreports middle after := by
  simp only [bind_misreports_iff, callAidl_misreports_iff, apply_call_eq_ok_iff]

theorem callHal_failsVisibly {dialect : Dialect} {name : String} {call : Call σ (Int32 × α)} :
    (callHal dialect name call).FailsVisibly := by
  refine (call_failsVisibly call).bind fun answer => ?_
  exact (FailsVisibly.ofResult (failsOrdinarily_checkStatus dialect name answer.1)).bind fun _ => .pure answer.2

theorem link_failsVisibly (linkToDeath : Recipient → Call σ Bool) : (link linkToDeath).FailsVisibly := by
  refine FailsVisibly.get.bind fun _ => (FailsVisibly.modify _).bind fun _ => ?_
  refine (call_failsVisibly _).bind fun isLinked => ?_
  cases isLinked with
  | false => exact (FailsVisibly.throw rfl).bind fun _ => .pure _
  | true => exact .pure _

section Moving

variable {move : World σ → Result (α × FileStore)}

private theorem moving_failsVisibly (ordinary : ∀ world, FailsOrdinarily (move world)) :
    (do let world ← get
        let (moved, files) ← Action.ofResult (move world)
        set { world with shared := { world.shared with files } }
        pure moved : Action (World σ) α).FailsVisibly :=
  FailsVisibly.get.bind fun world => (FailsVisibly.ofResult (ordinary world)).bind fun moved =>
    (FailsVisibly.modify _).bind fun _ => .pure moved.1

theorem moving_bind_misreports_iff (ordinary : ∀ world, FailsOrdinarily (move world))
    {next : α → Action (World σ) β} {before after : World σ} :
    ((do let world ← get
         let (moved, files) ← Action.ofResult (move world)
         set { world with shared := { world.shared with files } }
         pure moved : Action (World σ) α) >>= next).Misreports before after ↔
      ∃ value files, move before = .ok (value, files) ∧
        (next value).Misreports { before with shared := { before.shared with files } } after := by
  rw [(moving_failsVisibly ordinary).bind_misreports_iff]
  simp only [apply_moving_eq_ok_iff]
  constructor
  · rintro ⟨value, _, ⟨files, moved, rfl⟩, misreported⟩
    exact ⟨value, files, moved, misreported⟩
  · rintro ⟨value, files, moved, misreported⟩
    exact ⟨value, _, ⟨files, moved, rfl⟩, misreported⟩

theorem relocateModel_bind_misreports_iff {model : Model} {next : Model → Action (World σ) β}
    {before after : World σ} :
    (relocateModel model >>= next).Misreports before after ↔
      ∃ relocated files, model.relocate before.host before.shared.files = .ok (relocated, files) ∧
        (next relocated).Misreports { before with shared := { before.shared with files } } after :=
  moving_bind_misreports_iff fun _ => model.failsOrdinarily_relocate _ _

theorem relocateRequest_bind_misreports_iff {request : Request} {next : Request → Action (World σ) β}
    {before after : World σ} :
    (relocateRequest request >>= next).Misreports before after ↔
      ∃ relocated files, request.relocate before.host before.shared.files = .ok (relocated, files) ∧
        (next relocated).Misreports { before with shared := { before.shared with files } } after :=
  moving_bind_misreports_iff fun _ => request.failsOrdinarily_relocate _ _

end Moving

theorem restoreRequest_failsVisibly (request relocated : Request) :
    (restoreRequest request relocated : Action (World σ) Unit).FailsVisibly :=
  .ofStep fun world => (request.failsOrdinarily_restore relocated world.shared.files world.host).failsVisibly

theorem launch_failsVisibly {dialect : Dialect} {name : String} {recipient : Recipient}
    {report : η → Result ExecutionResult} {timeout : World σ → Option Duration}
    {launch : StateM (Shared σ) (Launch η)} (ordinary : ∀ notification, FailsOrdinarily (report notification)) :
    (World.launch dialect name recipient report timeout launch).FailsVisibly :=
  .ofStep fun _ => failsVisibly_launchResult ordinary _ _ _

end World

namespace Call

variable {call : Call σ α} {next : α → Action (World σ) β} {before middle after : World σ}

theorem FailsIn.misreports (failed : call.FailsIn before (.serviceSpecific 0) after) :
    (World.call TransportError.errorWithStatus call >>= next).Misreports before after :=
  World.callAidl_bind_misreports_iff.mpr (.inl failed)

theorem AnswersIn.misreports {value : α} (answered : call.AnswersIn before value middle)
    (misreported : (next value).Misreports middle after) :
    (World.call TransportError.errorWithStatus call >>= next).Misreports before after :=
  World.callAidl_bind_misreports_iff.mpr (.inr ⟨value, middle, answered, misreported⟩)

end Call

end NeuralDevice
