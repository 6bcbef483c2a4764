import NeuralDevice.Proofs.Relocation.Restoration
import NeuralDevice.Recovery.Device

/-!
A failed execution leaves the caller's buffers as they were. Nothing but the last step of an execution writes to
them; that step fails before its first write or not at all, and no step that may fail comes after it.
-/

namespace NeuralDevice

open NeuralDevice.Action

variable {σ α η : Type}

namespace World

/-! Steps that leave host memory alone. -/

theorem call_keeps (classify : TransportError → Error) (call : Call σ α) :
    (World.call classify call).Keeps World.host := fun _ => host_afterCall _ _

theorem launch_keeps (dialect : Dialect) (name : String) (recipient : Recipient)
    (report : η → Result ExecutionResult) (timeout : World σ → Option Duration)
    (launch : StateM (Shared σ) (Launch η)) :
    (World.launch dialect name recipient report timeout launch).Keeps World.host := fun _ => rfl

theorem link_keeps (linkToDeath : Recipient → Call σ Bool) :
    (World.link linkToDeath).Keeps World.host := by
  refine .bind .get fun world => .bind (.modify fun _ => rfl) fun _ => .bind (call_keeps _ _) ?_
  intro isLinked
  cases isLinked
  · exact .bind (.throw _) fun _ => .pure _
  · exact .pure _

/-- Relocation reads host memory and adds files; a request that cannot be relocated changes nothing. -/
theorem apply_relocateRequest (request : Request) (world : World σ) :
    (relocateRequest request).apply world =
      match request.relocate world.host world.shared.files with
      | .ok (relocated, files) =>
        (.ok relocated, { world with shared := { world.shared with files } })
      | .error error => (.error error, world) := by
  unfold relocateRequest
  rw [apply_bind_ok (apply_get world)]
  rcases relocated : request.relocate world.host world.shared.files with error | ⟨value, files⟩
  · rw [apply_bind_error (apply_ofResult _ _)]
  · rw [apply_bind_ok (apply_ofResult _ _)]
    rfl

theorem relocateRequest_keeps (request : Request) :
    (relocateRequest request : Action (World σ) Request).Keeps World.host := by
  intro world
  rw [apply_relocateRequest]
  split <;> rfl

theorem apply_relocateModel (model : Model) (world : World σ) :
    (relocateModel model).apply world =
      match model.relocate world.host world.shared.files with
      | .ok (relocated, files) =>
        (.ok relocated, { world with shared := { world.shared with files } })
      | .error error => (.error error, world) := by
  unfold relocateModel
  rw [apply_bind_ok (apply_get world)]
  rcases relocated : model.relocate world.host world.shared.files with error | ⟨value, files⟩
  · rw [apply_bind_error (apply_ofResult _ _)]
  · rw [apply_bind_ok (apply_ofResult _ _)]
    rfl

theorem relocateModel_keeps (model : Model) :
    (relocateModel model : Action (World σ) Model).Keeps World.host := by
  intro world
  rw [apply_relocateModel]
  split <;> rfl

/-! Moving results back. -/

theorem restoreRequest_failsCleanly {request : Request} (relocated : Request)
    (taken : ∀ output ∈ request.outputs, output.TakesResults) :
    (restoreRequest request relocated : Action (World σ) Unit).FailsCleanly World.host := by
  intro before after error failed
  obtain ⟨host, done, rfl⟩ := apply_restoreRequest_eq_iff.mp failed
  exact Request.restore_error taken done

/-- A relocated request has outputs that take their results. -/
theorem takesResults_of_relocateRequest {request relocated : Request} {before after : World σ}
    (done : (relocateRequest request).apply before = (.ok relocated, after)) :
    ∀ output ∈ request.outputs, output.TakesResults := by
  rw [apply_relocateRequest] at done
  split at done
  · rename_i relocated files succeeded
    exact Request.takesResults_of_relocate succeeded
  · exact absurd (Prod.mk.inj done).1 nofun

private theorem executeRelocated_failsCleanly (request : Request) {dispatch : Request → Action (World σ) (Waited α)}
    (kept : ∀ relocated, (dispatch relocated).Keeps World.host) :
    (executeRelocated request dispatch).FailsCleanly World.host := by
  refine (relocateRequest_keeps request).bind_failsCleanly fun _ relocated _ done => ?_
  refine (kept relocated).bind_failsCleanly fun _ waited _ _ => ?_
  cases waited.hasEnded && !request.hasNoPointerData
  · exact (Keeps.pure waited).failsCleanly
  · exact (restoreRequest_failsCleanly relocated (takesResults_of_relocateRequest done)).bind_pure
      fun _ => waited

end World

private theorem submit_keeps (prefer : Bool) {synchronous : Action (World σ) (SyncOutcome α)}
    {asynchronous : Action (World σ) α} (first : synchronous.Keeps World.host)
    (second : asynchronous.Keeps World.host) :
    (submit prefer synchronous asynchronous).Keeps World.host := by
  cases prefer
  · exact second
  · refine .bind first fun outcome => ?_
    cases outcome with
    | completed result => exact .ofResult result
    | declined error => exact second
    | transportFailed error => exact .throw error
    | unsupported => exact second

namespace PreparedModel

/-! Executions. -/

theorem dispatchV1_0_keeps (prepared : PreparedModel σ)
    (endpoint : Wire.Hal.V1_0.PreparedEndpoint σ) (settings : ExecutionSettings) (request : Request) :
    (prepared.dispatchV1_0 endpoint settings request).Keeps World.host :=
  .bind (.ofResult _) fun _ => World.launch_keeps _ _ _ _ _ _

private theorem attemptV1_2_keeps (endpoint : Wire.Hal.V1_2.PreparedEndpoint σ) (wire : Wire.Hal.Request)
    (measure : Int32) : (attemptV1_2 endpoint wire measure).Keeps World.host := by
  refine .bind (World.call_keeps _ _).attempt fun reply => ?_
  cases reply with
  | error error => exact .pure _
  | ok report => exact .pure _

theorem dispatchV1_2_keeps (prepared : PreparedModel σ)
    (endpoint : Wire.Hal.V1_2.PreparedEndpoint σ) (settings : ExecutionSettings) (request : Request) :
    (prepared.dispatchV1_2 endpoint settings request).Keeps World.host :=
  .bind (.ofResult _) fun _ => .bind (.ofResult _) fun _ =>
    submit_keeps _ (attemptV1_2_keeps _ _ _) (World.launch_keeps _ _ _ _ _ _)

theorem dispatchAidl_keeps (endpoint : Wire.Aidl.PreparedEndpoint σ) (settings : ExecutionSettings)
    (request : Request) : (dispatchAidl endpoint settings request).Keeps World.host :=
  .bind (.ofResult _) fun _ => .bind (.ofResult _) fun _ => .bind (World.call_keeps _ _) fun _ =>
    .ofResult _

theorem execute_failsCleanly (prepared : PreparedModel σ) (request : Request)
    (settings : ExecutionSettings) :
    (prepared.execute request settings).FailsCleanly World.host := by
  refine World.executeRelocated_failsCleanly request fun relocated => ?_
  split
  · exact prepared.dispatchV1_0_keeps _ settings relocated
  · exact prepared.dispatchV1_2_keeps _ settings relocated
  · exact dispatchAidl_keeps _ settings relocated

private theorem replyFence_keeps (fence : Option Fence) :
    (replyFence fence : Action (World σ) Fence).Keeps World.host := by
  cases fence with
  | none => exact fun _ => rfl
  | some fence => exact .pure fence

private theorem restoreOn_failsCleanly (waited : Waited FenceState) {request : Request} (relocated : Request)
    (taken : ∀ output ∈ request.outputs, output.TakesResults) :
    (restoreOn waited request relocated : Action (World σ) (Waited Unit)).FailsCleanly World.host :=
  match waited with
  | .ended .signaled => (World.restoreRequest_failsCleanly relocated taken).bind_pure fun _ => Waited.ended ()
  | .ended .active | .ended .error => (Keeps.throw _).failsCleanly
  | .never => (Keeps.pure _).failsCleanly

private theorem restoreAfter_failsCleanly (prepared : PreparedModel σ) (fence : Fence)
    (deadline : Option TimePoint) {request : Request} (relocated : Request)
    (taken : ∀ output ∈ request.outputs, output.TakesResults) :
    (prepared.restoreAfter fence deadline request relocated).FailsCleanly World.host := by
  exact Keeps.get.bind_failsCleanly fun _ world _ _ => restoreOn_failsCleanly _ relocated taken

private theorem executeFencedAidl_failsCleanly (prepared : PreparedModel σ)
    (endpoint : Wire.Aidl.PreparedEndpoint σ) (request : Request) (settings : FencedSettings) :
    (prepared.executeFencedAidl endpoint request settings).FailsCleanly World.host := by
  refine (World.relocateRequest_keeps request).bind_failsCleanly fun _ relocated _ done => ?_
  refine (Keeps.ofResult _).bind_failsCleanly fun _ wire _ _ => ?_
  refine (Keeps.ofResult _).bind_failsCleanly fun _ wireSettings _ _ => ?_
  refine (Keeps.ofResult _).bind_failsCleanly fun _ timeoutAfterFence _ _ => ?_
  refine (World.call_keeps _ _).bind_failsCleanly fun _ reply _ _ => ?_
  split
  · exact (Keeps.throw _).failsCleanly
  · refine (replyFence_keeps _).bind_failsCleanly fun _ fence _ _ => ?_
    cases request.hasNoPointerData
    · exact (prepared.restoreAfter_failsCleanly fence settings.deadline relocated
        (World.takesResults_of_relocateRequest done)).bind_pure fun waited => waited.map fun _ => _
    · exact (Keeps.pure _).failsCleanly

theorem executeFenced_failsCleanly (prepared : PreparedModel σ) (request : Request)
    (settings : FencedSettings) :
    (prepared.executeFenced request settings).FailsCleanly World.host := by
  unfold executeFenced
  split
  · exact (Keeps.throw _).failsCleanly
  · exact (Keeps.throw _).failsCleanly
  · exact prepared.executeFencedAidl_failsCleanly _ request settings

end PreparedModel

end NeuralDevice
