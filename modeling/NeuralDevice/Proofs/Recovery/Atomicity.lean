import NeuralDevice.Proofs.Execution.Atomicity
import NeuralDevice.Recovery.Device

/-!
Failed executions through handles that recover. A call is run again only after it failed, and then it has left
the caller's buffers as they were; preparing a model anew only reads them.
-/

namespace NeuralDevice

open NeuralDevice.Action

namespace Held

variable {ε ω τ α : Type} {view : ω → τ}

theorem rebind_keeps {factory : Factory ε ω} {blocking : Bool}
    (made : (factory blocking).Keeps view) : (rebind factory blocking).Keeps (view ∘ Prod.snd) := by
  rintro ⟨binding, state⟩
  have same := made state
  unfold rebind
  rw [apply_ofStep]
  rcases done : (factory blocking).apply state with ⟨error | endpoint, later⟩ <;>
    · simp only [done] at same ⊢
      exact same

theorem getOrCreate_keeps {factory : Factory ε ω} {blocking : Bool}
    (made : (factory blocking).Keeps view) :
    (getOrCreate factory blocking).Keeps (view ∘ Prod.snd) := by
  refine .bind .get fun state => ?_
  split
  · exact .pure _
  · exact rebind_keeps made
  · exact rebind_keeps made

variable [Identified ε]

theorem recover_keeps {factory : Factory ε ω} {blocking : Bool} (failing : ε)
    (made : (factory blocking).Keeps view) :
    (recover factory failing blocking).Keeps (view ∘ Prod.snd) := by
  refine .bind .get fun state => ?_
  split
  · split
    · exact rebind_keeps made
    · exact .pure _
  · exact rebind_keeps made
  · exact rebind_keeps made

private theorem markDead_keeps (failing : ε) :
    (markDead failing : Action (Held ε ω) Unit).Keeps (view ∘ Prod.snd) :=
  .modify fun _ => rfl

theorem noteDead_keeps (recovered : ε) (error : Error) :
    (do
      if error.isDeadObject then markDead recovered
      throw error : Action (Held ε ω) α).Keeps (view ∘ Prod.snd) := by
  split
  · exact .bind (markDead_keeps recovered) fun _ => .throw error
  · exact .throw error

private theorem retry_failsCleanly (recovered : ε) {call : ε → Action ω α}
    (clean : ∀ endpoint, (call endpoint).FailsCleanly view) :
    (retry recovered call).FailsCleanly (view ∘ Prod.snd) :=
  (clean recovered).onSecond.recover (fun _ => rfl) fun error =>
    (noteDead_keeps recovered error).failsCleanly

/-- A protected call fails cleanly if the call does, whatever endpoints are made for it. -/
theorem protect_failsCleanly {factory : Factory ε ω} {blocking : Bool} {call : ε → Action ω α}
    (made : (factory blocking).Keeps view) (clean : ∀ endpoint, (call endpoint).FailsCleanly view) :
    (protect factory blocking call).FailsCleanly (view ∘ Prod.snd) := by
  refine (getOrCreate_keeps made).bind_failsCleanly fun _ endpoint _ _ => ?_
  refine (clean endpoint).onSecond.recover (fun _ => rfl) fun error => ?_
  simp only [Action.throw_bind]
  split
  · exact (Keeps.throw error).failsCleanly
  · exact (recover_keeps endpoint made).bind_failsCleanly fun _ recovered _ _ =>
      retry_failsCleanly recovered clean

private theorem retry_keeps (recovered : ε) {call : ε → Action ω α}
    (kept : ∀ endpoint, (call endpoint).Keeps view) :
    (retry recovered call).Keeps (view ∘ Prod.snd) := by
  refine .bind (kept recovered).onSecond.attempt fun reply => ?_
  cases reply with
  | ok value => exact .pure value
  | error error => exact noteDead_keeps recovered error

/-- A protected call leaves alone what the call and the making of endpoints leave alone. -/
private theorem protect_keeps {factory : Factory ε ω} {blocking : Bool} {call : ε → Action ω α}
    (made : (factory blocking).Keeps view) (kept : ∀ endpoint, (call endpoint).Keeps view) :
    (protect factory blocking call).Keeps (view ∘ Prod.snd) := by
  refine .bind (getOrCreate_keeps made) fun endpoint => ?_
  refine .bind (kept endpoint).onSecond.attempt fun reply => ?_
  cases reply with
  | ok value => exact .pure value
  | error error =>
    simp only [Action.throw_bind]
    split
    · exact .throw error
    · exact .bind (recover_keeps endpoint made) fun recovered => retry_keeps recovered kept

end Held

variable {σ α : Type}

theorem World.callHal_keeps (dialect : Dialect) (name : String) (call : Call σ (Int32 × α)) :
    (World.callHal dialect name call).Keeps World.host :=
  .bind (World.call_keeps _ _) fun _ => .bind (.ofResult _) fun _ => .pure _

namespace DeviceInfo

private theorem readV1_0_keeps (endpoint : Wire.Hal.V1_0.DeviceEndpoint σ) :
    (readV1_0 endpoint).Keeps World.host :=
  .bind (World.callHal_keeps _ _ _) fun _ => .bind (.ofResult _) fun _ => .pure _

private theorem readV1_2_keeps (endpoint : Wire.Hal.V1_2.DeviceEndpoint σ) :
    (readV1_2 endpoint).Keeps World.host :=
  .bind (World.callHal_keeps _ _ _) fun _ => .bind (World.callHal_keeps _ _ _) fun _ =>
    .bind (.ofResult _) fun _ => .bind (World.callHal_keeps _ _ _) fun _ => .bind (.ofResult _) fun _ =>
    .bind (World.callHal_keeps _ _ _) fun _ => .bind (.ofResult _) fun _ => .pure _

private theorem readAidl_keeps (endpoint : Wire.Aidl.DeviceEndpoint σ) :
    (readAidl endpoint).Keeps World.host :=
  .bind (World.call_keeps _ _) fun _ => .bind (World.call_keeps _ _) fun _ =>
    .bind (.ofResult _) fun _ => .bind (World.call_keeps _ _) fun _ => .bind (.ofResult _) fun _ =>
    .bind (World.call_keeps _ _) fun _ => .bind (.ofResult _) fun _ => .pure _

private theorem read_keeps (endpoint : DeviceEndpoint σ) : (read endpoint).Keeps World.host := by
  cases endpoint with
  | v1_0 endpoint => exact readV1_0_keeps endpoint
  | v1_2 endpoint => exact readV1_2_keeps endpoint
  | aidl endpoint => exact readAidl_keeps endpoint

end DeviceInfo

namespace Device

/-- Connecting to a device leaves the caller's buffers alone, whatever its endpoint answers. -/
private theorem create_keeps (name : String) (endpoint : DeviceEndpoint σ) (options : ExecutionOptions) :
    (create name endpoint options).Keeps World.host := by
  unfold create
  split
  · exact .throw _
  · exact .bind (DeviceInfo.read_keeps endpoint) fun _ => .bind (World.link_keeps _) fun _ => .pure _

private theorem prepareV1_0_keeps (endpoint : Wire.Hal.V1_0.DeviceEndpoint σ) (relocated : Model) :
    (prepareV1_0 endpoint relocated).Keeps World.host :=
  .bind (.ofResult _) fun _ => .bind (World.callHal_keeps _ _ _) fun _ =>
    .bind (.ofResult _) fun _ => .pure _

private theorem prepareV1_2_keeps (endpoint : Wire.Hal.V1_2.DeviceEndpoint σ)
    (settings : PreparationSettings) (relocated : Model) :
    (prepareV1_2 endpoint settings relocated).Keeps World.host :=
  .bind (.ofResult _) fun _ => .bind (.ofResult _) fun _ => .bind (World.callHal_keeps _ _ _) fun _ =>
    .bind (.ofResult _) fun _ => .pure _

private theorem prepareAidl_keeps (endpoint : Wire.Aidl.DeviceEndpoint σ) (settings : PreparationSettings)
    (relocated : Model) : (prepareAidl endpoint settings relocated).Keeps World.host :=
  .bind (.ofResult _) fun _ => .bind (.ofResult _) fun _ => .bind (World.call_keeps _ _) fun _ =>
    .pure _

/-- Preparing a model reads the caller's buffers and writes none. -/
private theorem prepareModel_keeps (device : Device σ) (model : Model) (settings : PreparationSettings) :
    (device.prepareModel model settings).Keeps World.host := by
  refine .bind (World.relocateModel_keeps model) fun relocated => ?_
  have watched : ∀ endpoint, (PreparedModel.create endpoint device.options : Action (World σ) _).Keeps
      World.host := fun endpoint => .bind (World.link_keeps _) fun _ => .pure _
  dsimp only
  split
  · exact .bind (prepareV1_0_keeps _ relocated) watched
  · exact .bind (prepareV1_2_keeps _ settings relocated) watched
  · exact .bind (prepareAidl_keeps _ settings relocated) watched

end Device

/-- The caller's buffers, seen from a prepared model that may be renewed on a device that may be. -/
def Reconnecting.host (state : Held (PreparedModel σ) (Reconnecting σ)) : HostMemory := state.2.2.host

namespace Reconnecting

private theorem prepareAgain_keeps {devices : Factory (Device σ) (World σ)} {blocking : Bool}
    (connected : (devices blocking).Keeps World.host) (kept : Repreparable) :
    (prepareAgain devices kept blocking).Keeps (World.host ∘ Prod.snd) :=
  Held.protect_keeps connected fun device => device.prepareModel_keeps kept.model kept.settings

theorem onPrepared_failsCleanly {devices : Factory (Device σ) (World σ)}
    (connected : (devices true).Keeps World.host) (kept : Repreparable)
    {act : PreparedModel σ → Action (World σ) α}
    (clean : ∀ prepared, (act prepared).FailsCleanly World.host) :
    (onPrepared devices kept act).FailsCleanly host :=
  Held.protect_failsCleanly (prepareAgain_keeps connected kept) fun prepared =>
    (clean prepared).onSecond

end Reconnecting

/-- An execution that fails leaves the caller's buffers as they were, whatever the endpoint did, and however often
endpoints were replaced in vain: on a prepared model, on a handle that renews it, and on one that also renews
its device. -/
theorem failed_executions_keep_buffers (request : Request) (settings : ExecutionSettings)
    (fenced : FencedSettings) :
    (∀ prepared : PreparedModel σ,
        (prepared.execute request settings).FailsCleanly World.host ∧
          (prepared.executeFenced request fenced).FailsCleanly World.host) ∧
      (∀ factory : Factory (PreparedModel σ) (World σ), (factory true).Keeps World.host →
        (Held.protectWaiting factory (PreparedModel.execute · request settings)).FailsCleanly
            (World.host ∘ Prod.snd) ∧
          (Held.protectWaiting factory (PreparedModel.executeFenced · request fenced)).FailsCleanly
            (World.host ∘ Prod.snd)) ∧
      ∀ (devices : Factory (Device σ) (World σ)) (kept : Repreparable),
        (devices true).Keeps World.host →
          (Reconnecting.onPrepared devices kept (PreparedModel.execute · request settings)).FailsCleanly
              Reconnecting.host ∧
            (Reconnecting.onPrepared devices kept
              (PreparedModel.executeFenced · request fenced)).FailsCleanly Reconnecting.host := by
  have plain : ∀ prepared : PreparedModel σ,
      (prepared.execute request settings).FailsCleanly World.host :=
    fun prepared => prepared.execute_failsCleanly request settings
  have behindFences : ∀ prepared : PreparedModel σ,
      (prepared.executeFenced request fenced).FailsCleanly World.host :=
    fun prepared => prepared.executeFenced_failsCleanly request fenced
  refine ⟨fun prepared => ⟨plain prepared, behindFences prepared⟩, ?_, ?_⟩
  · intro factory made
    exact ⟨Held.protect_failsCleanly made plain, Held.protect_failsCleanly made behindFences⟩
  · intro devices kept connected
    exact ⟨Reconnecting.onPrepared_failsCleanly connected kept plain,
      Reconnecting.onPrepared_failsCleanly connected kept behindFences⟩

/-- A prepared model that overwrites the first shared file and dies. -/
def scribblingEndpoint : Wire.Aidl.PreparedEndpoint Unit where
  executeSynchronously _ _ := ExceptT.mk fun shared =>
    (.error .dead, { shared with files := shared.files.set 0 (.ofBytes [9, 9, 9, 9]) })
  executeFenced _ _ _ _ := throw .dead
  linkToDeath _ := pure true

/-- A device that prepares any model as `scribblingEndpoint`. -/
def scribblingDevice : DeviceEndpoint Unit :=
  .aidl
    { getVersionString := pure "1"
      getType := pure 1
      getSupportedExtensions := pure []
      getCapabilities := pure ⟨none, none, [], none, none⟩
      getSupportedOperations := fun _ => pure []
      prepareModel := fun _ _ => pure scribblingEndpoint
      linkToDeath := fun _ => pure true }

/-- Three bytes in a caller's buffer of four are asked for. -/
def scribbledRequest : Request := ⟨[], [⟨.pointer, ⟨some ⟨0, 0, 4, true⟩, 0, 0, 3⟩, []⟩], []⟩

def untouchedWorld : World Unit := ⟨⟨.empty, .empty, [], ()⟩, ⟨[[1, 2, 3, 4]]⟩, [], ⟨0⟩⟩

/-- The request on a model that is prepared by the device, prepared anew and given up. -/
def scribbledRun : Result (Waited ExecutionResult) × Held (PreparedModel Unit) (Reconnecting Unit) :=
  (Reconnecting.onPrepared (fun _ => Device.create "scribbler" scribblingDevice .standard)
    ⟨default, .standard⟩ (PreparedModel.execute · scribbledRequest ⟨.no, none, none⟩)).apply
    (.unbound, .unbound, untouchedWorld)

theorem scribbled_run_keeps_buffers :
    scribbledRun.1.isOk = false ∧ scribbledRun.2.2.2.host = ⟨[[1, 2, 3, 4]]⟩ := by
  have failed : scribbledRun.1.isOk = false := by rfl
  refine ⟨failed, ?_⟩
  rcases ended : scribbledRun with ⟨error | value, later⟩
  · exact ((failed_executions_keep_buffers scribbledRequest ⟨.no, none, none⟩
      ⟨⟨.no, none, none⟩, [], none⟩).2.2 _ _ (Device.create_keeps _ _ _)).1 _ later error ended
  · rw [ended] at failed
    exact absurd failed nofun

end NeuralDevice
