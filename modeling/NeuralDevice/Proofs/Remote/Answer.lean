import NeuralDevice.Proofs.Execution.Atomicity
import NeuralDevice.Proofs.Failure.Report

/-!
Answers of endpoints. A step that succeeds was answered by its endpoint, and with success where an answer comes
with a status.
-/

namespace NeuralDevice

open NeuralDevice.Action Result

variable {σ α : Type}

/-- The call yields the value and leaves the shared state so. -/
def Call.Answers (call : Call σ α) (before : Shared σ) (value : α) (after : Shared σ) : Prop :=
  (ExceptT.run call).run before = (.ok value, after)

/-- The call yields the value and leaves the world so. -/
def Call.AnswersIn (call : Call σ α) (before : World σ) (value : α) (after : World σ) : Prop :=
  ∃ shared, call.Answers before.shared value shared ∧ before.afterCall shared = after

theorem Call.AnswersIn.length_monitors {call : Call σ α} {before after : World σ} {value : α}
    (answered : call.AnswersIn before value after) : after.monitors.length = before.monitors.length := by
  obtain ⟨shared, -, rfl⟩ := answered
  exact World.length_monitors_afterCall _ _

namespace World

variable {world later : World σ} {value : α}

theorem apply_call_eq_ok_iff {classify : TransportError → Error} {call : Call σ α} :
    (World.call classify call).apply world = (.ok value, later) ↔ call.AnswersIn world value later := by
  unfold World.call Call.AnswersIn Call.Answers
  rw [apply_ofStep]
  rcases (ExceptT.run call).run world.shared with ⟨failure | answer, shared⟩
  · refine iff_of_false (fun failed => ?_) ?_
    · cases (Prod.mk.inj failed).1
    · rintro ⟨_, answered, -⟩
      cases (Prod.mk.inj answered).1
  · constructor
    · intro done
      cases done
      exact ⟨shared, rfl, rfl⟩
    · rintro ⟨_, answered, rfl⟩
      cases answered
      rfl

theorem checkStatus_eq_ok_iff {dialect : Dialect} {name : String} {code : Int32} {passed : Unit} :
    checkStatus dialect name code = .ok passed ↔ code = 0 := by
  constructor
  · intro checked
    by_contra failed
    obtain ⟨error, refused, -⟩ := @checkStatus_of_ne_zero dialect code failed name
    rw [refused] at checked
    exact throw_ne_ok checked
  · rintro rfl
    exact checkStatus_zero dialect name

theorem apply_callHal_eq_ok_iff {dialect : Dialect} {name : String} {call : Call σ (Int32 × α)} :
    (World.callHal dialect name call).apply world = (.ok value, later) ↔
      call.AnswersIn world (0, value) later := by
  unfold World.callHal
  simp only [apply_bind_eq_ok_iff, apply_call_eq_ok_iff, apply_ofResult_eq_ok_iff, apply_pure_eq_ok_iff,
    checkStatus_eq_ok_iff]
  constructor
  · rintro ⟨⟨code, given⟩, _, answered, _, _, ⟨rfl, rfl⟩, rfl, rfl⟩
    exact answered
  · intro answered
    exact ⟨(0, value), _, answered, (), _, ⟨rfl, rfl⟩, rfl, rfl⟩

/-- A step that moves something out of host memory adds files if it succeeds, and changes nothing else. -/
theorem apply_moving_eq_ok_iff {move : World σ → Result (α × FileStore)} :
    (do let world ← get
        let (moved, files) ← Action.ofResult (move world)
        set { world with shared := { world.shared with files } }
        pure moved : Action (World σ) α).apply world = (.ok value, later) ↔
      ∃ files, move world = .ok (value, files) ∧
        { world with shared := { world.shared with files } } = later := by
  rw [apply_bind_ok (apply_get world), apply_bind_eq_ok_iff]
  simp only [apply_ofResult_eq_ok_iff]
  constructor
  · rintro ⟨⟨moved, files⟩, _, ⟨succeeded, rfl⟩, done⟩
    cases done
    exact ⟨files, succeeded, rfl⟩
  · rintro ⟨files, succeeded, rfl⟩
    exact ⟨(value, files), world, ⟨succeeded, rfl⟩, rfl⟩

theorem apply_relocateModel_eq_ok_iff {model relocated : Model} :
    (relocateModel model).apply world = (.ok relocated, later) ↔
      ∃ files, model.relocate world.host world.shared.files = .ok (relocated, files) ∧
        { world with shared := { world.shared with files } } = later :=
  apply_moving_eq_ok_iff

theorem apply_relocateRequest_eq_ok_iff {request relocated : Request} :
    (relocateRequest request).apply world = (.ok relocated, later) ↔
      ∃ files, request.relocate world.host world.shared.files = .ok (relocated, files) ∧
        { world with shared := { world.shared with files } } = later :=
  apply_moving_eq_ok_iff

theorem apply_link_eq_ok_iff {linkToDeath : Recipient → Call σ Bool} {recipient : Recipient} :
    (link linkToDeath).apply world = (.ok recipient, later) ↔
      world.monitors.length = recipient ∧ ∃ shared, (linkToDeath recipient).Answers world.shared true shared ∧
        ({ world with monitors := world.monitors ++ [.new] } : World σ).afterCall shared = later := by
  unfold link
  rw [apply_bind_ok (apply_get world)]
  have noted : (modify (fun world => { world with monitors := world.monitors ++ [.new] }) :
      Action (World σ) Unit).apply world = (.ok (), { world with monitors := world.monitors ++ [.new] }) := rfl
  rw [apply_bind_ok noted]
  simp only [apply_bind_eq_ok_iff, apply_call_eq_ok_iff]
  constructor
  · rintro ⟨isLinked, _, ⟨shared, answered, rfl⟩, followed⟩
    cases isLinked with
    | false => cases followed
    | true =>
      cases followed
      exact ⟨rfl, shared, answered, rfl⟩
  · rintro ⟨rfl, shared, answered, rfl⟩
    exact ⟨true, _, ⟨shared, answered, rfl⟩, rfl⟩

end World

end NeuralDevice
