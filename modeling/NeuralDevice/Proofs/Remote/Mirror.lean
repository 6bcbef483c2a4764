import NeuralDevice.Proofs.Execution.Atomicity
import NeuralDevice.Proofs.Remote.Exchange

/-!
Actions on plain and on recorded endpoints. A recorded action mirrors a plain one if it yields the same, leaves
the same world behind and notes exchanges of which some law holds; what mirrors step by step mirrors as a whole.
-/

namespace NeuralDevice

open NeuralDevice.Action

variable {σ α β γ δ η : Type}

theorem Call.run_recorded (note : Except TransportError α → List Recipient → Exchange) (convert : α → β)
    {call : Call σ α} {before after : Shared σ} {answer : Except TransportError α}
    (ran : (ExceptT.run call).run before = (answer, after)) (noted : List Exchange) :
    (ExceptT.run (Call.recorded note convert call)).run (before.recorded noted) =
      (answer.map convert, after.recorded (noted ++ [note answer after.notices])) := by
  have again : (ExceptT.run call).run (before.recorded noted).unrecorded = (answer, after) := ran
  unfold Call.recorded Recorded.step
  simp only [ExceptT.run_mk, StateT.run] at again ⊢
  rw [again]
  rfl

/-- The same failure, or values that are related. -/
inductive Result.Agree (related : α → β → Prop) : Result α → Result β → Prop where
  | ok {value : α} {other : β} (same : related value other) : Agree related (.ok value) (.ok other)
  | error (error : Error) : Agree related (.error error) (.error error)

/-- The other value is what the conversion makes of the value. -/
def Via (convert : α → β) (value : α) (other : β) : Prop := other = convert value

theorem Result.Agree.of_map {convert : α → β} (result : Result α) :
    Result.Agree (Via convert) result (result.map convert) := by
  cases result with
  | ok value => exact .ok rfl
  | error error => exact .error error

theorem Result.Agree.refl (result : Result α) : Result.Agree (Via id) result result := by
  cases result with
  | ok value => exact .ok rfl
  | error error => exact .error error

/-- What can be said of a run: the world before it, its result and what was exchanged. -/
abbrev Law (σ α : Type) := World σ → Result α → List Exchange → Prop

def Law.nothing : Law σ α := fun _ _ exchanges => exchanges = []

/-- The recorded action yields and does what the action does, and notes what the law allows. -/
def Action.Mirrors (related : α → β → Prop) (law : Law σ α) (action : Action (World σ) α)
    (recorded : Action (World (Recorded σ)) β) : Prop :=
  ∀ world noted, ∃ exchanges,
    Result.Agree related (action.apply world).1 (recorded.apply (world.recorded noted)).1 ∧
    (recorded.apply (world.recorded noted)).2 = (action.apply world).2.recorded (noted ++ exchanges) ∧
    law world (action.apply world).1 exchanges

/-- The same action on either kind of world, which calls no endpoint. -/
def Action.Silent (action : Action (World σ) α) (recorded : Action (World (Recorded σ)) α) : Prop :=
  ∀ world noted, recorded.apply (world.recorded noted) =
    ((action.apply world).1, (action.apply world).2.recorded noted)

section Mirrors

variable {related : α → β → Prop} {law : Law σ α} {action : Action (World σ) α}
  {recorded : Action (World (Recorded σ)) β}

theorem Action.Mirrors.weaken (mirrors : action.Mirrors related law recorded) {weaker : Law σ α}
    (follows : ∀ world exchanges,
      law world (action.apply world).1 exchanges → weaker world (action.apply world).1 exchanges) :
    action.Mirrors related weaker recorded := by
  intro world noted
  obtain ⟨exchanges, agree, later, lawful⟩ := mirrors world noted
  exact ⟨exchanges, agree, later, follows world exchanges lawful⟩

/-- Steps that mirror make a sequence that does, with a law that covers both of them. -/
theorem Action.Mirrors.bind {related' : γ → δ → Prop} {law' : α → Law σ γ} {whole : Law σ γ}
    {next : α → Action (World σ) γ} {next' : β → Action (World (Recorded σ)) δ}
    (head : action.Mirrors related law recorded)
    (tail : ∀ value other, related value other → (next value).Mirrors related' (law' value) (next' other))
    (fails : ∀ world error later exchanges, action.apply world = (.error error, later) →
      law world (.error error) exchanges → whole world (.error error) exchanges)
    (follows : ∀ world value later first result second, action.apply world = (.ok value, later) →
      law world (.ok value) first → law' value later result second → whole world result (first ++ second)) :
    (action >>= next).Mirrors related' whole (recorded >>= next') := by
  intro world noted
  obtain ⟨first, agree, after, lawful⟩ := head world noted
  rcases ran : action.apply world with ⟨error | value, later⟩
  all_goals
    rcases ran' : recorded.apply (world.recorded noted) with ⟨result', later'⟩
    rw [ran, ran'] at agree
    rw [ran, ran'] at after
    rw [ran] at lawful
    cases agree
    subst after
  · rw [apply_bind_error ran, apply_bind_error ran']
    exact ⟨first, .error error, rfl, fails world error later first ran lawful⟩
  · rename_i other same
    rw [apply_bind_ok ran, apply_bind_ok ran']
    obtain ⟨second, agree, after, lawful'⟩ := tail value other same later (noted ++ first)
    refine ⟨first ++ second, agree, ?_, follows world value later first _ second ran lawful lawful'⟩
    rw [after, List.append_assoc]

theorem Action.Mirrors.bind_via {convert : α → β} {related' : γ → δ → Prop} {law' : α → Law σ γ}
    {whole : Law σ γ} {next : α → Action (World σ) γ} {next' : β → Action (World (Recorded σ)) δ}
    (head : action.Mirrors (Via convert) law recorded)
    (tail : ∀ value, (next value).Mirrors related' (law' value) (next' (convert value)))
    (fails : ∀ world error later exchanges, action.apply world = (.error error, later) →
      law world (.error error) exchanges → whole world (.error error) exchanges)
    (follows : ∀ world value later first result second, action.apply world = (.ok value, later) →
      law world (.ok value) first → law' value later result second → whole world result (first ++ second)) :
    (action >>= next).Mirrors related' whole (recorded >>= next') := by
  refine head.bind ?_ fails follows
  rintro value _ rfl
  exact tail value

/-- What exchanges nothing may follow, where the result does not matter. -/
theorem Action.Mirrors.bind_nothing {convert : α → β} {related' : γ → δ → Prop}
    {shape : World σ → List Exchange → Prop} {next : α → Action (World σ) γ}
    {next' : β → Action (World (Recorded σ)) δ}
    (head : action.Mirrors (Via convert) (fun world _ => shape world) recorded)
    (tail : ∀ value, (next value).Mirrors related' .nothing (next' (convert value))) :
    (action >>= next).Mirrors related' (fun world _ => shape world) (recorded >>= next') := by
  refine head.bind_via tail (fun _ _ _ _ _ shape => shape) ?_
  rintro world value later first result second - shaped rfl
  rwa [List.append_nil]

theorem Action.Silent.mirrors {recorded : Action (World (Recorded σ)) α} (silent : action.Silent recorded)
    (lawful : ∀ world, law world (action.apply world).1 []) : action.Mirrors (Via id) law recorded := by
  intro world noted
  refine ⟨[], ?_, ?_, lawful world⟩
  · rw [silent world noted]
    exact .refl _
  · rw [silent world noted, List.append_nil]

theorem Action.mirrors_pure {value : α} {other : β} (same : related value other)
    (lawful : ∀ world, law world (.ok value) []) :
    (pure value : Action (World σ) α).Mirrors related law (pure other) :=
  fun world noted => ⟨[], .ok same, by rw [List.append_nil]; rfl, lawful world⟩

theorem Action.mirrors_throw {error : Error} (lawful : ∀ world, law world (.error error) []) :
    (throw error : Action (World σ) α).Mirrors related law (throw error) :=
  fun world noted => ⟨[], .error error, by rw [List.append_nil]; rfl, lawful world⟩

/-- A result that is computed beforehand fails without an exchange, or gives the value for what follows. -/
theorem Action.mirrors_ofResult_bind {result : Result γ} {next : γ → Action (World σ) α}
    {next' : γ → Action (World (Recorded σ)) β}
    (fails : ∀ error, result = .error error → ∀ world, law world (.error error) [])
    (tail : ∀ value, result = .ok value → (next value).Mirrors related law (next' value)) :
    (Action.ofResult result >>= next).Mirrors related law (Action.ofResult result >>= next') := by
  cases result with
  | ok value => exact tail value rfl
  | error error => exact mirrors_throw (fails error rfl)

end Mirrors

namespace World

private theorem recorded_tell (world : World σ) (noted : List Exchange) (recipients : List Recipient) :
    (world.recorded noted).tell recipients = (world.tell recipients).recorded noted := by
  induction recipients generalizing world with
  | nil => rfl
  | cons recipient rest ih => exact ih (world.serviceDied recipient)

theorem afterCall_recorded (world : World σ) (shared : Shared σ) (before after : List Exchange) :
    (world.recorded before).afterCall (shared.recorded after) = (world.afterCall shared).recorded after :=
  recorded_tell { world with shared } after shared.notices

private theorem apply_call_recorded (classify : TransportError → Error) (call : Call σ α)
    (note : Except TransportError α → List Recipient → Exchange) (convert : α → β) (world : World σ)
    (noted : List Exchange) :
    let ran := (ExceptT.run call).run world.shared
    (World.call classify (Call.recorded note convert call)).apply (world.recorded noted) =
      ((ran.1.mapError classify).map convert,
        ((World.call classify call).apply world).2.recorded (noted ++ [note ran.1 ran.2.notices])) := by
  intro ran
  refine Prod.ext ?_ (afterCall_recorded world ran.2 noted _)
  change (ran.1.map convert).mapError classify = (ran.1.mapError classify).map convert
  cases ran.1 <;> rfl

theorem mirrors_call {classify : TransportError → Error} {call : Call σ α}
    {note : Except TransportError α → List Recipient → Exchange} {convert : α → β} {law : Law σ α}
    (lawful : ∀ world, let ran := (ExceptT.run call).run world.shared
      law world (ran.1.mapError classify) [note ran.1 ran.2.notices]) :
    (World.call classify call).Mirrors (Via convert) law
      (World.call classify (Call.recorded note convert call)) := by
  intro world noted
  rw [apply_call_recorded]
  exact ⟨_, .of_map _, rfl, lawful world⟩

theorem mirrors_launch {dialect : Dialect} {name : String} {recipient : Recipient}
    {report : η → Result ExecutionResult} {timeout : World σ → Option Duration}
    {timeout' : World (Recorded σ) → Option Duration} {launch : StateM (Shared σ) (Launch η)}
    {law : Law σ (Waited ExecutionResult)} (same : ∀ world noted, timeout' (world.recorded noted) = timeout world)
    (lawful : ∀ world, law world ((World.launch dialect name recipient report timeout launch).apply world).1
      [.ofLaunch (launch.run world.shared).1]) :
    (World.launch dialect name recipient report timeout launch).Mirrors (Via id) law
      (World.launch dialect name recipient report timeout' (Launch.recorded launch)) := by
  intro world noted
  let later := ((World.launch dialect name recipient report timeout launch).apply world).2
  let exchange := Exchange.ofLaunch (launch.run world.shared).1
  have result : ((World.launch dialect name recipient report timeout'
      (Launch.recorded launch)).apply (world.recorded noted)).1 =
      ((World.launch dialect name recipient report timeout launch).apply world).1 :=
    congrArg (launchResult dialect name _ _) (same later (noted ++ [exchange]))
  exact ⟨[exchange], result ▸ .refl _, rfl, lawful world⟩

end World

/-! Moving data and handing out fences calls no endpoint. -/

theorem Action.silent_ofResult (result : Result α) :
    (Action.ofResult result : Action (World σ) α).Silent (Action.ofResult result) := fun _ _ => rfl

namespace World

theorem silent_relocateModel (model : Model) :
    (relocateModel model : Action (World σ) Model).Silent (relocateModel model) := by
  intro world noted
  rw [apply_relocateModel, apply_relocateModel]
  dsimp only [World.recorded, Shared.recorded]
  split <;> rfl

theorem silent_relocateRequest (request : Request) :
    (relocateRequest request : Action (World σ) Request).Silent (relocateRequest request) := by
  intro world noted
  rw [apply_relocateRequest, apply_relocateRequest]
  dsimp only [World.recorded, Shared.recorded]
  split <;> rfl

theorem silent_restoreRequest (request relocated : Request) :
    (restoreRequest request relocated : Action (World σ) Unit).Silent (restoreRequest request relocated) :=
  fun _ _ => rfl

end World

theorem PreparedModel.silent_replyFence (fence : Option Fence) :
    (replyFence fence : Action (World σ) Fence).Silent (replyFence fence) := by
  cases fence <;> exact fun _ _ => rfl

end NeuralDevice
