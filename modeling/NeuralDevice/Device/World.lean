import NeuralDevice.Execution.Launch
import NeuralDevice.Execution.Submission
import NeuralDevice.Host
import NeuralDevice.Relocation.Model
import NeuralDevice.Relocation.Request

/-! The state that devices and prepared models act on, and the steps their operations are made of. -/

namespace NeuralDevice

/-- What is shared with endpoints, and what the caller keeps to itself. -/
structure World (σ : Type) where
  shared : Shared σ
  host : HostMemory
  /-- Watches on endpoints; an endpoint knows its own by position. -/
  monitors : List (Monitor Nat)
  now : TimePoint

namespace World

variable {σ α η : Type}

def monitor (world : World σ) (recipient : Recipient) : Monitor Nat :=
  (world.monitors[recipient]?).getD .new

/-- An endpoint tells its recipient that it died. -/
def serviceDied (world : World σ) (recipient : Recipient) : World σ :=
  let (_, monitor) := (world.monitor recipient).serviceDied fun _ => true
  { world with monitors := world.monitors.set recipient monitor }

def tell (world : World σ) (recipients : List Recipient) : World σ := recipients.foldl serviceDied world

/-- What no single notice changes is the same after all of them. -/
private theorem tell_keeps {β : Type} (part : World σ → β)
    (kept : ∀ world recipient, part (serviceDied world recipient) = part world) (world : World σ)
    (recipients : List Recipient) : part (world.tell recipients) = part world := by
  induction recipients generalizing world with
  | nil => rfl
  | cons recipient rest ih => exact (ih (world.serviceDied recipient)).trans (kept world recipient)

@[simp] theorem shared_tell (world : World σ) (recipients : List Recipient) :
    (world.tell recipients).shared = world.shared := tell_keeps World.shared (fun _ _ => rfl) world recipients

@[simp] theorem host_tell (world : World σ) (recipients : List Recipient) :
    (world.tell recipients).host = world.host := tell_keeps World.host (fun _ _ => rfl) world recipients

@[simp] theorem length_monitors_tell (world : World σ) (recipients : List Recipient) :
    (world.tell recipients).monitors.length = world.monitors.length :=
  tell_keeps (fun world => world.monitors.length) (fun _ _ => List.length_set) world recipients

/-- The world after a call that left the shared state so. Whoever was told of a death meanwhile knows of it. -/
def afterCall (world : World σ) (shared : Shared σ) : World σ := { world with shared }.tell shared.notices

@[simp] theorem shared_afterCall (world : World σ) (shared : Shared σ) :
    (world.afterCall shared).shared = shared := shared_tell _ _

@[simp] theorem host_afterCall (world : World σ) (shared : Shared σ) :
    (world.afterCall shared).host = world.host := host_tell _ _

@[simp] theorem length_monitors_afterCall (world : World σ) (shared : Shared σ) :
    (world.afterCall shared).monitors.length = world.monitors.length := length_monitors_tell _ _

/-- A call, with the errors of its transport as `classify` says. -/
def call (classify : TransportError → Error) (call : Call σ α) : Action (World σ) α :=
  Action.ofStep fun world =>
    let (reply, shared) := (ExceptT.run call).run world.shared
    (reply.mapError classify, world.afterCall shared)

/-- A launch, watched from before the call until after it, and the wait for its result. -/
def launch (dialect : Dialect) (name : String) (recipient : Recipient)
    (report : η → Result ExecutionResult) (timeout : World σ → Option Duration)
    (launch : StateM (Shared σ) (Launch η)) : Action (World σ) (Waited ExecutionResult) :=
  Action.ofStep fun world =>
    let (reply, shared) := launch.run world.shared
    let (completion, monitor) := (world.monitor recipient).watch report reply.events
    let world := { world with shared, monitors := world.monitors.set recipient monitor }
    (launchResult dialect name reply.status completion (timeout world), world)

/-- The endpoint refused to tell of its death. -/
def linkRefused : Error := .generalFailure "failed to register a death recipient"

def link (linkToDeath : Recipient → Call σ Bool) : Action (World σ) Recipient := do
  let recipient := (← get).monitors.length
  modify fun world => { world with monitors := world.monitors ++ [.new] }
  let isLinked ← call TransportError.error (linkToDeath recipient)
  if !isLinked then throw linkRefused
  pure recipient

def relocateModel (model : Model) : Action (World σ) Model := do
  let world ← get
  let (relocated, files) ← Action.ofResult (model.relocate world.host world.shared.files)
  set { world with shared := { world.shared with files } }
  pure relocated

def relocateRequest (request : Request) : Action (World σ) Request := do
  let world ← get
  let (relocated, files) ← Action.ofResult (request.relocate world.host world.shared.files)
  set { world with shared := { world.shared with files } }
  pure relocated

def restoreRequest (request relocated : Request) : Action (World σ) Unit :=
  Action.ofStep fun world =>
    let (result, host) := request.restore relocated world.shared.files world.host
    (result, { world with host })

/-- Runs `dispatch` on the relocated request. Results are moved back only if it ends with success. -/
def executeRelocated (request : Request) (dispatch : Request → Action (World σ) (Waited α)) :
    Action (World σ) (Waited α) := do
  let relocated ← relocateRequest request
  let waited ← dispatch relocated
  if waited.hasEnded && !request.hasNoPointerData then restoreRequest request relocated
  pure waited

end World

end NeuralDevice
