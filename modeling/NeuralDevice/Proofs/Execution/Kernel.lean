import NeuralDevice.Device.PreparedModel
import NeuralDevice.Proofs.Conversion.Crossing
import NeuralDevice.Proofs.Memory.Region

/-!
What endpoints do with executions. A kernel computes results from the values of the inputs; an endpoint serves a
message by decoding it, reading the inputs from shared memory, running the kernel and storing the results where
the outputs lie. Memory behind tokens is kept by the driver.
-/

namespace NeuralDevice

open Result

variable {σ : Type}

structure InputValue where
  data : List UInt8
  dimensions : List UInt32
  deriving DecidableEq, Repr

/-- What a driver computes. The values of inputs that have one are given, in order. -/
structure Kernel (σ : Type) where
  run : σ → List (Option InputValue) → List (List UInt8) × σ
  /-- The bytes the driver keeps behind a token, from an offset on. -/
  held : σ → UInt32 → Nat → Nat → List UInt8
  /-- Keeps bytes behind a token from an offset on. -/
  keep : σ → UInt32 → Nat → List UInt8 → σ

namespace Kernel

def input (kernel : Kernel σ) (store : FileStore) (remote : σ) (pools : List MemoryPool)
    (argument : Argument) : Result (Option InputValue) :=
  let location := argument.location
  match argument.lifetime with
  | .noValue => pure none
  | .pointer => throw ConversionFault.pointerRequest.error
  | .pool =>
    match pools[location.poolIndex.toNat]? with
    | some (.memory memory) => do
      let data ← memory.read store location.offset.toNat location.length.toNat
      pure (some ⟨data, argument.dimensions⟩)
    | some (.token token) =>
      pure (some ⟨kernel.held remote token location.offset.toNat location.length.toNat,
        argument.dimensions⟩)
    | none => throw (RequestFault.missingPool "Input" location.poolIndex pools.length).error

/-- The value that an input has for the caller: with a pointer, bytes of host memory. -/
def callerInput (kernel : Kernel σ) (host : HostMemory) (store : FileStore) (remote : σ)
    (pools : List MemoryPool) (argument : Argument) : Result (Option InputValue) :=
  match argument.location.pointer with
  | some pointer => do
    let data ← pointer.read host argument.location.length.toNat
    pure (some ⟨data, argument.dimensions⟩)
  | none => kernel.input store remote pools argument

def callerValues (kernel : Kernel σ) (world : World σ) (request : Request) :
    Result (List (Option InputValue)) :=
  request.inputs.mapM
    (kernel.callerInput world.host world.shared.files world.shared.remote request.pools)

/-- Lets the driver keep a result whose argument lies behind a token. -/
def keepResult (kernel : Kernel σ) (pools : List MemoryPool) (remote : σ)
    (result : Argument × List UInt8) : σ :=
  match result.1.lifetime, pools[result.1.location.poolIndex.toNat]? with
  | .pool, some (.token token) => kernel.keep remote token result.1.location.offset.toNat result.2
  | _, _ => remote

def perform (kernel : Kernel σ) (request : Request) (store : FileStore) (remote : σ) :
    Result (FileStore × σ) := do
  let values ← request.inputs.mapM (kernel.input store remote request.pools)
  let (results, remote) := kernel.run remote values
  let store ← (request.outputs.zip results).foldlM (storeResult request.pools) store
  pure (store, (request.outputs.zip results).foldl (kernel.keepResult request.pools) remote)

def serve (kernel : Kernel σ) (dialect : Dialect) (message : (Crossing.request dialect).Message)
    (shared : Shared σ) : Result (FileStore × σ) := do
  let request ← (Crossing.request dialect).receive shared.files message
  kernel.perform request shared.files shared.remote

end Kernel

/-- Whether the state is one after a request was served. -/
def Shared.IsAfter (shared : Shared σ) (outcome : FileStore × σ) : Prop :=
  shared.files = outcome.1 ∧ shared.remote = outcome.2

def Shared.after (shared : Shared σ) (outcome : FileStore × σ) : Shared σ :=
  { shared with files := outcome.1, remote := outcome.2 }

theorem Shared.isAfter_after (shared : Shared σ) (outcome : FileStore × σ) :
    (shared.after outcome).IsAfter outcome := ⟨rfl, rfl⟩

namespace PreparedEndpoint

/-- Whether an endpoint runs the kernel on every message it can serve, and reports success. -/
def Computes (kernel : Kernel σ) : PreparedEndpoint σ → Prop
  | .v1_0 endpoint => ∀ message shared outcome, kernel.serve .v1_0 message shared = .ok outcome →
      ∃ events later, (endpoint.execute message).run shared = (⟨.notified 0 :: events, .ok 0⟩, later) ∧
        later.IsAfter outcome
  | .v1_2 endpoint => ∀ message measure shared outcome,
      kernel.serve .v1_2 message shared = .ok outcome →
        (∃ report executed later,
          (ExceptT.run (endpoint.executeSynchronously message measure)).run shared =
            (.ok report, later) ∧ later.IsAfter outcome ∧ report.toCanonical = .ok executed) ∧
          ∃ report executed events later, (endpoint.execute message measure).run shared =
            (⟨.notified report :: events, .ok 0⟩, later) ∧ later.IsAfter outcome ∧
              report.toCanonical = .ok executed
  | .aidl endpoint => ∀ message settings shared outcome,
      kernel.serve .aidl message shared = .ok outcome →
        ∃ result executed later,
          (ExceptT.run (endpoint.executeSynchronously message settings)).run shared =
            (.ok result, later) ∧ later.IsAfter outcome ∧ result.toCanonical = .ok executed

end PreparedEndpoint

namespace Kernel

/-- Serves a message if it can be, and tells whether it could. -/
def answer (kernel : Kernel σ) (dialect : Dialect) (message : (Crossing.request dialect).Message) :
    StateM (Shared σ) Bool := fun shared =>
  match kernel.serve dialect message shared with
  | .ok outcome => (true, shared.after outcome)
  | .error _ => (false, shared)

theorem answer_eq {kernel : Kernel σ} {dialect : Dialect}
    {message : (Crossing.request dialect).Message} {shared : Shared σ} {outcome : FileStore × σ}
    (served : kernel.serve dialect message shared = .ok outcome) :
    (kernel.answer dialect message).run shared = (true, shared.after outcome) := by
  unfold answer
  simp only [StateT.run, served]

def statusOf (served : Bool) : Int32 := if served then 0 else 2

def reportOf (served : Bool) : Wire.Hal.V1_2.Report :=
  ⟨statusOf served, [], ⟨Wire.Hal.notMeasured, Wire.Hal.notMeasured⟩⟩

/-- An endpoint that does nothing but serve executions with the kernel. -/
def endpoint (kernel : Kernel σ) : Dialect → PreparedEndpoint σ
  | .v1_0 =>
    .v1_0
      { execute := fun message => do
          let served ← kernel.answer .v1_0 message
          pure ⟨[.notified (statusOf served)], .ok 0⟩
        linkToDeath := fun _ => pure true }
  | .v1_2 =>
    .v1_2
      { execute := fun message _ => do
          let served ← kernel.answer .v1_2 message
          pure ⟨[.notified (reportOf served)], .ok 0⟩
        executeSynchronously := fun message _ => ExceptT.mk do
          let served ← kernel.answer .v1_2 message
          pure (.ok (reportOf served))
        linkToDeath := fun _ => pure true }
  | .aidl =>
    .aidl
      { executeSynchronously := fun message _ => ExceptT.mk do
          let served ← kernel.answer .aidl message
          pure (if served then .ok ⟨true, [], none⟩ else .error (.serviceSpecific (statusOf served)))
        executeFenced := fun _ _ _ _ => throw (.serviceSpecific (statusOf false))
        linkToDeath := fun _ => pure true }

theorem endpoint_computes (kernel : Kernel σ) (dialect : Dialect) :
    (kernel.endpoint dialect).Computes kernel := by
  cases dialect with
  | v1_0 =>
    intro message shared outcome served
    refine ⟨[], shared.after outcome, ?_, shared.isAfter_after outcome⟩
    simp only [StateT.run_bind, answer_eq served]
    rfl
  | v1_2 =>
    intro message measure shared outcome served
    have after := shared.isAfter_after outcome
    refine ⟨⟨reportOf true, ⟨[], .notMeasured⟩, shared.after outcome, ?_, after, rfl⟩,
      reportOf true, ⟨[], .notMeasured⟩, [], shared.after outcome, ?_, after, rfl⟩
    · simp only [ExceptT.run_mk, StateT.run_bind, answer_eq served]
      rfl
    · simp only [StateT.run_bind, answer_eq served]
      rfl
  | aidl =>
    intro message settings shared outcome served
    refine ⟨⟨true, [], none⟩, ⟨[], .notMeasured⟩, shared.after outcome, ?_,
      shared.isAfter_after outcome, rfl⟩
    simp only [ExceptT.run_mk, StateT.run_bind, answer_eq served]
    rfl

end Kernel

end NeuralDevice
