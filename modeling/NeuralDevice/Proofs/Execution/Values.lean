import NeuralDevice.Proofs.Execution.Kernel
import NeuralDevice.Proofs.Relocation.Region

/-!
What a kernel sees of a relocated request. Every input has the value that it had for the caller, and the driver
keeps the results that it would have kept.
-/

namespace NeuralDevice

open Result

variable {σ : Type}

theorem Argument.IsValid.hostBytes_eq_ok {host : HostMemory} {pools : List MemoryPool}
    {argument : Argument} (valid : argument.IsValid pools) {pointer : HostPointer}
    (present : argument.location.pointer = some pointer) :
    pointer.read host argument.location.length.toNat = .ok (argument.hostBytes host) := by
  have inHost : argument.isInHost = true := by simp [isInHost, present]
  have alive := valid.isInHost_iff.mp inHost
  unfold IsValid at valid
  rw [alive] at valid
  obtain ⟨other, found, fits⟩ := valid
  obtain rfl := Option.some.inj (present.symm.trans found)
  exact HostPointer.read_eq_ok_iff.mpr ⟨fits, by simp [hostBytes, present]⟩

/-- Folding labels over lists whose members act alike gives one state. -/
private theorem foldl_zip_congr {α β γ : Type} {first : σ → α × γ → σ} {second : σ → β × γ → σ}
    {sources : List α} {values : List β}
    (agree : List.Forall₂
      (fun source value => ∀ state label, first state (source, label) = second state (value, label))
      sources values)
    (labels : List γ) (start : σ) :
    (sources.zip labels).foldl first start = (values.zip labels).foldl second start := by
  induction agree generalizing labels start with
  | nil => rfl
  | cons head _ ih =>
    cases labels with
    | nil => rfl
    | cons label labels =>
      rw [List.zip_cons_cons, List.zip_cons_cons, List.foldl_cons, List.foldl_cons, head]
      exact ih labels _

namespace Kernel

variable {host : HostMemory} {store later : FileStore} {pools : List MemoryPool} {argument : Argument}

/-- Inputs outside host memory have their values whatever pools and files are added. -/
private theorem input_append (kernel : Kernel σ) (remote : σ) (valid : argument.IsValid pools)
    (backed : ∀ memory, .memory memory ∈ pools → memory.IsBacked store) (kept : store.IsKept later)
    (added : List MemoryPool) :
    kernel.input later remote (pools ++ added) argument = kernel.input store remote pools argument := by
  unfold input
  cases alive : argument.lifetime with
  | noValue => rfl
  | pointer => rfl
  | pool =>
    simp only [valid.getElem?_append alive]
    cases found : pools[argument.location.poolIndex.toNat]? with
    | none =>
      obtain ⟨-, pool, present⟩ := valid.exists_pool alive
      exact absurd (found.symm.trans present) nofun
    | some pool =>
      cases pool with
      | token token => rfl
      | memory memory =>
        obtain ⟨-, descriptor, file, head, opened, long⟩ := backed memory (List.mem_of_getElem? found)
        simp only [valid.read_eq_ok alive found head opened long,
          valid.read_eq_ok alive found head (kept.open? opened) long]

private theorem keepResult_append (kernel : Kernel σ) (remote : σ) (data : List UInt8)
    (valid : argument.IsValid pools) (added : List MemoryPool) :
    kernel.keepResult (pools ++ added) remote (argument, data) =
      kernel.keepResult pools remote (argument, data) := by
  unfold keepResult
  cases alive : argument.lifetime with
  | noValue => rfl
  | pointer => rfl
  | pool => simp only [valid.getElem?_append alive]

private theorem keepResult_of_isInHost (kernel : Kernel σ) (remote : σ) (data : List UInt8)
    (valid : argument.IsValid pools) (inHost : argument.isInHost = true) :
    kernel.keepResult pools remote (argument, data) = remote := by
  unfold keepResult
  rw [valid.isInHost_iff.mp inHost]

theorem exists_callerInput (kernel : Kernel σ) (remote : σ) (valid : argument.IsValid pools)
    (backed : ∀ memory, .memory memory ∈ pools → memory.IsBacked store) :
    ∃ value, kernel.callerInput host store remote pools argument = .ok value := by
  unfold callerInput
  cases present : argument.location.pointer with
  | some pointer =>
    simp only [valid.hostBytes_eq_ok present]
    exact ⟨_, rfl⟩
  | none =>
    have bare : ¬argument.isInHost = true := by simp [Argument.isInHost, present]
    unfold input
    cases alive : argument.lifetime with
    | noValue => exact ⟨_, rfl⟩
    | pointer => exact absurd (valid.isInHost_iff.mpr alive) bare
    | pool =>
      obtain ⟨-, pool, found⟩ := valid.exists_pool alive
      simp only [found]
      cases pool with
      | token token => exact ⟨_, rfl⟩
      | memory memory =>
        obtain ⟨-, descriptor, file, head, opened, long⟩ := backed memory (List.mem_of_getElem? found)
        simp only [valid.read_eq_ok alive found head opened long]
        exact ⟨_, rfl⟩

end Kernel

namespace Request.IsRelocated

variable {host : HostMemory} {store later : FileStore} {request relocated : Request}
  {inputPools outputPools : List MemoryPool}

private theorem input_placeAt (moved : request.IsRelocated host store later relocated inputPools outputPools)
    (kernel : Kernel σ) (remote : σ) {before after : List Argument} {argument : Argument}
    (split : request.inputs = before ++ argument :: after) (valid : argument.IsValid request.pools)
    (inHost : argument.isInHost = true) :
    kernel.input later remote relocated.pools
        (argument.placeAt (UInt32.ofNat request.pools.length) (Argument.totalLength before)) =
      kernel.callerInput host store remote request.pools argument := by
  obtain ⟨pointer, present⟩ := Option.isSome_iff_exists.mp inHost
  obtain ⟨memory, found, read⟩ := moved.read_placeAt split inHost
  simp only [Kernel.input, Kernel.callerInput, Argument.placeAt, inHost, if_true, DataLocation.inPool, found,
    read, present, valid.hostBytes_eq_ok present]

/-- The endpoint finds every input with the value it has for the caller. -/
theorem input_values (moved : request.IsRelocated host store later relocated inputPools outputPools)
    (kernel : Kernel σ) (remote : σ) (valid : ∀ input ∈ request.inputs, input.IsValid request.pools)
    (backed : ∀ memory, .memory memory ∈ request.pools → memory.IsBacked store) :
    relocated.inputs.mapM (kernel.input later remote relocated.pools) =
      request.inputs.mapM (kernel.callerInput host store remote request.pools) := by
  have laidOut := Argument.forall₂_placeAll (UInt32.ofNat request.pools.length) 0 request.inputs
  rw [← moved.inputs] at laidOut
  refine (mapM_congr (laidOut.imp ?_)).symm
  intro argument placed located
  rcases located with ⟨before, after, split, rfl⟩
  have good := valid argument (by simp [split])
  rw [Nat.zero_add]
  cases inHost : argument.isInHost with
  | true => exact (moved.input_placeAt kernel remote split good inHost).symm
  | false =>
    have absent : argument.location.pointer = none := by simpa [Argument.isInHost] using inHost
    rw [Argument.placeAt_of_not_isInHost inHost, moved.pools, List.append_assoc,
      kernel.input_append remote good backed moved.kept]
    simp [Kernel.callerInput, absent]

private theorem keepResult_placeAt
    (moved : request.IsRelocated host store later relocated inputPools outputPools) (kernel : Kernel σ)
    (remote : σ) (data : List UInt8) {output : Argument} (member : output ∈ request.outputs)
    (valid : output.IsValid request.pools) (offset : Nat) :
    kernel.keepResult relocated.pools remote
        (output.placeAt (UInt32.ofNat (request.pools ++ inputPools).length) offset, data) =
      kernel.keepResult request.pools remote (output, data) := by
  cases inHost : output.isInHost with
  | false =>
    rw [Argument.placeAt_of_not_isInHost inHost, moved.pools, List.append_assoc,
      kernel.keepResult_append remote data valid]
  | true =>
    obtain ⟨memory, -, located, index⟩ := moved.last_pool member inHost
    rw [kernel.keepResult_of_isInHost remote data valid inHost]
    simp only [Kernel.keepResult, Argument.placeAt, inHost, if_true, DataLocation.inPool, index, located]

theorem kept_results (moved : request.IsRelocated host store later relocated inputPools outputPools)
    (kernel : Kernel σ) (valid : ∀ output ∈ request.outputs, output.IsValid request.pools)
    (results : List (List UInt8)) (remote : σ) :
    (relocated.outputs.zip results).foldl (kernel.keepResult relocated.pools) remote =
      (request.outputs.zip results).foldl (kernel.keepResult request.pools) remote := by
  have placed := (List.forall₂_and_left _ _).mpr
    ⟨fun output (member : output ∈ request.outputs) => member, moved.outputs_placed⟩
  refine (foldl_zip_congr (placed.imp ?_) results remote).symm
  intro output other located remote data
  rcases located with ⟨member, offset, rfl⟩
  symm
  exact moved.keepResult_placeAt kernel remote data member (valid output member) offset

end Request.IsRelocated

end NeuralDevice
