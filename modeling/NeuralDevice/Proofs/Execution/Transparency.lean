import NeuralDevice.Proofs.Execution.Atomicity
import NeuralDevice.Proofs.Execution.Dispatch
import NeuralDevice.Proofs.Execution.Values
import NeuralDevice.Proofs.Relocation.Sending

/-!
Executions are transparent: whatever mixture of host memory, shared memory and tokens a request uses, the
endpoint computes on the bytes that the caller's inputs hold, and the caller finds the results where its outputs
lie and nothing else changed.
-/

namespace NeuralDevice

open NeuralDevice.Action Result

variable {σ : Type}

/-- Buffers and files are as long as promised, and no two results share memory. -/
structure Request.IsBacked (host : HostMemory) (store : FileStore) (request : Request) : Prop where
  inputs : ∀ input ∈ request.inputs, input.IsBacked host
  outputs : ∀ output ∈ request.outputs, output.IsBacked host
  pools : ∀ memory, .memory memory ∈ request.pools → memory.IsBacked store
  apart : request.outputs.Pairwise Argument.IsApart
  disjoint : request.outputs.Pairwise (Argument.IsDisjoint request.pools)

/-- What an execution leaves: the results at the outputs, and everything else as it was. -/
structure World.Delivers (world later : World σ) (request : Request) (results : List (List UInt8)) :
    Prop where
  buffers : ∀ output data pointer, (output, data) ∈ request.outputs.zip results →
    output.location.pointer = some pointer → later.host.behind pointer data.length = data
  bufferBytes : ∀ buffer position : Nat, (∀ output ∈ request.outputs, ¬output.ReachesByte buffer position) →
    (later.host.buffer buffer)[position]? = (world.host.buffer buffer)[position]?
  regions : ∀ result ∈ request.outputs.zip results,
    result.1.Holds request.pools later.shared.files result.2
  otherBytes : FileStore.KeepsOutside
    (fun descriptor position => ∃ output ∈ request.outputs,
      output.Covers request.pools descriptor position)
    world.shared.files later.shared.files

namespace World.Delivers

variable {world later : World σ} {request : Request} {results : List (List UInt8)}

private theorem buffer_of_no_output (delivers : world.Delivers later request results) {buffer : Nat}
    (free : ∀ output ∈ request.outputs, ∀ position, ¬output.ReachesByte buffer position) :
    later.host.buffer buffer = world.host.buffer buffer := by
  refine List.ext_getElem? fun position => ?_
  exact delivers.bufferBytes buffer position fun output member => free output member position

private theorem buffer_of_one_output (delivers : world.Delivers later request results) {output : Argument}
    {data : List UInt8} {pointer : HostPointer} (paired : (output, data) ∈ request.outputs.zip results)
    (present : output.location.pointer = some pointer)
    (alone : ∀ position, position < pointer.offset ∨ pointer.offset + data.length ≤ position →
      ∀ other ∈ request.outputs, ¬other.ReachesByte pointer.buffer position) :
    later.host.buffer pointer.buffer = (world.host.buffer pointer.buffer).take pointer.offset ++
      (data ++ (world.host.buffer pointer.buffer).drop (pointer.offset + data.length)) := by
  have before : (later.host.buffer pointer.buffer).take pointer.offset =
      (world.host.buffer pointer.buffer).take pointer.offset := by
    refine List.ext_getElem? fun position => ?_
    rw [List.getElem?_take, List.getElem?_take]
    split
    · rename_i inside
      exact delivers.bufferBytes _ position (alone position (.inl inside))
    · rfl
  have after : (later.host.buffer pointer.buffer).drop (pointer.offset + data.length) =
      (world.host.buffer pointer.buffer).drop (pointer.offset + data.length) := by
    refine List.ext_getElem? fun index => ?_
    rw [List.getElem?_drop, List.getElem?_drop]
    exact delivers.bufferBytes _ _ (alone _ (.inr (Nat.le_add_right _ _)))
  have written := delivers.buffers output data pointer paired present
  unfold HostMemory.behind at written
  calc later.host.buffer pointer.buffer
      = (later.host.buffer pointer.buffer).take pointer.offset ++
          (later.host.buffer pointer.buffer).drop pointer.offset := (List.take_append_drop _ _).symm
    _ = (later.host.buffer pointer.buffer).take pointer.offset ++
          (((later.host.buffer pointer.buffer).drop pointer.offset).take data.length ++
            ((later.host.buffer pointer.buffer).drop pointer.offset).drop data.length) := by
        rw [List.take_append_drop data.length]
    _ = _ := by rw [before, written, List.drop_drop, after]

end World.Delivers

namespace Request.IsRelocated

variable {host : HostMemory} {store later : FileStore} {request relocated : Request}
  {inputPools outputPools : List MemoryPool} {version : Version} {results : List (List UInt8)}

private theorem serve_eq_ok (moved : request.IsRelocated host store later relocated inputPools outputPools)
    (kernel : Kernel σ) (validated : validate request = .ok version)
    (backed : request.IsBacked host store) {dialect : Dialect}
    {message : (Crossing.request dialect).Message}
    (sent : (Crossing.request dialect).send relocated = .ok message) {shared : Shared σ}
    (same : shared.files = later) {values : List (Option InputValue)} {remote : σ}
    (taken : request.inputs.mapM (kernel.callerInput host store shared.remote request.pools) = .ok values)
    (computed : kernel.run shared.remote values = (results, remote))
    (sized : List.Forall₂ Argument.Asks request.outputs results) :
    ∃ last,
      kernel.serve dialect message shared =
        .ok (last, (request.outputs.zip results).foldl (kernel.keepResult request.pools) remote) ∧
      FileStore.KeepsOutside (fun descriptor position =>
        ∃ output ∈ request.outputs, output.Covers request.pools descriptor position) store last ∧
      ∀ result ∈ relocated.outputs.zip results, result.1.Holds relocated.pools last result.2 := by
  subst same
  obtain ⟨-, inputs, outputs⟩ := validate_request_eq_ok_iff.mp validated
  have opened : relocated.HasOpenPools shared.files := fun memory member =>
    (moved.isBacked backed.pools memory member).isOpen
  have received : (Crossing.request dialect).receive shared.files message = .ok relocated :=
    (Crossing.request_keeps dialect shared.files relocated opened).checked message sent
  have seen : relocated.inputs.mapM (kernel.input shared.files shared.remote relocated.pools) =
      .ok values := (moved.input_values kernel shared.remote inputs backed.pools).trans taken
  obtain ⟨last, stored, kept, held⟩ :=
    moved.storeResults_eq_ok validated backed.pools backed.disjoint sized
  refine ⟨last, ?_, kept, held⟩
  rw [Kernel.serve, bind_eq_ok_iff]
  refine ⟨relocated, received, ?_⟩
  rw [Kernel.perform, bind_eq_ok_iff]
  refine ⟨values, seen, ?_⟩
  rw [computed, ← moved.kept_results kernel outputs]
  exact bind_eq_ok_iff.mpr ⟨last, stored, rfl⟩

theorem delivers {world after : World σ}
    (moved : request.IsRelocated world.host world.shared.files later relocated inputPools outputPools)
    (valid : ∀ output ∈ request.outputs, output.IsValid request.pools)
    (backed : request.IsBacked world.host world.shared.files)
    (sized : List.Forall₂ Argument.Asks request.outputs results)
    (held : ∀ result ∈ relocated.outputs.zip results,
      result.1.Holds relocated.pools after.shared.files result.2)
    (kept : FileStore.KeepsOutside
      (fun descriptor position => ∃ output ∈ request.outputs,
        output.Covers request.pools descriptor position)
      world.shared.files after.shared.files)
    (restored : after.host = world.host.overwriteAll (request.hostResults results)) :
    world.Delivers after request results := by
  refine ⟨?_, ?_, moved.holds_of_placed valid held, kept⟩
  · intro output data pointer paired present
    rw [restored]
    exact Request.behind_overwriteAll_hostResults backed.outputs backed.apart moved.taken sized paired
      present
  · intro buffer position unreached
    rw [restored]
    refine HostMemory.getElem?_overwriteAll_unreached fun result member reached => ?_
    obtain ⟨output, listed, reaches⟩ := Request.reachesByte_of_hostResults sized member reached
    exact unreached output listed reaches

end Request.IsRelocated

namespace World

private theorem executeRelocated_eq_ok {α : Type} {request relocated : Request}
    {dispatch : Request → Action (World σ) (Waited α)} {world middle : World σ} {files : FileStore} {result : α}
    {results : List (HostPointer × List UInt8)}
    (relocates : request.relocate world.host world.shared.files = .ok (relocated, files))
    (dispatched : (dispatch relocated).apply { world with shared := { world.shared with files } } =
      (.ok (.ended result), middle))
    (found : request.results relocated middle.shared.files = .ok results)
    (bare : request.hasNoPointerData = true → results = []) :
    (executeRelocated request dispatch).apply world =
      (.ok (.ended result), { middle with host := middle.host.overwriteAll results }) := by
  have moved : (relocateRequest request).apply world =
      (.ok relocated, { world with shared := { world.shared with files } }) := by
    rw [apply_relocateRequest, relocates]
  have taken := Request.takes_of_results (Request.takesResults_of_relocate relocates) found
  unfold executeRelocated
  rw [apply_bind_ok moved, apply_bind_ok dispatched]
  cases needless : request.hasNoPointerData with
  | true =>
    rw [bare needless]
    rfl
  | false =>
    have restored : (restoreRequest request relocated).apply middle =
        (.ok (), { middle with host := middle.host.overwriteAll results }) := by
      refine apply_restoreRequest_eq_iff.mpr ⟨_, ?_, rfl⟩
      rw [Request.restore, found]
      exact HostMemory.writeAll_eq taken
    exact (apply_bind_ok restored).trans rfl

end World

/-- An execution that can be carried succeeds: the endpoint computes once, on exactly the bytes that the caller's
inputs hold, and afterwards every output has its result, in host memory, in shared memory or with the driver,
while all other bytes are unchanged. -/
theorem executions_are_transparent {kernel : Kernel σ} {prepared : PreparedModel σ} {request : Request}
    {settings : ExecutionSettings} {world : World σ} {relocated : Request} {files : FileStore}
    (computes : prepared.endpoint.Computes kernel) (hears : prepared.CanNotify world)
    (carried : Carries prepared.endpoint.dialect.version request)
    (fits : prepared.endpoint.dialect = .aidl → request.FitsAidl) (timed : prepared.Sends settings)
    (relocates : request.relocate world.host world.shared.files = .ok (relocated, files))
    (backed : request.IsBacked world.host world.shared.files)
    (sized : ∀ values, kernel.callerValues world request = .ok values →
      List.Forall₂ Argument.Asks request.outputs (kernel.run world.shared.remote values).1) :
    ∃ values results remote result later,
      kernel.callerValues world request = .ok values ∧
      kernel.run world.shared.remote values = (results, remote) ∧
      (prepared.execute request settings).apply world = (.ok (.ended result), later) ∧
      world.Delivers later request results ∧
      later.shared.remote =
        (request.outputs.zip results).foldl (kernel.keepResult request.pools) remote := by
  have ⟨version, validated, _⟩ := carried
  obtain ⟨-, inputs, outputs⟩ := validate_request_eq_ok_iff.mp validated
  obtain ⟨inputPools, outputPools, moved⟩ := Request.isRelocated_of_relocate backed.inputs relocates
  obtain ⟨values, taken⟩ : ∃ values, kernel.callerValues world request = .ok values :=
    exists_mapM_eq_ok fun input member => kernel.exists_callerInput _ (inputs input member) backed.pools
  have asked := sized values taken
  rcases computed : kernel.run world.shared.remote values with ⟨results, remote⟩
  rw [computed] at asked
  obtain ⟨message, sent⟩ := moved.exists_message prepared.endpoint.dialect carried fits
  have sameFiles : ({ world.shared with files } : Shared σ).files = files := rfl
  obtain ⟨last, served, kept, held⟩ :=
    moved.serve_eq_ok kernel validated backed sent sameFiles taken computed asked
  have hearsThen : prepared.CanNotify { world with shared := { world.shared with files } } := hears
  obtain ⟨result, middle, dispatched, ⟨stored, driver⟩, unchanged⟩ :=
    PreparedModel.dispatch_eq_ok computes hearsThen timed sent served
  obtain rfl : last = middle.shared.files := stored.symm
  have executed := World.executeRelocated_eq_ok relocates dispatched (moved.results_eq_ok held asked)
    fun bare => Request.hostResults_of_hasNoPointerData bare results
  rw [← PreparedModel.execute_eq] at executed
  refine ⟨values, results, remote, result, _, taken, computed, executed, ?_, driver⟩
  exact moved.delivers outputs backed asked held kept (by rw [unchanged])

/-- A kernel that gives the values of its inputs back in reverse order and notes what it was run on. -/
def reversing : Kernel (List (List (Option InputValue))) where
  run calls values := (((values.filterMap id).map InputValue.data).reverse, calls ++ [values])
  held _ _ _ length := List.replicate length 0
  keep calls _ _ _ := calls

def reversingModel : PreparedModel (List (List (Option InputValue))) :=
  ⟨reversing.endpoint .aidl, .standard, 0⟩

/-- Five bytes behind descriptor zero. -/
def fiveBytes : Memory := ⟨⟨[0], []⟩, 5, "five"⟩

/-- An input without a value, one in host memory and one in the pool; an output in the pool and one in host
memory. -/
def mixedRequest : Request where
  inputs := [.withoutValue, ⟨.pointer, ⟨some ⟨0, 0, 3, false⟩, 0, 0, 2⟩, [2]⟩, .ofPool 0 1 2]
  outputs := [.ofPool 0 3 2, ⟨.pointer, ⟨some ⟨1, 0, 4, true⟩, 0, 0, 2⟩, []⟩]
  pools := [.memory fiveBytes]

def mixedWorld : World (List (List (Option InputValue))) :=
  ⟨⟨⟨[.ofBytes [0, 3, 4, 0, 0]]⟩, .empty, [], []⟩, ⟨[[1, 2, 5], [7, 7, 7, 7]]⟩, [], ⟨0⟩⟩

private theorem mixedRequest_isBacked : mixedRequest.IsBacked mixedWorld.host mixedWorld.shared.files where
  inputs := by simp [mixedRequest, mixedWorld, Argument.IsBacked, HostPointer.IsBacked,
    HostMemory.buffer, Argument.withoutValue, Argument.ofPool, DataLocation.empty, DataLocation.inPool]
  outputs := by simp [mixedRequest, mixedWorld, Argument.IsBacked, HostPointer.IsBacked,
    HostMemory.buffer, Argument.ofPool, DataLocation.inPool]
  pools := by
    intro memory member
    cases List.mem_singleton.mp member
    refine ⟨by simp [Handle.IsOpen, fiveBytes]; rfl, 0, .ofBytes [0, 3, 4, 0, 0], rfl, rfl, by decide⟩
  apart := by simp [mixedRequest, Argument.IsApart, Argument.ReachesByte, Argument.ofPool, DataLocation.inPool]
  disjoint := by
    refine .cons ?_ (.cons (by simp) .nil)
    intro output member descriptor position shared
    rcases shared with ⟨-, covered⟩
    cases List.mem_singleton.mp member
    exact absurd covered.1 (by decide)

theorem mixedRequest_reaches {output : Argument} (member : output ∈ mixedRequest.outputs) {buffer position : Nat}
    (reached : output.ReachesByte buffer position) : buffer = 1 ∧ position < 2 := by
  obtain ⟨pointer, present, reaches⟩ := reached
  simp only [mixedRequest, List.mem_cons, List.not_mem_nil, or_false] at member
  obtain rfl | rfl := member
  · cases present
  · obtain rfl := Option.some.inj present
    exact ⟨reaches.buffer_eq.symm, by simpa using reaches.lt_stop⟩

theorem mixed_values_return_reversed :
    ∃ result later,
      (reversingModel.execute mixedRequest ⟨.no, none, none⟩).apply mixedWorld = (.ok (.ended result), later) ∧
      later.host.buffer 0 = [1, 2, 5] ∧ later.host.buffer 1 = [1, 2, 7, 7] ∧
      fiveBytes.read later.shared.files 3 2 = .ok [3, 4] ∧
      later.shared.remote = [[none, some ⟨[1, 2], [2]⟩, some ⟨[3, 4], []⟩]] := by
  have seen : reversing.callerValues mixedWorld mixedRequest =
      .ok [none, some ⟨[1, 2], [2]⟩, some ⟨[3, 4], []⟩] := by rfl
  have computes : reversingModel.endpoint.Computes reversing := reversing.endpoint_computes .aidl
  have carried : Carries reversingModel.endpoint.dialect.version mixedRequest := ⟨.v1_0, rfl, by decide⟩
  have fits : mixedRequest.FitsAidl := by
    refine ⟨?_, ?_, ?_, by decide⟩
    · simp [mixedRequest, Argument.withoutValue, Argument.ofPool]
    · intro memory member
      cases List.mem_singleton.mp member
      decide
    · intro token member
      exact absurd (List.mem_singleton.mp member) nofun
  have timed : reversingModel.Sends ⟨.no, none, none⟩ := fun _ => ⟨⟨false, -1, -1⟩, rfl⟩
  have hears : reversingModel.CanNotify mixedWorld := trivial
  have sized : ∀ values, reversing.callerValues mixedWorld mixedRequest = .ok values →
      List.Forall₂ Argument.Asks mixedRequest.outputs
        (reversing.run mixedWorld.shared.remote values).1 := by
    intro values taken
    cases seen.symm.trans taken
    exact .cons rfl (.cons rfl .nil)
  obtain ⟨values, results, remote, result, later, taken, computed, executed, delivers, driver⟩ :=
    executions_are_transparent computes hears carried (fun _ => fits) timed rfl mixedRequest_isBacked sized
  cases seen.symm.trans taken
  cases computed
  refine ⟨result, later, executed, ?_, ?_, ?_, driver⟩
  · refine delivers.buffer_of_no_output fun output member position reached => ?_
    exact absurd (mixedRequest_reaches member reached).1 (by decide)
  · refine delivers.buffer_of_one_output (List.mem_cons_of_mem _ List.mem_cons_self) rfl ?_
    intro position outside output member reached
    obtain ⟨-, inside⟩ := mixedRequest_reaches member reached
    exact outside.elim (Nat.not_lt_zero position) (Nat.not_le.mpr inside)
  · exact delivers.regions _ List.mem_cons_self fiveBytes rfl rfl

end NeuralDevice
