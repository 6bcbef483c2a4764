import Mathlib.Data.Nat.Find
import NeuralDevice.Device.World
import NeuralDevice.Proofs.Action
import NeuralDevice.Proofs.Relocation.Results

/-!
Results moved back into host memory, for whatever pair of a request and a relocated one. Nothing is written until
the results of all outputs are read from the last pool; then they are written in the order of the outputs, up to
the first output that does not take its own.
-/

namespace NeuralDevice

open Result

/-- The moved output lies in the last pool, as long as the given one, and the pool has the bytes there. -/
structure Argument.HasResult (last : Nat) (memory : Memory) (store : FileStore) (given moved : Argument)
    (data : List UInt8) : Prop where
  lifetime : moved.lifetime = .pool
  length : moved.location.length = given.location.length
  pool : moved.location.poolIndex.toNat = last
  inside : moved.location.offset.toNat + moved.location.length.toNat ≤ memory.size.toNat
  bytes : ∃ descriptor file, memory.handle.descriptors.head? = some descriptor ∧
    store.open? descriptor = some file ∧
    (moved.location.length.toNat = 0 ∨
      moved.location.offset.toNat + moved.location.length.toNat ≤ file.size ∧
        moved.location.offset.toNat + moved.location.length.toNat < fileSizeLimit) ∧
    file.slice moved.location.offset.toNat moved.location.length.toNat = data

/-- Each output in host memory has its result in the last pool of the relocated request. -/
structure Request.HasResults (request relocated : Request) (memory : Memory) (store : FileStore)
    (results : List (List UInt8)) : Prop where
  count : request.outputs.length = relocated.outputs.length
  found : List.Forall₂
    (fun pair data => pair.1.isInHost = true →
      pair.1.HasResult (relocated.pools.length - 1) memory store pair.2 data)
    (request.outputs.zip relocated.outputs) results

namespace Argument

variable {memory : Memory} {last : Nat} {store : FileStore} {given moved : Argument} {data : List UInt8}

theorem hasResult_iff :
    given.HasResult last memory store moved data ↔
      moved.lifetime = .pool ∧ moved.location.length = given.location.length ∧
        moved.location.poolIndex.toNat = last ∧
        memory.read store moved.location.offset.toNat moved.location.length.toNat = .ok data := by
  rw [Memory.read_eq_ok_iff]
  constructor
  · intro found
    obtain ⟨descriptor, file, first, opened, fits, sliced⟩ := found.bytes
    exact ⟨found.lifetime, found.length, found.pool, descriptor, file, first, opened, found.inside, fits, sliced⟩
  · intro parts
    obtain ⟨lifetime, length, pool, descriptor, file, first, opened, inside, fits, sliced⟩ := parts
    exact ⟨lifetime, length, pool, inside, descriptor, file, first, opened, fits, sliced⟩

theorem HasResult.asks (found : given.HasResult last memory store moved data) : given.Asks data := by
  obtain ⟨-, length, -, read⟩ := hasResult_iff.mp found
  rw [Asks, Memory.length_of_read read, length]

theorem takes_iff {pointer : HostPointer} (present : given.location.pointer = some pointer)
    (sized : given.Asks data) : pointer.Takes data ↔ given.TakesResults := by
  unfold HostPointer.Takes TakesResults
  rw [sized]
  simp [present]

end Argument

namespace Request

private theorem outputResult_eq_ok_iff {memory : Memory} {last output : Nat} {store : FileStore}
    {given moved : Argument} {value : Option (HostPointer × List UInt8)} :
    outputResult memory last store output given moved = .ok value ↔
      ∃ data, (given.isInHost = true → given.HasResult last memory store moved data) ∧
        (given.location.pointer.map fun pointer => (pointer, data)) = value := by
  unfold outputResult
  cases present : given.location.pointer with
  | none => simp [Argument.isInHost, present, pure_eq_ok_iff]
  | some pointer =>
    have inHost : given.isInHost = true := by simp [Argument.isInHost, present]
    simp only [bind_eq_ok_iff, throw_bind, refuse_eq_ok_iff, pure_eq_ok_iff, ne_eq, not_not, Argument.hasResult_iff,
      inHost, forall_const, Option.map_some]
    constructor
    · intro done
      obtain ⟨lifetime, length, pool, data, read, same⟩ := done
      exact ⟨data, ⟨lifetime, length, pool, read⟩, same⟩
    · intro parts
      obtain ⟨data, ⟨lifetime, length, pool, read⟩, same⟩ := parts
      exact ⟨lifetime, length, pool, data, read, same⟩

private theorem mapM_outputResult_eq_ok_iff {memory : Memory} {last : Nat} {store : FileStore}
    {pairs : List (Argument × Argument)} {values : List (Option (HostPointer × List UInt8))} (start : Nat) :
    (pairs.zipIdx start).mapM (fun ((given, moved), output) => outputResult memory last store output given moved) =
        .ok values ↔
      ∃ results, List.Forall₂
          (fun pair data => pair.1.isInHost = true → pair.1.HasResult last memory store pair.2 data) pairs results ∧
        ((pairs.map Prod.fst).zip results).map
          (fun (given, data) => given.location.pointer.map fun pointer => (pointer, data)) = values := by
  induction pairs generalizing values start with
  | nil => simp [pure_eq_ok_iff]
  | cons pair rest ih =>
    simp only [List.zipIdx_cons, List.mapM_cons, bind_eq_ok_iff, pure_eq_ok_iff, ih, outputResult_eq_ok_iff,
      List.forall₂_cons_left_iff]
    constructor
    · intro done
      obtain ⟨_, ⟨data, own, rfl⟩, _, ⟨results, others, rfl⟩, rfl⟩ := done
      exact ⟨data :: results, ⟨data, results, own, others, rfl⟩, rfl⟩
    · intro parts
      obtain ⟨_, ⟨data, results, own, others, rfl⟩, rfl⟩ := parts
      exact ⟨_, ⟨data, own, rfl⟩, _, ⟨results, others, rfl⟩, rfl⟩

variable {request relocated : Request} {store : FileStore} {memory : Memory}
  {writes : List (HostPointer × List UInt8)}

theorem results_eq_ok_iff (last : relocated.pools.getLast? = some (.memory memory)) :
    request.results relocated store = .ok writes ↔
      ∃ results, request.HasResults relocated memory store results ∧ request.hostResults results = writes := by
  unfold Request.results
  simp only [last, bind_eq_ok_iff, throw_bind, refuse_eq_ok_iff, pure_eq_ok_iff, ne_eq, not_not,
    mapM_outputResult_eq_ok_iff]
  constructor
  · intro done
    obtain ⟨count, _, ⟨results, found, rfl⟩, rfl⟩ := done
    refine ⟨results, ⟨count, found⟩, ?_⟩
    rw [List.map_fst_zip (Nat.le_of_eq count), List.filterMap_map]
    rfl
  · intro parts
    obtain ⟨results, found, rfl⟩ := parts
    refine ⟨found.count, _, ⟨results, found.found, rfl⟩, ?_⟩
    rw [List.map_fst_zip (Nat.le_of_eq found.count), List.filterMap_map]
    rfl

theorem results_of_no_memory (missing : ∀ memory, relocated.pools.getLast? ≠ some (.memory memory)) :
    request.results relocated store = .ok [] := by
  unfold Request.results
  split
  · rename_i memory last
    exact absurd last (missing memory)
  · rfl
  · rfl

namespace IsRelocated

variable {host : HostMemory} {later last : FileStore} {inputPools outputPools : List MemoryPool}
  {results : List (List UInt8)}

private theorem hasResults (moved : request.IsRelocated host store later relocated inputPools outputPools)
    (held : ∀ result ∈ relocated.outputs.zip results, result.1.Holds relocated.pools last result.2)
    (sized : List.Forall₂ Argument.Asks request.outputs results)
    (final : relocated.pools.getLast? = some (.memory memory)) :
    request.HasResults relocated memory last results := by
  have count := moved.outputs_placed.length_eq
  refine ⟨count, List.forall₂_iff_zip.mpr ⟨?_, ?_⟩⟩
  · rw [List.length_zip, ← count, Nat.min_self]
    exact sized.length_eq
  · intro pair data member inHost
    obtain ⟨given, placed⟩ := pair
    obtain ⟨place, found⟩ := List.mem_iff_getElem?.mp member
    obtain ⟨paired, present⟩ := List.getElem?_zip_eq_some.mp found
    obtain ⟨here, there⟩ := List.getElem?_zip_eq_some.mp paired
    have holds := held (placed, data) (List.mem_of_getElem? (List.getElem?_zip_eq_some.mpr ⟨there, present⟩))
    obtain ⟨offset, rfl⟩ := List.forall₂_zip moved.outputs_placed (List.mem_of_getElem? paired)
    obtain ⟨other, ends, located, index⟩ := moved.last_pool (List.mem_of_getElem? here) inHost
    obtain rfl : memory = other := by simpa using final.symm.trans ends
    simp only [Argument.Holds, Argument.placeAt, inHost, if_true, DataLocation.inPool, index] at holds
    refine Argument.hasResult_iff.mpr ⟨?_, Argument.length_placeAt _ _ _, ?_, ?_⟩
    all_goals simp only [Argument.placeAt, inHost, if_true, DataLocation.inPool]
    · exact index
    · exact holds memory trivial located

theorem results_eq_ok (moved : request.IsRelocated host store later relocated inputPools outputPools)
    (held : ∀ result ∈ relocated.outputs.zip results, result.1.Holds relocated.pools last result.2)
    (sized : List.Forall₂ Argument.Asks request.outputs results) :
    request.results relocated last = .ok (request.hostResults results) := by
  by_cases ends : ∃ memory, relocated.pools.getLast? = some (.memory memory)
  · obtain ⟨memory, final⟩ := ends
    exact (results_eq_ok_iff final).mpr ⟨results, moved.hasResults held sized final, rfl⟩
  · have missing := not_exists.mp ends
    rw [results_of_no_memory missing, moved.hostResults_eq_nil missing]

end IsRelocated

private theorem HasResults.exists_moved {results : List (List UInt8)} {place : Nat} {output : Argument}
    {data : List UInt8} (found : request.HasResults relocated memory store results)
    (given : request.outputs[place]? = some output) (present : results[place]? = some data)
    (inHost : output.isInHost = true) :
    ∃ moved, relocated.outputs[place]? = some moved ∧
      output.HasResult (relocated.pools.length - 1) memory store moved data := by
  obtain ⟨inside, rfl⟩ := List.getElem?_eq_some_iff.mp given
  obtain ⟨within, rfl⟩ := List.getElem?_eq_some_iff.mp present
  have paired := (List.forall₂_iff_get.mp found.found).2 place
    (by simpa [← found.count] using inside) within
  have moved : place < relocated.outputs.length := found.count ▸ inside
  refine ⟨relocated.outputs[place], List.getElem?_eq_getElem moved, ?_⟩
  simpa using paired (by simpa using inHost)

theorem mem_hostResults_iff_getElem? {results : List (List UInt8)} {write : HostPointer × List UInt8} :
    write ∈ request.hostResults results ↔
      ∃ (place : Nat) (output : Argument), request.outputs[place]? = some output ∧
        results[place]? = some write.2 ∧ output.location.pointer = some write.1 := by
  rw [mem_hostResults_iff]
  simp only [List.mem_iff_getElem?, List.getElem?_zip_eq_some]
  constructor
  · intro listed
    obtain ⟨output, ⟨place, given, present⟩, pointed⟩ := listed
    exact ⟨place, output, given, present, pointed⟩
  · intro parts
    obtain ⟨place, output, given, present, pointed⟩ := parts
    exact ⟨output, ⟨place, given, present⟩, pointed⟩

/-- The result of an output comes after those of the outputs before it, and before those of the outputs after it. -/
theorem hostResults_eq_append {results : List (List UInt8)} {place : Nat} {output : Argument}
    {pointer : HostPointer} {data : List UInt8} (given : request.outputs[place]? = some output)
    (present : results[place]? = some data) (pointed : output.location.pointer = some pointer) :
    request.hostResults results = request.hostResults (results.take place) ++ (pointer, data) ::
      { request with outputs := request.outputs.drop (place + 1) }.hostResults (results.drop (place + 1)) := by
  obtain ⟨inside, rfl⟩ := List.getElem?_eq_some_iff.mp given
  obtain ⟨within, rfl⟩ := List.getElem?_eq_some_iff.mp present
  -- Both lists are cut at the place, and what is zipped is zipped before, at and after it.
  have outputs := List.take_append_drop place request.outputs
  have found := List.take_append_drop place results
  rw [List.drop_eq_getElem_cons inside] at outputs
  rw [List.drop_eq_getElem_cons within] at found
  have lengths : (request.outputs.take place).length = (results.take place).length := by
    simp only [List.length_take]
    omega
  have first : request.outputs.zip (results.take place) =
      (request.outputs.take place).zip (results.take place) := by
    have extended := @List.zip_append _ _ _ (request.outputs[place] :: request.outputs.drop (place + 1)) _ []
      lengths
    rwa [outputs, List.append_nil, List.zip_nil_right, List.append_nil] at extended
  have whole : request.outputs.zip results = (request.outputs.take place).zip (results.take place) ++
      (request.outputs[place], results[place]) ::
        (request.outputs.drop (place + 1)).zip (results.drop (place + 1)) := by
    have extended := @List.zip_append _ _ _ (request.outputs[place] :: request.outputs.drop (place + 1)) _
      (results[place] :: results.drop (place + 1)) lengths
    rwa [outputs, found, List.zip_cons_cons] at extended
  unfold hostResults
  simp only [whole, first, List.filterMap_append, List.filterMap_cons, pointed, Option.map_some]

variable {results : List (List UInt8)}

theorem HasResults.asks (found : request.HasResults relocated memory store results) {place : Nat}
    {output : Argument} {data : List UInt8} (given : request.outputs[place]? = some output)
    (present : results[place]? = some data) {pointer : HostPointer}
    (pointed : output.location.pointer = some pointer) : output.Asks data := by
  obtain ⟨moved, -, has⟩ := found.exists_moved given present (by simp [Argument.isInHost, pointed])
  exact has.asks

theorem HasResults.length (found : request.HasResults relocated memory store results) :
    results.length = request.outputs.length := by
  rw [← found.found.length_eq, List.length_zip, ← found.count, Nat.min_self]

theorem HasResults.takes_iff (found : request.HasResults relocated memory store results) :
    (∀ write ∈ request.hostResults results, write.1.Takes write.2) ↔
      ∀ output ∈ request.outputs, output.TakesResults := by
  simp only [mem_hostResults_iff_getElem?]
  constructor
  · intro taken output member pointer pointed
    obtain ⟨place, given⟩ := List.mem_iff_getElem?.mp member
    have within : place < results.length := found.length ▸ (List.getElem?_eq_some_iff.mp given).1
    have present := List.getElem?_eq_getElem within
    have asked := found.asks given present pointed
    have takes := taken (pointer, _) ⟨place, output, given, present, pointed⟩
    exact (Argument.takes_iff pointed asked).mp takes pointer pointed
  · intro taken write listed
    obtain ⟨place, output, given, present, pointed⟩ := listed
    have asked := found.asks given present pointed
    exact (Argument.takes_iff pointed asked).mpr (taken output (List.mem_of_getElem? given))

/-- Of the bytes of the caller, those that outputs reach are the results of the last of them; others are kept. -/
structure HasRestored (request : Request) (results : List (List UInt8)) (host later : HostMemory) : Prop where
  reached : ∀ (place : Nat) (output : Argument) (pointer : HostPointer) (data : List UInt8) (index : Nat),
    request.outputs[place]? = some output → output.location.pointer = some pointer → results[place]? = some data →
    index < output.location.length.toNat → pointer.offset + index < (host.buffer pointer.buffer).length →
    (∀ (other : Nat) (next : Argument), place < other → request.outputs[other]? = some next →
      ¬next.ReachesByte pointer.buffer (pointer.offset + index)) →
    (later.buffer pointer.buffer)[pointer.offset + index]? = data[index]?
  unreached : ∀ buffer position : Nat, (∀ output ∈ request.outputs, ¬output.ReachesByte buffer position) →
    (later.buffer buffer)[position]? = (host.buffer buffer)[position]?

theorem HasResults.hasRestored (found : request.HasResults relocated memory store results) (host : HostMemory) :
    request.HasRestored results host (host.overwriteAll (request.hostResults results)) where
  reached := by
    intro place output pointer data index given pointed present inside backed last
    rw [hostResults_eq_append given present pointed]
    have reached : pointer.Reaches data.length pointer.buffer (pointer.offset + index) := by
      rw [found.asks given present pointed]
      exact ⟨rfl, Nat.le_add_right _ _, Nat.add_lt_add_left inside _⟩
    refine (HostMemory.getElem?_overwriteAll_last reached backed ?_).trans (by rw [Nat.add_sub_cancel_left])
    intro write listed reaches
    obtain ⟨further, next, following, follows, points⟩ := mem_hostResults_iff_getElem?.mp listed
    -- What comes after the result belongs to an output after its own.
    rw [List.getElem?_drop] at following follows
    have asked := found.asks following follows points
    exact last (place + 1 + further) next (by omega) following ((Argument.reachesByte_iff points asked).mpr reaches)
  unreached := by
    intro buffer position unreached
    refine HostMemory.getElem?_overwriteAll_unreached ?_
    intro write listed reached
    obtain ⟨place, output, given, present, pointed⟩ := mem_hostResults_iff_getElem?.mp listed
    have asked := found.asks given present pointed
    exact unreached output (List.mem_of_getElem? given) ((Argument.reachesByte_iff pointed asked).mpr reached)

/-- The first output that does not take its result. -/
structure FirstRefusal (request : Request) (place : Nat) : Prop where
  refused : ∃ output, request.outputs[place]? = some output ∧ ¬output.TakesResults
  taken : ∀ (earlier : Nat) (output : Argument), earlier < place → request.outputs[earlier]? = some output →
    output.TakesResults

private theorem exists_firstRefusal (refused : ¬∀ output ∈ request.outputs, output.TakesResults) :
    ∃ place, request.FirstRefusal place := by
  classical
  have somewhere : ∃ (place : Nat) (output : Argument), request.outputs[place]? = some output ∧
      ¬output.TakesResults := by
    obtain ⟨output, member, refuses⟩ : ∃ output ∈ request.outputs, ¬output.TakesResults := by
      by_contra none
      exact refused fun output member => by_contra fun refuses => none ⟨output, member, refuses⟩
    obtain ⟨place, given⟩ := List.mem_iff_getElem?.mp member
    exact ⟨place, output, given, refuses⟩
  refine ⟨Nat.find somewhere, Nat.find_spec somewhere, ?_⟩
  intro earlier output before given
  by_contra refuses
  exact Nat.find_min somewhere before ⟨output, given, refuses⟩

private theorem HasResults.writeAll_of_firstRefusal (found : request.HasResults relocated memory store results)
    {place : Nat} (first : request.FirstRefusal place) (host : HostMemory) :
    ∃ error, host.writeAll (request.hostResults results) =
      (.error error, host.overwriteAll (request.hostResults (results.take place))) := by
  obtain ⟨output, given, refuses⟩ := first.refused
  obtain ⟨pointer, pointed⟩ : ∃ pointer, output.location.pointer = some pointer := by
    by_contra absent
    exact refuses fun pointer pointed => absurd ⟨pointer, pointed⟩ absent
  have within : place < results.length := found.length ▸ (List.getElem?_eq_some_iff.mp given).1
  have present := List.getElem?_eq_getElem within
  have asked := found.asks given present pointed
  rw [hostResults_eq_append given present pointed]
  -- Outputs without a pointer take anything, so the first refusal is the first result that may not be written.
  refine HostMemory.writeAll_append_refused ?_ (mt (Argument.takes_iff pointed asked).mp refuses)
  intro write listed
  obtain ⟨earlier, other, has, shown, points⟩ := mem_hostResults_iff_getElem?.mp listed
  rw [List.getElem?_take] at shown
  split at shown
  · rename_i before
    exact (Argument.takes_iff points (found.asks has shown points)).mpr (first.taken earlier other before has)
  · cases shown

/-- Moving back fails before anything is written, has nothing to write, or writes the results of all outputs, or of
those before the first refusal. -/
theorem restore_cases (request relocated : Request) (store : FileStore) (host : HostMemory) :
    (∃ error, request.restore relocated store host = (.error error, host)) ∨
    (∀ memory, relocated.pools.getLast? ≠ some (.memory memory)) ∧
      request.restore relocated store host = (.ok (), host) ∨
    ∃ memory results, relocated.pools.getLast? = some (.memory memory) ∧
      request.HasResults relocated memory store results ∧
      ((∀ output ∈ request.outputs, output.TakesResults) ∧
        request.restore relocated store host = (.ok (), host.overwriteAll (request.hostResults results)) ∨
      ∃ place error, request.FirstRefusal place ∧ request.restore relocated store host =
        (.error error, host.overwriteAll (request.hostResults (results.take place)))) := by
  unfold restore
  by_cases ends : ∃ memory, relocated.pools.getLast? = some (.memory memory)
  · obtain ⟨memory, last⟩ := ends
    cases read : request.results relocated store with
    | error error => exact .inl ⟨error, rfl⟩
    | ok writes =>
      obtain ⟨results, found, rfl⟩ := (results_eq_ok_iff last).mp read
      refine .inr (.inr ⟨memory, results, last, found, ?_⟩)
      by_cases taken : ∀ output ∈ request.outputs, output.TakesResults
      · exact .inl ⟨taken, HostMemory.writeAll_eq (found.takes_iff.mpr taken)⟩
      · obtain ⟨place, first⟩ := exists_firstRefusal taken
        obtain ⟨error, stopped⟩ := found.writeAll_of_firstRefusal first host
        exact .inr ⟨place, error, first, stopped⟩
  · have missing : ∀ memory, relocated.pools.getLast? ≠ some (.memory memory) := not_exists.mp ends
    rw [results_of_no_memory missing]
    exact .inr (.inl ⟨missing, rfl⟩)

/-- Moving back succeeds if there is nothing to move, or if the outputs have results in the last pool and take them. -/
theorem restore_eq_ok_iff {store : FileStore} {host later : HostMemory} :
    request.restore relocated store host = (.ok (), later) ↔
      (∀ memory, relocated.pools.getLast? ≠ some (.memory memory)) ∧ host = later ∨
      ∃ memory results, relocated.pools.getLast? = some (.memory memory) ∧
        request.HasResults relocated memory store results ∧
        (∀ output ∈ request.outputs, output.TakesResults) ∧
        host.overwriteAll (request.hostResults results) = later := by
  constructor
  · intro done
    obtain ⟨error, failed⟩ | ⟨missing, kept⟩ | ⟨memory, results, last, found, outcome⟩ :=
      request.restore_cases relocated store host
    · cases done.symm.trans failed
    · exact .inl ⟨missing, (Prod.mk.inj (kept.symm.trans done)).2⟩
    · obtain ⟨taken, written⟩ | ⟨place, error, -, stopped⟩ := outcome
      · exact .inr ⟨memory, results, last, found, taken, (Prod.mk.inj (written.symm.trans done)).2⟩
      · cases done.symm.trans stopped
  · intro can
    unfold restore
    obtain ⟨missing, rfl⟩ | ⟨memory, results, last, found, taken, rfl⟩ := can
    · rw [results_of_no_memory missing]
      rfl
    · rw [(results_eq_ok_iff last).mpr ⟨results, found, rfl⟩]
      exact HostMemory.writeAll_eq (found.takes_iff.mpr taken)

theorem takes_of_results {store : FileStore} {writes : List (HostPointer × List UInt8)}
    (taken : ∀ output ∈ request.outputs, output.TakesResults)
    (read : request.results relocated store = .ok writes) : ∀ write ∈ writes, write.1.Takes write.2 := by
  by_cases ends : ∃ memory, relocated.pools.getLast? = some (.memory memory)
  · obtain ⟨memory, last⟩ := ends
    obtain ⟨results, found, rfl⟩ := (results_eq_ok_iff last).mp read
    exact found.takes_iff.mpr taken
  · rw [results_of_no_memory (not_exists.mp ends)] at read
    cases read
    exact List.forall_mem_nil _

theorem restore_error {store : FileStore} {host later : HostMemory} {error : Error}
    (taken : ∀ output ∈ request.outputs, output.TakesResults)
    (failed : request.restore relocated store host = (.error error, later)) : later = host := by
  obtain ⟨reason, unread⟩ | ⟨-, kept⟩ | ⟨memory, results, -, -, outcome⟩ :=
    request.restore_cases relocated store host
  · exact (Prod.mk.inj (failed.symm.trans unread)).2
  · cases failed.symm.trans kept
  · obtain ⟨-, written⟩ | ⟨place, reason, first, -⟩ := outcome
    · cases failed.symm.trans written
    · obtain ⟨output, given, refuses⟩ := first.refused
      exact absurd (taken output (List.mem_of_getElem? given)) refuses

end Request

namespace World

variable {σ : Type} {world later : World σ} {request relocated : Request}

theorem apply_restoreRequest_eq_iff {outcome : Result Unit} :
    (restoreRequest request relocated).apply world = (outcome, later) ↔
      ∃ host, request.restore relocated world.shared.files world.host = (outcome, host) ∧
        { world with host } = later := by
  unfold restoreRequest
  rw [Action.apply_ofStep]
  rcases request.restore relocated world.shared.files world.host with ⟨written, host⟩
  simp

/-- Moving results back succeeds exactly if the last pool is no memory, and then nothing is written, or if all outputs
have results there and take them: these are written in order and nothing else. -/
theorem restored_outputs_hold_results :
    (restoreRequest request relocated).apply world = (.ok (), later) ↔
      (∀ memory, relocated.pools.getLast? ≠ some (.memory memory)) ∧ later = world ∨
      ∃ memory results, relocated.pools.getLast? = some (.memory memory) ∧
        request.HasResults relocated memory world.shared.files results ∧
        (∀ output ∈ request.outputs, output.TakesResults) ∧
        later = { world with host := world.host.overwriteAll (request.hostResults results) } ∧
        request.HasRestored results world.host later.host := by
  simp only [apply_restoreRequest_eq_iff, Request.restore_eq_ok_iff]
  constructor
  · intro done
    obtain ⟨host, ⟨missing, rfl⟩ | ⟨memory, results, last, found, taken, rfl⟩, rfl⟩ := done
    · exact .inl ⟨missing, rfl⟩
    · exact .inr ⟨memory, results, last, found, taken, rfl, found.hasRestored world.host⟩
  · intro can
    obtain ⟨missing, rfl⟩ | ⟨memory, results, last, found, taken, rfl, -⟩ := can
    · exact ⟨_, .inl ⟨missing, rfl⟩, rfl⟩
    · exact ⟨_, .inr ⟨memory, results, last, found, taken, rfl⟩, rfl⟩

/-- Two outputs of which the second starts at the last byte of the first and goes past it, with one outside host
memory between them. -/
def overlapping : Request :=
  ⟨[], [⟨.pointer, ⟨some ⟨0, 0, 5, true⟩, 0, 0, 3⟩, []⟩, .withoutValue,
    ⟨.pointer, ⟨some ⟨0, 2, 3, true⟩, 0, 0, 2⟩, []⟩], []⟩

/-- Their places in a pool of five bytes. -/
def overlappingMoved : Request :=
  ⟨[], [.ofPool 0 0 3, .withoutValue, .ofPool 0 3 2], [.memory ⟨⟨[0], []⟩, 5, "results"⟩]⟩

/-- The pool with results, and the buffers of a caller. -/
def finished (buffers : List (List UInt8)) : World Unit :=
  ⟨⟨⟨[.ofBytes [1, 2, 3, 4, 5]]⟩, .empty, [], ()⟩, ⟨buffers⟩, [], ⟨0⟩⟩

theorem overlapping_outputs_hold_results :
    (restoreRequest overlapping overlappingMoved).apply (finished [[10, 11, 12, 13, 14]]) =
        (.ok (), finished [[1, 2, 4, 5, 14]]) ∧
      ∃ memory results, overlappingMoved.pools.getLast? = some (.memory memory) ∧
        overlapping.HasResults overlappingMoved memory (finished [[10, 11, 12, 13, 14]]).shared.files results ∧
        overlapping.HasRestored results ⟨[[10, 11, 12, 13, 14]]⟩ ⟨[[1, 2, 4, 5, 14]]⟩ := by
  have restored : (restoreRequest overlapping overlappingMoved).apply (finished [[10, 11, 12, 13, 14]]) =
      (.ok (), finished [[1, 2, 4, 5, 14]]) := rfl
  obtain ⟨missing, -⟩ | ⟨memory, results, last, found, -, -, holds⟩ := restored_outputs_hold_results.mp restored
  · exact absurd rfl (missing _)
  · exact ⟨restored, memory, results, last, found, holds⟩

/-- If moving back fails, nothing was written, unless an output did not take its result: then the results of the
outputs before it were. -/
theorem failed_restorations_stop_at_refusals {error : Error}
    (failed : (restoreRequest request relocated).apply world = (.error error, later)) :
    ((∀ output ∈ request.outputs, output.TakesResults) → later = world) ∧
    (later = world ∨
      ∃ memory results place, relocated.pools.getLast? = some (.memory memory) ∧
        request.HasResults relocated memory world.shared.files results ∧ request.FirstRefusal place ∧
        later = { world with host := world.host.overwriteAll (request.hostResults (results.take place)) }) := by
  obtain ⟨host, done, rfl⟩ := apply_restoreRequest_eq_iff.mp failed
  constructor
  · intro taken
    rw [Request.restore_error taken done]
  · obtain ⟨reason, unread⟩ | ⟨missing, kept⟩ | ⟨memory, results, last, found, outcome⟩ :=
      request.restore_cases relocated world.shared.files world.host
    · obtain ⟨-, rfl⟩ := Prod.mk.inj (done.symm.trans unread)
      exact .inl rfl
    · cases done.symm.trans kept
    · obtain ⟨taken, written⟩ | ⟨place, reason, first, stopped⟩ := outcome
      · cases done.symm.trans written
      · obtain ⟨-, rfl⟩ := Prod.mk.inj (done.symm.trans stopped)
        exact .inr ⟨memory, results, place, last, found, first, rfl⟩

/-- Two outputs, the second in memory that is not to be written. -/
def halfWritable : Request :=
  ⟨[], [⟨.pointer, ⟨some ⟨0, 0, 2, true⟩, 0, 0, 2⟩, []⟩, ⟨.pointer, ⟨some ⟨1, 0, 2, false⟩, 0, 0, 2⟩, []⟩], []⟩

/-- Their places in a pool of four bytes. -/
def halfWritableMoved : Request :=
  ⟨[], [.ofPool 0 0 2, .ofPool 0 2 2], [.memory ⟨⟨[0], []⟩, 4, "results"⟩]⟩

theorem half_writable_outputs_stop :
    (restoreRequest halfWritable halfWritableMoved).apply (finished [[10, 11], [12, 13]]) =
        (.error HostFault.readOnly.error, finished [[1, 2], [12, 13]]) ∧
      ∃ memory results place, halfWritableMoved.pools.getLast? = some (.memory memory) ∧
        halfWritable.HasResults halfWritableMoved memory (finished [[10, 11], [12, 13]]).shared.files results ∧
        halfWritable.FirstRefusal place ∧ finished [[1, 2], [12, 13]] =
          { finished [[10, 11], [12, 13]] with
            host := (finished [[10, 11], [12, 13]]).host.overwriteAll
              (halfWritable.hostResults (results.take place)) } := by
  have failed : (restoreRequest halfWritable halfWritableMoved).apply (finished [[10, 11], [12, 13]]) =
      (.error HostFault.readOnly.error, finished [[1, 2], [12, 13]]) := rfl
  refine ⟨failed, (failed_restorations_stop_at_refusals failed).2.resolve_left fun same => ?_⟩
  cases congrArg (fun world => world.host.buffers) same

/-- A restoration can fail after it has written a result. -/
theorem failed_restorations_can_write :
    ¬∀ (request relocated : Request) (world later : World Unit) (error : Error),
      (restoreRequest request relocated).apply world = (.error error, later) → later.host = world.host := by
  intro clean
  cases clean halfWritable halfWritableMoved (finished [[10, 11], [12, 13]]) _ _ rfl

end World

end NeuralDevice
