import NeuralDevice.Proofs.Result
import NeuralDevice.Relocation.Request

/-!
Reading and writing the caller's buffers. A write changes the bytes behind one pointer and nothing else; a sequence
of writes that all fit is carried out completely, and of those that reach a byte the last one counts.
-/

namespace NeuralDevice

open Result

/-- The caller's buffer goes on behind the pointer for as long as the pointer promises. -/
def HostPointer.IsBacked (host : HostMemory) (pointer : HostPointer) : Prop :=
  pointer.offset + pointer.size.toNat ≤ (host.buffer pointer.buffer).length

/-- The byte of a buffer is one of the first `length` behind the pointer. -/
structure HostPointer.Reaches (pointer : HostPointer) (length buffer position : Nat) : Prop where
  buffer_eq : pointer.buffer = buffer
  offset_le : pointer.offset ≤ position
  lt_stop : position < pointer.offset + length

namespace HostPointer

theorem checkLength_eq_ok_iff {pointer : HostPointer} {length : Nat} {passed : Unit} :
    pointer.checkLength length = .ok passed ↔ length ≤ pointer.size.toNat := by
  simp [checkLength, refuse_eq_ok_iff, pure_eq_ok_iff]

theorem read_eq_ok_iff {pointer : HostPointer} {host : HostMemory} {length : Nat}
    {data : List UInt8} :
    pointer.read host length = .ok data ↔ length ≤ pointer.size.toNat ∧ host.behind pointer length = data := by
  simp only [read, bind_eq_ok_iff, checkLength_eq_ok_iff, pure_eq_ok_iff, exists_const]

theorem write_eq_ok_iff {pointer : HostPointer} {host later : HostMemory} {data : List UInt8} :
    pointer.write host data = .ok later ↔
      pointer.isWritable = true ∧ data.length ≤ pointer.size.toNat ∧ host.overwrite pointer data = later := by
  simp only [write, bind_eq_ok_iff, throw_bind, refuse_eq_ok_iff, checkLength_eq_ok_iff,
    pure_eq_ok_iff, exists_const, Bool.not_eq_true', Bool.not_eq_false]

/-- Whether `data` may be written through the pointer. -/
def Takes (pointer : HostPointer) (data : List UInt8) : Prop :=
  pointer.isWritable = true ∧ data.length ≤ pointer.size.toNat

theorem write_of_takes {pointer : HostPointer} {data : List UInt8} (taken : pointer.Takes data)
    (host : HostMemory) : pointer.write host data = .ok (host.overwrite pointer data) :=
  write_eq_ok_iff.mpr ⟨taken.1, taken.2, rfl⟩

end HostPointer

namespace HostMemory

variable {host : HostMemory} {pointer : HostPointer} {data : List UInt8} {buffer position : Nat}

theorem length_behind {length : Nat} (backed : pointer.IsBacked host) (fits : length ≤ pointer.size.toNat) :
    (host.behind pointer length).length = length := by
  unfold HostPointer.IsBacked at backed
  simp only [behind, List.length_take, List.length_drop]
  omega

theorem buffer_overwrite_other (differs : pointer.buffer ≠ buffer) :
    (host.overwrite pointer data).buffer buffer = host.buffer buffer := by
  simp [HostMemory.buffer, overwrite, differs]

theorem buffer_overwrite_same (host : HostMemory) (pointer : HostPointer) (data : List UInt8) :
    (host.overwrite pointer data).buffer pointer.buffer =
      (host.buffer pointer.buffer).mapIdx fun position byte =>
        if position < pointer.offset then byte else data.getD (position - pointer.offset) byte := by
  cases found : host.buffers[pointer.buffer]? with
  | none => simp [HostMemory.buffer, overwrite, found]
  | some bytes => simp [HostMemory.buffer, overwrite, found]

/-- A byte that a write does not reach is as before, whether the buffer has it or not. -/
private theorem getElem?_overwrite_unreached (unreached : ¬pointer.Reaches data.length buffer position) :
    ((host.overwrite pointer data).buffer buffer)[position]? = (host.buffer buffer)[position]? := by
  by_cases same : pointer.buffer = buffer
  · obtain rfl := same
    have kept : ∀ byte, (if position < pointer.offset then byte
        else data.getD (position - pointer.offset) byte) = byte := by
      intro byte
      split
      · rfl
      · rename_i after
        have past : data.length ≤ position - pointer.offset := by
          by_contra inside
          exact unreached ⟨rfl, Nat.not_lt.mp after, by omega⟩
        rw [List.getD_eq_getElem?_getD, List.getElem?_eq_none past, Option.getD_none]
    simp only [buffer_overwrite_same, List.getElem?_mapIdx, kept, Option.map_id']
  · rw [buffer_overwrite_other same]

private theorem getElem?_overwrite_reached (reached : pointer.Reaches data.length buffer position)
    (present : position < (host.buffer buffer).length) :
    ((host.overwrite pointer data).buffer buffer)[position]? = data[position - pointer.offset]? := by
  obtain ⟨rfl, start, stop⟩ := reached
  have inside : position - pointer.offset < data.length := by omega
  rw [buffer_overwrite_same, List.getElem?_mapIdx, List.getElem?_eq_getElem present, Option.map_some,
    if_neg (Nat.not_lt.mpr start), List.getD_eq_getElem?_getD, List.getElem?_eq_getElem inside, Option.getD_some]

private theorem length_buffer_overwrite (host : HostMemory) (pointer : HostPointer) (data : List UInt8) (buffer : Nat) :
    ((host.overwrite pointer data).buffer buffer).length = (host.buffer buffer).length := by
  by_cases same : pointer.buffer = buffer
  · obtain rfl := same
    rw [buffer_overwrite_same, List.length_mapIdx]
  · rw [buffer_overwrite_other same]

/-- The buffers after all results are written. -/
def overwriteAll (host : HostMemory) (results : List (HostPointer × List UInt8)) : HostMemory :=
  results.foldl (fun host (pointer, data) => host.overwrite pointer data) host

private theorem writeAll_eq_ok_iff {host later : HostMemory} {results : List (HostPointer × List UInt8)} :
    host.writeAll results = (.ok (), later) ↔
      (∀ result ∈ results, result.1.Takes result.2) ∧ host.overwriteAll results = later := by
  induction results generalizing host with
  | nil => simp [writeAll, overwriteAll]
  | cons result rest ih =>
    obtain ⟨pointer, data⟩ := result
    rw [writeAll, List.forall_mem_cons]
    cases written : pointer.write host data with
    | ok middle =>
      obtain ⟨writable, fits, rfl⟩ := HostPointer.write_eq_ok_iff.mp written
      have taken : pointer.Takes data := ⟨writable, fits⟩
      exact ih.trans (and_congr_left fun _ => (and_iff_right taken).symm)
    | error error =>
      refine iff_of_false nofun fun taken => ?_
      cases written.symm.trans (HostPointer.write_of_takes taken.1.1 host)

theorem writeAll_eq {results : List (HostPointer × List UInt8)}
    (taken : ∀ result ∈ results, result.1.Takes result.2) :
    host.writeAll results = (.ok (), host.overwriteAll results) :=
  writeAll_eq_ok_iff.mpr ⟨taken, rfl⟩

/-- Results before one that may not be written are all written, and no other. -/
theorem writeAll_append_refused {before after : List (HostPointer × List UInt8)}
    (taken : ∀ result ∈ before, result.1.Takes result.2) (refused : ¬pointer.Takes data) :
    ∃ error, host.writeAll (before ++ (pointer, data) :: after) = (.error error, host.overwriteAll before) := by
  induction before generalizing host with
  | nil =>
    cases written : pointer.write host data with
    | ok later =>
      obtain ⟨writable, fits, -⟩ := HostPointer.write_eq_ok_iff.mp written
      exact absurd ⟨writable, fits⟩ refused
    | error error => exact ⟨error, by rw [List.nil_append, writeAll, written]; rfl⟩
  | cons result rest ih =>
    obtain ⟨first, bytes⟩ := result
    have written : first.write host bytes = .ok (host.overwrite first bytes) :=
      HostPointer.write_of_takes (taken (first, bytes) List.mem_cons_self) host
    rw [List.cons_append, writeAll, written]
    exact ih fun result member => taken result (List.mem_cons_of_mem _ member)

/-- A byte that no write reaches is as before, whether the buffer has it or not. -/
theorem getElem?_overwriteAll_unreached {results : List (HostPointer × List UInt8)}
    (unreached : ∀ result ∈ results, ¬result.1.Reaches result.2.length buffer position) :
    ((host.overwriteAll results).buffer buffer)[position]? = (host.buffer buffer)[position]? := by
  induction results generalizing host with
  | nil => rfl
  | cons result rest ih =>
    have later : (((host.overwrite result.1 result.2).overwriteAll rest).buffer buffer)[position]? =
        ((host.overwrite result.1 result.2).buffer buffer)[position]? :=
      ih fun result member => unreached result (List.mem_cons_of_mem _ member)
    exact later.trans (getElem?_overwrite_unreached (unreached result List.mem_cons_self))

private theorem length_buffer_overwriteAll (host : HostMemory) (results : List (HostPointer × List UInt8))
    (buffer : Nat) :
    ((host.overwriteAll results).buffer buffer).length = (host.buffer buffer).length := by
  induction results generalizing host with
  | nil => rfl
  | cons result rest ih => exact (ih _).trans (length_buffer_overwrite host result.1 result.2 buffer)

theorem getElem?_overwriteAll_last {before after : List (HostPointer × List UInt8)}
    (reached : pointer.Reaches data.length buffer position) (present : position < (host.buffer buffer).length)
    (last : ∀ result ∈ after, ¬result.1.Reaches result.2.length buffer position) :
    ((host.overwriteAll (before ++ (pointer, data) :: after)).buffer buffer)[position]? =
      data[position - pointer.offset]? := by
  have unfolded : host.overwriteAll (before ++ (pointer, data) :: after) =
      ((host.overwriteAll before).overwrite pointer data).overwriteAll after := by
    simp [overwriteAll]
  have still : position < ((host.overwriteAll before).buffer buffer).length := by
    rw [length_buffer_overwriteAll]
    exact present
  rw [unfolded, getElem?_overwriteAll_unreached last, getElem?_overwrite_reached reached still]

theorem behind_overwriteAll {results : List (HostPointer × List UInt8)}
    (apart : results.Pairwise fun first second => ∀ buffer position,
      first.1.Reaches first.2.length buffer position → ¬second.1.Reaches second.2.length buffer position)
    (member : (pointer, data) ∈ results)
    (fits : pointer.offset + data.length ≤ (host.buffer pointer.buffer).length) :
    (host.overwriteAll results).behind pointer data.length = data := by
  obtain ⟨before, after, rfl⟩ := List.append_of_mem member
  have separate := (List.pairwise_cons.mp (List.pairwise_append.mp apart).2.1).1
  refine List.ext_getElem? fun index => ?_
  by_cases inside : index < data.length
  · have reached : pointer.Reaches data.length pointer.buffer (pointer.offset + index) :=
      ⟨rfl, Nat.le_add_right _ _, Nat.add_lt_add_left inside _⟩
    have present : pointer.offset + index < (host.buffer pointer.buffer).length := by omega
    have last := @getElem?_overwriteAll_last host pointer data _ _ before after reached present
      fun result later => separate result later _ _ reached
    rw [behind, List.getElem?_take_of_lt inside, List.getElem?_drop, last, Nat.add_sub_cancel_left]
  · have past := Nat.not_lt.mp inside
    rw [behind, List.getElem?_eq_none (by simp only [List.length_take]; omega), List.getElem?_eq_none past]

end HostMemory

end NeuralDevice
