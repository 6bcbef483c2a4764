import NeuralDevice.Proofs.Action
import NeuralDevice.Proofs.Memory.Store

/-!
Views of shared memory over time. A view is bounded by the declared size of its memory, and what it reads by the end of
the file as well. Any range that is read holds what was written there last, whichever views it was written through.
-/

namespace NeuralDevice

open Result

namespace File

theorem getD_toBytes (file : File) (position : Nat) : file.toBytes[position]?.getD 0 = file.byte position := by
  by_cases inside : position < file.size
  · have within : position < file.toBytes.length := by rwa [toBytes, length_slice]
    have found : file.toBytes[position] = file.byte (0 + position) := getElem_slice file 0 file.size position within
    rw [List.getElem?_eq_getElem within, found, Nat.zero_add, Option.getD_some]
  · have past : file.toBytes.length ≤ position := by
      rw [toBytes, length_slice]
      exact Nat.not_lt.mp inside
    rw [List.getElem?_eq_none past, file.byte_of_size_le position (Nat.not_lt.mp inside), Option.getD_none]

theorem byte_overwrite (file : File) (offset : Nat) (data : List UInt8) (position : Nat) :
    (file.overwrite offset data).byte position =
      (if offset ≤ position then data[position - offset]? else none).getD (file.byte position) := by
  by_cases after : offset ≤ position
  · obtain ⟨index, rfl⟩ := Nat.exists_eq_add_of_le after
    rw [if_pos after, Nat.add_sub_cancel_left]
    by_cases inside : index < data.length
    · rw [byte_overwrite_inside file offset data index inside, List.getElem?_eq_getElem inside, Option.getD_some]
    · have past : data.length ≤ index := Nat.not_lt.mp inside
      rw [byte_overwrite_outside file offset data _ (.inr (Nat.add_le_add_left past offset)),
        List.getElem?_eq_none past, Option.getD_none]
  · rw [if_neg after, byte_overwrite_outside file offset data position (.inl (Nat.not_le.mp after)), Option.getD_none]

end File

/-- Files may end where these bytes end. -/
def IsSupported (offset length : Nat) : Prop := length = 0 ∨ offset + length < fileSizeLimit

instance (offset length : Nat) : Decidable (IsSupported offset length) :=
  inferInstanceAs (Decidable (length = 0 ∨ offset + length < fileSizeLimit))

namespace MemoryView

variable {view other : MemoryView} {store : FileStore} {offset length : Nat} {file : File}

private theorem checkRange_of_outside (outside : view.size.toNat < offset + length) :
    view.checkRange offset length = .error (MemoryFault.outOfRange offset length view.size).error := by
  rw [checkRange_eq, if_pos outside]
  rfl

theorem checkRange_of_unsupported (inside : offset + length ≤ view.size.toNat)
    (unsupported : ¬IsSupported offset length) :
    view.checkRange offset length = .error MemoryFault.unsupportedOffset.error := by
  have beyond : length ≠ 0 ∧ fileSizeLimit ≤ offset + length := by
    simpa only [IsSupported, not_or, Nat.not_lt] using unsupported
  rw [checkRange_eq, if_neg (Nat.not_lt.mpr inside), if_pos beyond]
  rfl

theorem checkRange_of_inside (inside : offset + length ≤ view.size.toNat) (supported : IsSupported offset length) :
    view.checkRange offset length = .ok () :=
  checkRange_eq_ok_iff.mpr ⟨inside, supported⟩

theorem checkRange_refused_iff :
    (∃ detail, view.checkRange offset length = .error (.invalidArgument detail)) ↔
      view.size.toNat < offset + length := by
  constructor
  · intro refused
    obtain ⟨detail, refused⟩ := refused
    by_contra within
    have inside : offset + length ≤ view.size.toNat := Nat.not_lt.mp within
    by_cases supported : IsSupported offset length
    · rw [checkRange_of_inside inside supported] at refused
      cases refused
    · rw [checkRange_of_unsupported inside supported] at refused
      cases refused
  · intro outside
    exact ⟨_, checkRange_of_outside outside⟩

theorem read_of_refused {error : Error} (refused : view.checkRange offset length = .error error) :
    view.read store offset length = .error error := by
  rw [read, refused]
  rfl

theorem read_refused_iff :
    (∃ detail, view.read store offset length = .error (.invalidArgument detail)) ↔
      view.size.toNat < offset + length := by
  rw [← checkRange_refused_iff]
  cases checked : view.checkRange offset length with
  | error error => simp only [read_of_refused checked, Except.error.injEq]
  | ok passed =>
    rw [read, checked, ok_bind]
    -- A file that ends too early fails as well, but not for the range.
    cases (view.file store).read? offset length with
    | none => simp [MemoryFault.error, throw, throwThe, MonadExceptOf.throw]
    | some data => simp [pure, Except.pure]

private theorem read_of_inside (inside : offset + length ≤ view.size.toNat) (supported : IsSupported offset length)
    (long : length = 0 ∨ offset + length ≤ (view.file store).size) :
    view.read store offset length = .ok ((view.file store).slice offset length) :=
  read_eq_ok_iff.mpr ⟨checkRange_of_inside inside supported, File.read?_eq_some_iff.mpr ⟨long, rfl⟩⟩

theorem read_past_end (inside : offset + length ≤ view.size.toNat) (nonempty : length ≠ 0)
    (short : (view.file store).size < offset + length) :
    ∃ detail, view.read store offset length = .error (.generalFailure detail) := by
  by_cases supported : IsSupported offset length
  · have ends : ¬(length = 0 ∨ offset + length ≤ (view.file store).size) :=
      not_or.mpr ⟨nonempty, Nat.not_le.mpr short⟩
    have none : (view.file store).read? offset length = none := if_neg ends
    have failed : view.read store offset length = .error MemoryFault.endOfFile.error := by
      rw [read, checkRange_of_inside inside supported, ok_bind, none]
      rfl
    exact ⟨_, failed⟩
  · exact ⟨_, read_of_refused (checkRange_of_unsupported inside supported)⟩

private theorem read_congr {later : FileStore} (same : view.file later = view.file store) :
    view.read later offset length = view.read store offset length := by
  rw [read, read, same]

theorem file_set_same (opened : store.isOpen view.descriptor = true) (same : other.descriptor = view.descriptor) :
    other.file (store.set view.descriptor file) = file := by
  obtain ⟨old, found⟩ := Option.isSome_iff_exists.mp opened
  rw [MemoryView.file, same, FileStore.open?_set_same found, Option.getD_some]

theorem file_set_other (opened : store.isOpen view.descriptor = true) (differs : other.descriptor ≠ view.descriptor) :
    other.file (store.set view.descriptor file) = other.file store := by
  obtain ⟨old, found⟩ := Option.isSome_iff_exists.mp opened
  rw [MemoryView.file, FileStore.open?_set_other found differs, MemoryView.file]

end MemoryView

/-- Bytes to be written through a view. -/
structure Edit where
  view : MemoryView
  offset : Nat
  data : List UInt8

namespace Edit

/-- The bytes are inside the declared size, and files may end where they end. -/
def IsAllowed (edit : Edit) : Prop :=
  edit.offset + edit.data.length ≤ edit.view.size.toNat ∧ IsSupported edit.offset edit.data.length

instance (edit : Edit) : Decidable edit.IsAllowed :=
  inferInstanceAs (Decidable (edit.offset + edit.data.length ≤ edit.view.size.toNat ∧
    IsSupported edit.offset edit.data.length))

/-- Writes the bytes. If that is refused, the files are left as they are. -/
def perform (edit : Edit) : Action FileStore Unit :=
  Action.ofStep fun store =>
    match edit.view.write store edit.offset edit.data with
    | .ok later => (.ok (), later)
    | .error error => (.error error, store)

/-- The byte that the edit puts at a position of a file, if it is allowed and its bytes lie there. -/
def byte? (edit : Edit) (descriptor : Descriptor) (position : Nat) : Option UInt8 :=
  if edit.IsAllowed ∧ edit.view.descriptor = descriptor ∧ edit.offset ≤ position then
    edit.data[position - edit.offset]?
  else none

/-- The size that the edit gives to a file of some size. -/
def grow (edit : Edit) (descriptor : Descriptor) (size : Nat) : Nat :=
  if edit.IsAllowed ∧ edit.view.descriptor = descriptor ∧ edit.data.length ≠ 0 then
    max size (edit.offset + edit.data.length)
  else size

/-- The files after some edits, of which some may be refused. -/
def afterAll (store : FileStore) : List Edit → FileStore
  | [] => store
  | edit :: rest => afterAll (edit.perform.apply store).2 rest

/-- The byte that was written last at a position of a file, if any was. -/
def lastByte? (descriptor : Descriptor) (position : Nat) : List Edit → Option UInt8
  | [] => none
  | edit :: rest => (lastByte? descriptor position rest).or (edit.byte? descriptor position)

/-- The size that some edits give to a file of some size. -/
def grownSize (descriptor : Descriptor) (size : Nat) : List Edit → Nat
  | [] => size
  | edit :: rest => grownSize descriptor (edit.grow descriptor size) rest

variable {edit : Edit} {edits : List Edit} {store : FileStore} {view : MemoryView} {descriptor : Descriptor}
  {position : Nat}

theorem apply_perform_of_allowed (allowed : edit.IsAllowed) :
    edit.perform.apply store =
      (.ok (), store.set edit.view.descriptor ((edit.view.file store).overwrite edit.offset edit.data)) := by
  have passed := MemoryView.checkRange_of_inside allowed.1 allowed.2
  rw [perform, Action.apply_ofStep, MemoryView.write, passed]
  rfl

theorem apply_perform_of_refused {error : Error}
    (refused : edit.view.checkRange edit.offset edit.data.length = .error error) :
    edit.perform.apply store = (.error error, store) := by
  rw [perform, Action.apply_ofStep, MemoryView.write, refused]
  rfl

private theorem perform_refused_iff :
    (∃ detail, (edit.perform.apply store).1 = .error (.invalidArgument detail)) ↔
      edit.view.size.toNat < edit.offset + edit.data.length := by
  rw [← MemoryView.checkRange_refused_iff]
  cases checked : edit.view.checkRange edit.offset edit.data.length with
  | error error => rw [apply_perform_of_refused checked]
  | ok passed =>
    have allowed : edit.IsAllowed := MemoryView.checkRange_eq_ok_iff.mp checked
    rw [apply_perform_of_allowed allowed]

theorem perform_cases (edit : Edit) (store : FileStore) :
    (edit.IsAllowed ∧ edit.perform.apply store =
      (.ok (), store.set edit.view.descriptor ((edit.view.file store).overwrite edit.offset edit.data))) ∨
    ¬edit.IsAllowed ∧ ∃ error, edit.perform.apply store = (.error error, store) := by
  cases checked : edit.view.checkRange edit.offset edit.data.length with
  | error error =>
    have refused : ¬edit.IsAllowed := by
      intro allowed
      rw [MemoryView.checkRange_of_inside allowed.1 allowed.2] at checked
      cases checked
    exact .inr ⟨refused, error, apply_perform_of_refused checked⟩
  | ok passed =>
    have allowed : edit.IsAllowed := MemoryView.checkRange_eq_ok_iff.mp checked
    exact .inl ⟨allowed, apply_perform_of_allowed allowed⟩

private theorem later_of_failed {error : Error} {later : FileStore}
    (failed : edit.perform.apply store = (.error error, later)) : later = store := by
  obtain ⟨-, made⟩ | ⟨-, _, refused⟩ := perform_cases edit store
  · rw [made] at failed
    cases failed
  · exact (Prod.mk.inj (failed.symm.trans refused)).2

theorem later_of_done {later : FileStore} (done : edit.perform.apply store = (.ok (), later)) :
    later = store.set edit.view.descriptor ((edit.view.file store).overwrite edit.offset edit.data) := by
  obtain ⟨-, made⟩ | ⟨-, _, refused⟩ := perform_cases edit store
  · exact (Prod.mk.inj (done.symm.trans made)).2
  · rw [refused] at done
    cases done

theorem file_perform (opened : store.isOpen edit.view.descriptor = true) :
    view.file (edit.perform.apply store).2 =
      if edit.IsAllowed ∧ edit.view.descriptor = view.descriptor then
        (view.file store).overwrite edit.offset edit.data
      else view.file store := by
  obtain ⟨allowed, made⟩ | ⟨refused, _, kept⟩ := perform_cases edit store
  · rw [made]
    by_cases same : edit.view.descriptor = view.descriptor
    · have file : edit.view.file store = view.file store := by rw [MemoryView.file, MemoryView.file, same]
      rw [MemoryView.file_set_same opened same.symm, if_pos ⟨allowed, same⟩, file]
    · rw [MemoryView.file_set_other opened (Ne.symm same), if_neg fun both => same both.2]
  · rw [kept, if_neg fun both => refused both.1]

private theorem isOpen_perform (opened : store.isOpen edit.view.descriptor = true) :
    (edit.perform.apply store).2.isOpen descriptor = store.isOpen descriptor := by
  obtain ⟨-, made⟩ | ⟨-, _, kept⟩ := perform_cases edit store
  · obtain ⟨old, found⟩ := Option.isSome_iff_exists.mp opened
    rw [made]
    by_cases same : descriptor = edit.view.descriptor
    · rw [same, opened, FileStore.isOpen, FileStore.open?_set_same found]
      rfl
    · rw [FileStore.isOpen, FileStore.open?_set_other found same, FileStore.isOpen]
  · rw [kept]

private theorem byte_perform (opened : store.isOpen edit.view.descriptor = true) :
    (view.file (edit.perform.apply store).2).byte position =
      (edit.byte? view.descriptor position).getD ((view.file store).byte position) := by
  rw [file_perform opened, byte?]
  by_cases reached : edit.IsAllowed ∧ edit.view.descriptor = view.descriptor
  · simp only [reached, and_self, true_and, if_true, File.byte_overwrite]
  · rw [if_neg reached, if_neg fun all => reached ⟨all.1, all.2.1⟩, Option.getD_none]

private theorem size_perform (opened : store.isOpen edit.view.descriptor = true) :
    (view.file (edit.perform.apply store).2).size = edit.grow view.descriptor (view.file store).size := by
  rw [file_perform opened, grow]
  by_cases reached : edit.IsAllowed ∧ edit.view.descriptor = view.descriptor
  · rw [if_pos reached, File.size_overwrite, File.grownSize]
    by_cases empty : edit.data.length = 0
    · rw [if_pos empty, if_neg fun all => all.2.2 empty]
    · rw [if_neg empty, if_pos ⟨reached.1, reached.2, empty⟩]
  · rw [if_neg reached, if_neg fun all => reached ⟨all.1, all.2.1⟩]

theorem isOpen_rest {rest : List Edit} (opened : ∀ each ∈ edit :: rest, store.isOpen each.view.descriptor = true) :
    ∀ each ∈ rest, (edit.perform.apply store).2.isOpen each.view.descriptor = true := by
  intro each member
  rw [isOpen_perform (opened edit List.mem_cons_self)]
  exact opened each (List.mem_cons_of_mem edit member)

/-- Bytes are those that were written last, or those that were there before all edits. -/
private theorem byte_afterAll (opened : ∀ edit ∈ edits, store.isOpen edit.view.descriptor = true) :
    (view.file (afterAll store edits)).byte position =
      (lastByte? view.descriptor position edits).getD ((view.file store).byte position) := by
  induction edits generalizing store with
  | nil => rfl
  | cons edit rest ih =>
    rw [afterAll, ih (isOpen_rest opened), byte_perform (opened edit List.mem_cons_self), lastByte?]
    cases lastByte? view.descriptor position rest with
    | none => rw [Option.none_or, Option.getD_none]
    | some byte => rw [Option.some_or, Option.getD_some, Option.getD_some]

private theorem size_afterAll (opened : ∀ edit ∈ edits, store.isOpen edit.view.descriptor = true) :
    (view.file (afterAll store edits)).size = grownSize view.descriptor (view.file store).size edits := by
  induction edits generalizing store with
  | nil => rfl
  | cons edit rest ih =>
    rw [afterAll, ih (isOpen_rest opened), size_perform (opened edit List.mem_cons_self), grownSize]

end Edit

namespace MemoryView

variable {view : MemoryView} {store : FileStore}

/-- Whatever lies inside the declared size and the file is read, and consists of the given bytes. -/
def Holds (view : MemoryView) (store : FileStore) (byte : Nat → UInt8) : Prop :=
  ∀ start length, start + length ≤ view.size.toNat → length = 0 ∨ start + length ≤ (view.file store).size →
    IsSupported start length →
      view.read store start length = .ok ((List.range length).map fun index => byte (start + index))

theorem holds_of_byte {byte : Nat → UInt8} (same : ∀ position, (view.file store).byte position = byte position) :
    view.Holds store byte := by
  intro start length inside long supported
  rw [read_of_inside inside supported long, File.slice]
  simp only [same]

private theorem holds_of_done {offset : Nat} {data : List UInt8} {later : FileStore}
    (isOpen : store.isOpen view.descriptor = true)
    (done : (Edit.mk view offset data).perform.apply store = (.ok (), later)) {other : MemoryView}
    (same : other.descriptor = view.descriptor) :
    (other.file later).size = (view.file store).grownSize offset data.length ∧
    other.Holds later fun position =>
      (if offset ≤ position then data[position - offset]? else none).getD
        ((view.file store).toBytes[position]?.getD 0) := by
  have file : other.file later = (view.file store).overwrite offset data := by
    rw [Edit.later_of_done done, file_set_same isOpen same]
  refine ⟨?_, holds_of_byte fun position => ?_⟩
  · rw [file, File.size_overwrite]
  · rw [file, File.byte_overwrite, File.getD_toBytes]

private theorem holds_afterAll {edits : List Edit} (opened : ∀ edit ∈ edits, store.isOpen edit.view.descriptor = true) :
    (view.file (Edit.afterAll store edits)).size = Edit.grownSize view.descriptor (view.file store).size edits ∧
    view.Holds (Edit.afterAll store edits) fun position =>
      (Edit.lastByte? view.descriptor position edits).getD ((view.file store).toBytes[position]?.getD 0) := by
  refine ⟨Edit.size_afterAll opened, holds_of_byte fun position => ?_⟩
  rw [Edit.byte_afterAll opened, File.getD_toBytes]

/-- What a view promises to those who read and write through it. -/
structure Promises (view : MemoryView) (store : FileStore) : Prop where
  read_refused_iff : ∀ offset length,
    (∃ detail, view.read store offset length = .error (.invalidArgument detail)) ↔
      view.size.toNat < offset + length
  write_refused_iff : ∀ offset data,
    (∃ detail, ((Edit.mk view offset data).perform.apply store).1 = .error (.invalidArgument detail)) ↔
      view.size.toNat < offset + data.length
  /-- A write that fails changes nothing. -/
  write_failed : ∀ offset data error later,
    (Edit.mk view offset data).perform.apply store = (.error error, later) → later = store
  write_done : ∀ offset data, offset + data.length ≤ view.size.toNat → IsSupported offset data.length →
    ∃ later, (Edit.mk view offset data).perform.apply store = (.ok (), later)
  /-- Nothing is read past the end of the file. -/
  read_past_end : ∀ offset length, length ≠ 0 → offset + length ≤ view.size.toNat →
    (view.file store).size < offset + length →
      ∃ detail, view.read store offset length = .error (.generalFailure detail)
  /-- All views of the file see the bytes that were written, and around them those that were there before, with zeros in
  a gap. -/
  read_back : ∀ offset data later, (Edit.mk view offset data).perform.apply store = (.ok (), later) →
    ∀ other : MemoryView, other.descriptor = view.descriptor →
      (other.file later).size = (view.file store).grownSize offset data.length ∧
      other.Holds later fun position =>
        (if offset ≤ position then data[position - offset]? else none).getD
          ((view.file store).toBytes[position]?.getD 0)
  /-- Other files are read as before. -/
  apart : ∀ offset data later, (Edit.mk view offset data).perform.apply store = (.ok (), later) →
    ∀ other : MemoryView, other.descriptor ≠ view.descriptor → ∀ start length,
      other.read later start length = other.read store start length
  /-- After any edits through any views, some of them refused, the bytes are those that were written last. -/
  history : ∀ edits : List Edit, (∀ edit ∈ edits, store.isOpen edit.view.descriptor = true) →
    (view.file (Edit.afterAll store edits)).size = Edit.grownSize view.descriptor (view.file store).size edits ∧
    view.Holds (Edit.afterAll store edits) fun position =>
      (Edit.lastByte? view.descriptor position edits).getD ((view.file store).toBytes[position]?.getD 0)

theorem isOpen_of_view {memory : Memory} (opened : memory.view store = .ok view) :
    store.isOpen view.descriptor = true := by
  obtain ⟨descriptor, file, -, found, rfl⟩ := Memory.view_eq_ok_iff.mp opened
  exact Option.isSome_iff_exists.mpr ⟨file, found⟩

/-- Views hold what was written last, whatever was asked of them. -/
theorem views_hold_what_is_written {memory : Memory} (opened : memory.view store = .ok view) :
    view.Promises store where
  read_refused_iff _ _ := read_refused_iff
  write_refused_iff _ _ := Edit.perform_refused_iff
  write_failed _ _ _ _ failed := Edit.later_of_failed failed
  write_done _ _ inside supported := ⟨_, Edit.apply_perform_of_allowed ⟨inside, supported⟩⟩
  read_past_end _ _ nonempty inside short := read_past_end inside nonempty short
  read_back _ _ _ done _ same := holds_of_done (isOpen_of_view opened) done same
  apart offset data later done other differs start length := by
    apply read_congr
    rw [Edit.later_of_done done, file_set_other (isOpen_of_view opened) differs]
  history _ allOpen := holds_afterAll allOpen

/-- A memory that is declared longer than its file. -/
def shortMemory : Memory := ⟨⟨[0], []⟩, 8, "short"⟩

def shortStore : FileStore := ⟨[File.ofBytes [1, 2, 3]]⟩

/-- The first of two writes leaves a gap behind the end of the file, and the second is refused. -/
theorem gaps_hold_zeros :
    ∃ view, shortMemory.view shortStore = .ok view ∧ view.Promises shortStore ∧
      view.read shortStore 0 7 = .error MemoryFault.endOfFile.error ∧
      view.read (Edit.afterAll shortStore [⟨view, 6, [9]⟩, ⟨view, 7, [4, 4]⟩]) 0 7 = .ok [1, 2, 3, 0, 0, 0, 9] := by
  have opened : shortMemory.view shortStore = .ok ⟨0, 8⟩ := rfl
  exact ⟨_, opened, views_hold_what_is_written opened, rfl, rfl⟩

end MemoryView

end NeuralDevice
