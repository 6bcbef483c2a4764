import NeuralDevice.Proofs.Conversion.Message
import NeuralDevice.Proofs.Relocation.Region
import NeuralDevice.Proofs.Validation.Operand
import NeuralDevice.Relocation.Model

/-!
What relocation makes of an operand. A constant in host memory becomes one in the new pool, and its bytes are
somewhere in the data of the pool; later constants are appended, so it stays there.
-/

namespace NeuralDevice

open Result

/-- What appending keeps: the pool, and all data at its place. -/
structure ConstantBuilder.Grows (before after : ConstantBuilder) : Prop where
  poolIndex : after.poolIndex = before.poolIndex
  data : before.data <+: after.data
  regions : before.regions ≤ after.regions

namespace ConstantBuilder.Grows

variable {first second third : ConstantBuilder}

theorem refl (builder : ConstantBuilder) : builder.Grows builder :=
  ⟨rfl, List.prefix_refl _, Nat.le_refl _⟩

theorem trans (before : first.Grows second) (after : second.Grows third) : first.Grows third :=
  ⟨after.poolIndex.trans before.poolIndex, before.data.trans after.data,
    Nat.le_trans before.regions after.regions⟩

end ConstantBuilder.Grows

namespace Operand

/-- An operand as it was if outside host memory, and otherwise with its bytes in the new pool. -/
inductive IsPlaced (host : HostMemory) (builder : ConstantBuilder) (operand : Operand) : Operand → Prop
  | kept (bare : operand.location.pointer = none) : IsPlaced host builder operand operand
  | moved {pointer : HostPointer} {before part : List UInt8}
    (present : operand.location.pointer = some pointer)
    (read : pointer.read host operand.location.length.toNat = .ok part)
    (held : before ++ part <+: builder.data) (counted : 0 < builder.regions) :
    IsPlaced host builder operand
      { operand with
        lifetime := .constantReference
        location := .inPool builder.poolIndex (UInt32.ofNat before.length) (UInt32.ofNat part.length) }

variable {host : HostMemory} {builder later : ConstantBuilder} {operand moved : Operand}

theorem IsPlaced.grow (grown : builder.Grows later) (placed : operand.IsPlaced host builder moved) :
    operand.IsPlaced host later moved := by
  cases placed with
  | kept bare => exact .kept bare
  | moved present read held counted =>
    rw [← grown.poolIndex]
    exact .moved present read (held.trans grown.data) (Nat.lt_of_lt_of_le counted grown.regions)

theorem relocate_eq_ok (done : (operand.relocate host).run builder = .ok (moved, later)) :
    builder.Grows later ∧ operand.IsPlaced host later moved := by
  unfold relocate StateT.run at done
  cases present : operand.location.pointer with
  | none =>
    simp only [present, pure_eq_ok_iff] at done
    obtain ⟨rfl, rfl⟩ := Prod.mk.inj done
    exact ⟨.refl _, .kept present⟩
  | some pointer =>
    simp only [present, bind_eq_ok_iff, pure_eq_ok_iff] at done
    obtain ⟨data, read, ⟨location, appended⟩, placed, same⟩ := done
    obtain ⟨rfl, rfl⟩ := Prod.mk.inj same
    obtain ⟨rfl, pool, filled, counted⟩ := ConstantBuilder.append_eq_ok placed
    refine ⟨⟨pool, filled ▸ List.prefix_append _ _, counted ▸ Nat.le_succ _⟩, ?_⟩
    rw [← pool]
    exact .moved present read (filled ▸ List.prefix_refl _) (counted ▸ Nat.succ_pos _)

theorem IsPlaced.pointer_eq_none (placed : operand.IsPlaced host builder moved) :
    moved.location.pointer = none := by
  cases placed with
  | kept bare => exact bare
  | moved => rfl

/-- Only what the operand is used for and where its data is may change. -/
theorem IsPlaced.eq_with (placed : operand.IsPlaced host builder moved) :
    moved = { operand with lifetime := moved.lifetime, location := moved.location } := by
  cases placed with
  | kept => rfl
  | moved => rfl

theorem IsPlaced.pointer_eq_none_of_regions (placed : operand.IsPlaced host builder moved)
    (empty : builder.regions = 0) : operand.location.pointer = none := by
  cases placed with
  | kept bare => exact bare
  | moved _ _ _ counted => omega

end Operand

/-- The pool of the constants, if there are any, follows `count` others. -/
inductive AddedConstants (store later : FileStore) (count : Nat) (builder : ConstantBuilder) :
    List Memory → Prop
  | nothing (empty : builder.regions = 0) : AddedConstants store later count builder []
  | one (pool : NewPool store later builder.data) (index : builder.poolIndex.toNat = count) :
    AddedConstants store later count builder [pool.memory]

/-- What a relocated model has for its operands: all that the given one has, and the constants. -/
structure Model.Extends (store later : FileStore) (builder : ConstantBuilder) (model relocated : Model)
    (added : List Memory) : Prop where
  values : relocated.operandValues = model.operandValues
  vendors : relocated.vendors = model.vendors
  count : relocated.referenced.length = model.referenced.length
  pools : relocated.pools = model.pools ++ added
  kept : store.IsKept later
  constants : AddedConstants store later model.pools.length builder added

namespace Model.Extends

variable {store later : FileStore} {builder : ConstantBuilder} {model relocated : Model}
  {added : List Memory}

theorem getElem?_pools (extended : Model.Extends store later builder model relocated added) {index : Nat}
    {pool : Memory} (found : model.pools[index]? = some pool) : relocated.pools[index]? = some pool := by
  obtain ⟨inside, -⟩ := List.getElem?_eq_some_iff.mp found
  rw [extended.pools, List.getElem?_append_left inside, found]

/-- A constant that was appended is found in the new pool. -/
theorem exists_pool (extended : Model.Extends store later builder model relocated added)
    {before part : List UInt8} (held : before ++ part <+: builder.data) (counted : 0 < builder.regions) :
    ∃ pool, relocated.pools[builder.poolIndex.toNat]? = some pool ∧
      (UInt32.ofNat before.length).toNat + (UInt32.ofNat part.length).toNat ≤ pool.size.toNat ∧
      pool.read later (UInt32.ofNat before.length).toNat (UInt32.ofNat part.length).toNat = .ok part := by
  cases extended.constants with
  | nothing empty => omega
  | one pool index =>
    obtain ⟨after, whole⟩ := held
    have length : builder.data.length = before.length + part.length + after.length := by
      rw [← whole, List.length_append, List.length_append]
    have small := pool.small
    have size : (UInt32.ofNat part.length).toNat = part.length := UInt32.toNat_ofNat_of_lt' (by omega)
    have start : (UInt32.ofNat before.length).toNat = before.length :=
      UInt32.toNat_ofNat_of_lt' (by omega)
    refine ⟨pool.memory, ?_, ?_, ?_⟩
    · rw [extended.pools, index]
      simp
    · rw [size, start, pool.size]
      omega
    · rw [size]
      exact pool.read_eq_ok whole.symm

end Model.Extends

/-- The bytes of a constant: in the values of the model, in one of its pools, or in host memory. -/
def Operand.constant? (host : HostMemory) (store : FileStore) (model : Model) (operand : Operand) :
    Option (List UInt8) :=
  let location := operand.location
  match operand.lifetime with
  | .constantCopy =>
    if location.stop ≤ model.operandValues.length then
      some ((model.operandValues.drop location.offset.toNat).take location.length.toNat)
    else none
  | .constantReference => do
    let pool ← model.pools[location.poolIndex.toNat]?
    (pool.read store location.offset.toNat location.length.toNat).toOption
  | .pointer => do
    let pointer ← location.pointer
    (pointer.read host location.length.toNat).toOption
  | .temporaryVariable | .subgraphInput | .subgraphOutput | .noValue | .subgraph => none

namespace Operand

variable {host : HostMemory} {store later : FileStore} {builder : ConstantBuilder}
  {model relocated : Model} {added : List Memory} {operand moved : Operand}

theorem HasValidLocation.lifetime_eq_pointer (valid : operand.HasValidLocation model) {pointer : HostPointer}
    (present : operand.location.pointer = some pointer) : operand.lifetime = .pointer :=
  valid.isSome_pointer_iff.mp (by rw [present]; rfl)

theorem HasValidLocation.lifetime_ne_pointer (valid : operand.HasValidLocation model)
    (bare : operand.location.pointer = none) : operand.lifetime ≠ .pointer := by
  intro alive
  have present := valid.isSome_pointer_iff.mpr alive
  rw [bare] at present
  cases present

theorem HasValidLocation.exists_pool (valid : operand.HasValidLocation model)
    (alive : operand.lifetime = .constantReference) :
    ∃ pool, model.pools[operand.location.poolIndex.toNat]? = some pool := by
  unfold HasValidLocation at valid
  rw [alive] at valid
  obtain ⟨-, pool, found, -⟩ := valid
  exact ⟨pool, found⟩

/-- A constant has the bytes it had, if its pool is read as before. -/
theorem IsPlaced.constant?_eq (placed : operand.IsPlaced host builder moved)
    (extended : Model.Extends store later builder model relocated added)
    (valid : operand.HasValidLocation model)
    (same : operand.lifetime = .constantReference → ∀ pool,
      model.pools[operand.location.poolIndex.toNat]? = some pool → ∀ offset length,
        (pool.read later offset length).toOption = (pool.read store offset length).toOption)
    (otherHost : HostMemory) :
    moved.constant? otherHost later relocated = operand.constant? host store model := by
  cases placed with
  | moved present read held counted =>
    obtain ⟨pool, found, -, filled⟩ := extended.exists_pool held counted
    simp only [constant?, valid.lifetime_eq_pointer present, present, read, DataLocation.inPool, found, filled,
      Option.bind_eq_bind, Option.bind_some]
  | kept bare =>
    have outside := valid.lifetime_ne_pointer bare
    unfold constant?
    cases alive : operand.lifetime with
    | constantCopy => simp only [extended.values]
    | constantReference =>
      obtain ⟨pool, found⟩ := valid.exists_pool alive
      simp only [found, extended.getElem?_pools found, same alive pool found, Option.bind_eq_bind,
        Option.bind_some]
    | pointer => exact absurd alive outside
    | temporaryVariable | subgraphInput | subgraphOutput | noValue | subgraph => rfl

theorem IsPlaced.constant?_eq_some (placed : operand.IsPlaced host builder moved)
    (extended : Model.Extends store later builder model relocated added)
    (valid : operand.HasValidLocation model) {bytes : List UInt8}
    (resolved : operand.constant? host store model = some bytes) (otherHost : HostMemory) :
    moved.constant? otherHost later relocated = some bytes := by
  rw [← resolved]
  refine placed.constant?_eq extended valid (fun alive pool found offset length => ?_) otherHost
  simp only [constant?, alive, found, Option.bind_eq_bind, Option.bind_some] at resolved
  cases read : pool.read store operand.location.offset.toNat operand.location.length.toNat with
  | error error =>
    rw [read] at resolved
    cases resolved
  | ok data => rw [Memory.read_of_isKept extended.kept fun _ => Memory.isOpen_of_read read]

/-- With all descriptors open, relocation changes neither what a constant is nor whether it can be read. -/
theorem IsPlaced.constant?_eq_of_open (placed : operand.IsPlaced host builder moved)
    (extended : Model.Extends store later builder model relocated added)
    (valid : operand.HasValidLocation model) (opened : model.HasOpenPools store) (otherHost : HostMemory) :
    moved.constant? otherHost later relocated = operand.constant? host store model := by
  refine placed.constant?_eq extended valid (fun _ pool found offset length => ?_) otherHost
  rw [Memory.read_of_isKept extended.kept fun descriptor head => ?_]
  exact opened pool (List.mem_of_getElem? found) descriptor (List.mem_of_mem_head? head)

/-! Validity. -/

theorem IsPlaced.eq_of_lifetime (placed : operand.IsPlaced host builder moved)
    (valid : operand.HasValidLocation model) (outside : operand.lifetime ≠ .pointer) : moved = operand := by
  cases placed with
  | kept => rfl
  | moved present => exact absurd (valid.lifetime_eq_pointer present) outside

theorem IsPlaced.lifetime_eq_iff (placed : operand.IsPlaced host builder moved)
    (valid : operand.HasValidLocation model) {lifetime : OperandLifetime} (other : lifetime ≠ .pointer)
    (free : lifetime ≠ .constantReference) : moved.lifetime = lifetime ↔ operand.lifetime = lifetime := by
  cases placed with
  | kept => exact Iff.rfl
  | moved present =>
    rw [valid.lifetime_eq_pointer present]
    exact iff_of_false free.symm other.symm

theorem IsPlaced.version_eq (placed : operand.IsPlaced host builder moved)
    (valid : operand.HasValidLocation model) : moved.version = operand.version := by
  cases placed with
  | kept => rfl
  | moved present =>
    have alive := valid.lifetime_eq_pointer present
    unfold version
    rw [alive]
    rfl

private theorem IsPlaced.hasValidLocation (placed : operand.IsPlaced host builder moved)
    (extended : Model.Extends store later builder model relocated added)
    (valid : operand.HasValidLocation model) : moved.HasValidLocation relocated := by
  cases placed with
  | moved present read held counted =>
    obtain ⟨pool, found, inside, -⟩ := extended.exists_pool held counted
    exact ⟨rfl, pool, found, inside⟩
  | kept bare =>
    have outside := valid.lifetime_ne_pointer bare
    unfold HasValidLocation at valid ⊢
    cases alive : operand.lifetime with
    | constantCopy =>
      rw [alive] at valid
      simpa only [extended.values] using valid
    | constantReference =>
      rw [alive] at valid
      obtain ⟨-, pool, found, inside⟩ := valid
      exact ⟨bare, pool, extended.getElem?_pools found, inside⟩
    | subgraph =>
      rw [alive] at valid
      simpa only [extended.count] using valid
    | pointer => exact absurd alive outside
    | temporaryVariable | subgraphInput | subgraphOutput | noValue =>
      rw [alive] at valid
      exact valid

theorem IsPlaced.isValid (placed : operand.IsPlaced host builder moved)
    (extended : Model.Extends store later builder model relocated added)
    (valid : operand.IsValid model) : moved.IsValid relocated := by
  have location := placed.hasValidLocation extended valid.location
  obtain ⟨type, quantization, extraParams, -⟩ := valid
  unfold HasDeclaredType at type
  rw [← extended.vendors] at type
  cases placed with
  | kept => exact ⟨type, quantization, extraParams, location⟩
  | moved => exact ⟨type, quantization, extraParams, location⟩

end Operand

end NeuralDevice
