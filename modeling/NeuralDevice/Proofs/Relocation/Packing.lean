import NeuralDevice.Proofs.Relocation.Builder

/-!
Regions appended to a builder one after another, some of which it may refuse. Those that it accepts follow one another
from the start of the pool to its end, and those that it refuses leave no trace.
-/

namespace NeuralDevice

open Result

private theorem NewPool.exists_write {store later : FileStore} {data : List UInt8}
    (pool : NewPool store later (List.replicate data.length 0)) :
    ∃ last, pool.memory.write later 0 data = .ok last := by
  have size := pool.size
  have small := pool.small
  rw [List.length_replicate] at size small
  have inside : 0 + data.length ≤ pool.memory.size.toNat := by omega
  have supported : 0 + data.length < fileSizeLimit :=
    Nat.lt_of_lt_of_le (by omega) (show UInt32.size ≤ fileSizeLimit by decide)
  exact ⟨_, Memory.write_of_open pool.head pool.opened inside supported⟩

namespace ConstantBuilder

/-- Why a region is refused. -/
def refusal (region : List UInt8) : LayoutFault :=
  if UInt32.size ≤ region.length then .regionTooLarge region.length else .constantsTooLarge

theorem append_of_fits {builder : ConstantBuilder} {region : List UInt8}
    (fits : builder.data.length + region.length < UInt32.size) :
    ∃ later, builder.append region =
        .ok (.inPool builder.poolIndex (UInt32.ofNat builder.data.length) (UInt32.ofNat region.length), later) ∧
      later.isEmpty = false ∧ later.poolIndex = builder.poolIndex ∧ later.data = builder.data ++ region := by
  have short : ¬UInt32.size ≤ region.length := by omega
  rw [append, if_neg short, dif_pos fits]
  exact ⟨_, rfl, rfl, rfl, rfl⟩

theorem append_of_not_fits {builder : ConstantBuilder} {region : List UInt8}
    (large : ¬builder.data.length + region.length < UInt32.size) :
    builder.append region = .error (refusal region).error := by
  rw [append, dif_neg large, refusal]
  split
  · rfl
  · rfl

theorem finish_of_create {builder : ConstantBuilder} {store middle : FileStore} {created : Memory}
    (allocated : Memory.create store (UInt64.ofNat builder.data.length) = .ok (created, middle)) :
    ∃ (later : FileStore) (pool : NewPool store later builder.data),
      builder.finish store = .ok (pool.memory, later) ∧ store.IsKept later := by
  obtain ⟨kept, zeros, rfl⟩ := NewPool.exists_of_create builder.length_data allocated
  obtain ⟨last, written⟩ := zeros.exists_write
  obtain ⟨still, pool, same⟩ := zeros.exists_of_write written kept
  refine ⟨last, pool, ?_, still⟩
  rw [finish, allocated, ok_bind, same]
  dsimp only
  rw [written]
  rfl

end ConstantBuilder

namespace OutputBuilder

/-- The zeros that a pool with the reserved size holds. -/
def data (builder : OutputBuilder) : List UInt8 := List.replicate builder.size.toNat 0

theorem length_data (builder : OutputBuilder) : builder.data.length = builder.size.toNat := List.length_replicate

theorem append_of_fits {builder : OutputBuilder} {length : UInt32}
    (fits : builder.size.toNat + length.toNat < UInt32.size) :
    ∃ later, builder.append length = .ok (.inPool builder.poolIndex builder.size length, later) ∧
      later.isEmpty = false ∧ later.poolIndex = builder.poolIndex ∧
      later.data = builder.data ++ List.replicate length.toNat 0 := by
  rw [append, if_pos fits]
  refine ⟨_, rfl, rfl, rfl, ?_⟩
  rw [data, data, List.replicate_append_replicate, UInt32.toNat_add, Nat.mod_eq_of_lt fits]

theorem append_of_not_fits {builder : OutputBuilder} {length : UInt32}
    (large : ¬builder.size.toNat + length.toNat < UInt32.size) :
    builder.append length = .error LayoutFault.outputsTooLarge.error := by
  rw [append, if_neg large]
  rfl

theorem finish_eq_create (builder : OutputBuilder) (store : FileStore) :
    builder.finish store = Memory.create store (UInt64.ofNat builder.data.length) := by
  have size : builder.size.toUInt64 = UInt64.ofNat builder.data.length := by
    apply UInt64.toNat_inj.mp
    simp [length_data]
  rw [finish, size]

end OutputBuilder

/-- What the builders of both kinds of pools have in common. Requests are for some bytes of the pool, and a builder
accepts them as long as the bytes of all are fewer than 4 Gi. -/
structure PoolKind (σ ρ : Type) where
  new : UInt32 → σ
  append : σ → ρ → Result (DataLocation × σ)
  isEmpty : σ → Bool
  finish : σ → FileStore → Result (Memory × FileStore)
  poolIndex : σ → UInt32
  /-- The bytes that the pool is going to hold. -/
  data : σ → List UInt8
  /-- The bytes that the pool holds for one request. -/
  bytes : ρ → List UInt8
  refusal : ρ → LayoutFault
  isEmpty_new : ∀ index, isEmpty (new index) = true
  poolIndex_new : ∀ index, poolIndex (new index) = index
  data_new : ∀ index, data (new index) = []
  append_of_fits : ∀ builder request, (data builder).length + (bytes request).length < UInt32.size →
    ∃ later, append builder request =
        .ok (.inPool (poolIndex builder) (UInt32.ofNat (data builder).length)
          (UInt32.ofNat (bytes request).length), later) ∧
      isEmpty later = false ∧ poolIndex later = poolIndex builder ∧ data later = data builder ++ bytes request
  append_of_not_fits : ∀ builder request, ¬(data builder).length + (bytes request).length < UInt32.size →
    append builder request = .error (refusal request).error
  finish_of_create : ∀ builder store created middle,
    Memory.create store (UInt64.ofNat (data builder).length) = .ok (created, middle) →
      ∃ (later : FileStore) (pool : NewPool store later (data builder)),
        finish builder store = .ok (pool.memory, later) ∧ store.IsKept later
  finish_of_not_create : ∀ builder store error,
    Memory.create store (UInt64.ofNat (data builder).length) = .error error → finish builder store = .error error

namespace PoolKind

/-- Pools whose bytes are known. -/
def constants : PoolKind ConstantBuilder (List UInt8) where
  new := .new
  append := ConstantBuilder.append
  isEmpty := ConstantBuilder.isEmpty
  finish := ConstantBuilder.finish
  poolIndex := ConstantBuilder.poolIndex
  data := ConstantBuilder.data
  bytes region := region
  refusal := ConstantBuilder.refusal
  isEmpty_new _ := rfl
  poolIndex_new _ := rfl
  data_new _ := rfl
  append_of_fits _ _ := ConstantBuilder.append_of_fits
  append_of_not_fits _ _ := ConstantBuilder.append_of_not_fits
  finish_of_create _ _ _ _ := ConstantBuilder.finish_of_create
  finish_of_not_create builder store error failed := by
    rw [ConstantBuilder.finish, failed]
    rfl

/-- Pools of zeros. -/
def outputs : PoolKind OutputBuilder UInt32 where
  new := .new
  append := OutputBuilder.append
  isEmpty := OutputBuilder.isEmpty
  finish := OutputBuilder.finish
  poolIndex := OutputBuilder.poolIndex
  data := OutputBuilder.data
  bytes length := List.replicate length.toNat 0
  refusal _ := .outputsTooLarge
  isEmpty_new _ := rfl
  poolIndex_new _ := rfl
  data_new _ := rfl
  append_of_fits builder length fits := by
    rw [OutputBuilder.length_data, List.length_replicate] at fits
    rw [OutputBuilder.length_data, List.length_replicate, UInt32.ofNat_toNat, UInt32.ofNat_toNat]
    exact OutputBuilder.append_of_fits fits
  append_of_not_fits builder length large := by
    rw [OutputBuilder.length_data, List.length_replicate] at large
    exact OutputBuilder.append_of_not_fits large
  finish_of_create builder store created middle allocated := by
    have small : builder.data.length < UInt32.size := by
      rw [OutputBuilder.length_data]
      exact builder.size.toNat_lt
    have zeros : List.replicate builder.data.length 0 = builder.data := by
      rw [OutputBuilder.length_data, OutputBuilder.data]
    have made := NewPool.exists_of_create small allocated
    rw [zeros] at made
    obtain ⟨kept, pool, rfl⟩ := made
    exact ⟨middle, pool, by rw [OutputBuilder.finish_eq_create, allocated], kept⟩
  finish_of_not_create builder store error failed := by rw [OutputBuilder.finish_eq_create, failed]

variable {σ ρ : Type}

/-- Appends regions for requests in turn. After a refusal the builder is used as it was. -/
def appendAll (kind : PoolKind σ ρ) (builder : σ) : List ρ → List (Result DataLocation) × σ
  | [] => ([], builder)
  | request :: rest =>
    match kind.append builder request with
    | .ok (location, later) =>
      let (results, last) := appendAll kind later rest
      (.ok location :: results, last)
    | .error error =>
      let (results, last) := appendAll kind builder rest
      (.error error :: results, last)

end PoolKind

/-- The regions that were accepted. -/
def acceptedRegions (results : List (Result DataLocation)) : List DataLocation := results.filterMap Except.toOption

/-- The requests whose regions were accepted. -/
def acceptedRequests {ρ : Type} (requests : List ρ) (results : List (Result DataLocation)) : List ρ :=
  (requests.zip results).filterMap fun (request, result) => result.toOption.map fun _ => request

theorem acceptedRegions_ok (location : DataLocation) (results : List (Result DataLocation)) :
    acceptedRegions (.ok location :: results) = location :: acceptedRegions results := rfl

theorem acceptedRequests_ok {ρ : Type} (request : ρ) (requests : List ρ) (location : DataLocation)
    (results : List (Result DataLocation)) :
    acceptedRequests (request :: requests) (.ok location :: results) = request :: acceptedRequests requests results :=
  rfl

/-- How many bytes some regions have together. -/
def DataLocation.totalLength (locations : List DataLocation) : Nat :=
  (locations.map fun location => location.length.toNat).sum

namespace DataLocation

/-- Each region starts where the one before ends, and the first at `start`. -/
inductive Follow : Nat → List DataLocation → Prop
  | nil {start : Nat} : Follow start []
  | cons {start : Nat} {location : DataLocation} {rest : List DataLocation} (starts : location.offset.toNat = start)
    (next : Follow location.stop rest) : Follow start (location :: rest)

theorem totalLength_cons (location : DataLocation) (rest : List DataLocation) :
    totalLength (location :: rest) = location.length.toNat + totalLength rest := by
  simp [totalLength]

namespace Follow

variable {start : Nat} {locations : List DataLocation}

private theorem start_le (follow : Follow start locations) : ∀ location ∈ locations, start ≤ location.offset.toNat := by
  induction follow with
  | nil => simp
  | @cons start location rest starts next ih =>
    rw [List.forall_mem_cons]
    refine ⟨Nat.le_of_eq starts.symm, fun other member => Nat.le_trans ?_ (ih other member)⟩
    rw [stop, starts]
    exact Nat.le_add_right _ _

theorem pairwise (follow : Follow start locations) :
    locations.Pairwise fun first second => first.stop ≤ second.offset.toNat := by
  induction follow with
  | nil => exact .nil
  | cons _ next ih => exact .cons next.start_le ih

private theorem covered_iff (follow : Follow start locations) {position : Nat} :
    start ≤ position ∧ position < start + totalLength locations ↔
      ∃ location ∈ locations, location.offset.toNat ≤ position ∧ position < location.stop := by
  induction follow with
  | @nil start =>
    simp only [totalLength, List.map_nil, List.sum_nil, List.not_mem_nil, false_and, exists_false, iff_false]
    omega
  | @cons start location rest starts next ih =>
    rw [List.exists_mem_cons_iff, ← ih, totalLength_cons, stop, starts]
    omega

end Follow

end DataLocation

open DataLocation (totalLength totalLength_cons)

namespace PoolKind

variable {σ ρ : Type} {kind : PoolKind σ ρ} {builder later last : σ} {request : ρ} {requests : List ρ}
  {results : List (Result DataLocation)} {location : DataLocation}

/-- Whether there is room for a request. -/
def Fits (kind : PoolKind σ ρ) (builder : σ) (request : ρ) : Prop :=
  (kind.data builder).length + (kind.bytes request).length < UInt32.size

/-- A region for a request that starts at an offset. -/
def region (kind : PoolKind σ ρ) (index : UInt32) (offset : Nat) (request : ρ) : DataLocation :=
  .inPool index (UInt32.ofNat offset) (UInt32.ofNat (kind.bytes request).length)

/-- What becomes of requests in turn. -/
inductive Packs (kind : PoolKind σ ρ) : σ → List ρ → List (Result DataLocation) → σ → Prop
  | done {builder : σ} : Packs kind builder [] [] builder
  | accept {builder later last : σ} {request : ρ} {requests : List ρ} {results : List (Result DataLocation)}
    (fits : kind.Fits builder request) (filled : kind.isEmpty later = false)
    (index : kind.poolIndex later = kind.poolIndex builder)
    (data : kind.data later = kind.data builder ++ kind.bytes request)
    (accepted : kind.append builder request =
      .ok (kind.region (kind.poolIndex builder) (kind.data builder).length request, later))
    (rest : Packs kind later requests results last) :
    Packs kind builder (request :: requests)
      (.ok (kind.region (kind.poolIndex builder) (kind.data builder).length request) :: results) last
  | refuse {builder last : σ} {request : ρ} {requests : List ρ} {results : List (Result DataLocation)}
    (large : ¬kind.Fits builder request)
    (refused : kind.append builder request = .error (kind.refusal request).error)
    (rest : Packs kind builder requests results last) :
    Packs kind builder (request :: requests) (.error (kind.refusal request).error :: results) last

private theorem packs_appendAll (kind : PoolKind σ ρ) (builder : σ) (requests : List ρ) :
    Packs kind builder requests (kind.appendAll builder requests).1 (kind.appendAll builder requests).2 := by
  induction requests generalizing builder with
  | nil => exact .done
  | cons request rest ih =>
    by_cases fits : kind.Fits builder request
    · obtain ⟨later, accepted, filled, index, data⟩ := kind.append_of_fits builder request fits
      rw [appendAll, accepted]
      exact .accept fits filled index data accepted (ih later)
    · have refused := kind.append_of_not_fits builder request fits
      rw [appendAll, refused]
      exact .refuse fits refused (ih builder)

theorem offset_region {offset : Nat} (index : UInt32) (fits : offset + (kind.bytes request).length < UInt32.size) :
    (kind.region index offset request).offset.toNat = offset :=
  UInt32.toNat_ofNat_of_lt' (Nat.lt_of_le_of_lt (Nat.le_add_right _ _) fits)

theorem length_region {offset : Nat} (index : UInt32) (fits : offset + (kind.bytes request).length < UInt32.size) :
    (kind.region index offset request).length.toNat = (kind.bytes request).length :=
  UInt32.toNat_ofNat_of_lt' (Nat.lt_of_le_of_lt (Nat.le_add_left _ _) fits)

namespace Packs

theorem count (packs : Packs kind builder requests results last) : results.length = requests.length := by
  induction packs with
  | done => rfl
  | accept _ _ _ _ _ _ ih => rw [List.length_cons, List.length_cons, ih]
  | refuse _ _ _ ih => rw [List.length_cons, List.length_cons, ih]

/-- What the pool is going to hold at the end are the bytes of the accepted requests, after those it held before. -/
private theorem data_eq (packs : Packs kind builder requests results last) :
    kind.data last = kind.data builder ++ (acceptedRequests requests results).flatMap kind.bytes := by
  induction packs with
  | done => simp [acceptedRequests]
  | accept _ _ _ data _ _ ih => rw [ih, data, List.append_assoc, acceptedRequests_ok, List.flatMap_cons]
  | refuse _ _ _ ih => exact ih

theorem totalLength_eq (packs : Packs kind builder requests results last) :
    totalLength (acceptedRegions results) = ((acceptedRequests requests results).flatMap kind.bytes).length := by
  induction packs with
  | done => rfl
  | accept fits _ _ _ _ _ ih =>
    rw [acceptedRegions_ok, acceptedRequests_ok, totalLength_cons, length_region _ fits, ih, List.flatMap_cons,
      List.length_append]
  | refuse _ _ _ ih => exact ih

theorem isEmpty_iff (packs : Packs kind builder requests results last) :
    kind.isEmpty last = true ↔ kind.isEmpty builder = true ∧ acceptedRegions results = [] := by
  induction packs with
  | done => simp [acceptedRegions]
  | accept _ filled _ _ _ _ ih =>
    rw [ih, filled, acceptedRegions_ok]
    simp
  | refuse _ _ _ ih => exact ih

theorem follow (packs : Packs kind builder requests results last) :
    DataLocation.Follow (kind.data builder).length (acceptedRegions results) := by
  induction packs with
  | done => exact .nil
  | accept fits _ _ data _ _ ih =>
    rw [data, List.length_append] at ih
    refine .cons (offset_region _ fits) ?_
    rwa [DataLocation.stop, offset_region _ fits, length_region _ fits]
  | refuse _ _ _ ih => exact ih

private theorem appendAll_accepted (packs : Packs kind builder requests results last) :
    kind.appendAll builder (acceptedRequests requests results) = ((acceptedRegions results).map .ok, last) := by
  induction packs with
  | done => rfl
  | accept _ _ _ _ accepted _ ih =>
    simp only [acceptedRequests_ok, acceptedRegions_ok, appendAll, accepted, ih, List.map_cons]
  | refuse _ _ _ ih => exact ih

/-- What becomes of the request at a place is told by the lengths of the regions that were accepted before it. -/
theorem result_at (packs : Packs kind builder requests results last) {place offset : Nat}
    (found : requests[place]? = some request)
    (starts : offset = (kind.data builder).length + totalLength (acceptedRegions (results.take place))) :
    (offset + (kind.bytes request).length < UInt32.size →
      results[place]? = some (.ok (kind.region (kind.poolIndex builder) offset request))) ∧
    (UInt32.size ≤ offset + (kind.bytes request).length →
      results[place]? = some (.error (kind.refusal request).error)) := by
  induction packs generalizing place with
  | done => simp at found
  | @accept builder later last first requests results fits _ index data _ _ ih =>
    cases place with
    | zero =>
      obtain rfl : first = request := by simpa using found
      obtain rfl : offset = (kind.data builder).length := by simpa [acceptedRegions, totalLength] using starts
      exact ⟨fun _ => rfl, fun large => absurd fits (Nat.not_lt.mpr large)⟩
    | succ place =>
      rw [List.take_succ_cons, acceptedRegions_ok, totalLength_cons, length_region _ fits] at starts
      rw [← index]
      exact ih found (by rw [starts, data, List.length_append, Nat.add_assoc])
  | @refuse builder last first requests results large _ _ ih =>
    cases place with
    | zero =>
      obtain rfl : first = request := by simpa using found
      obtain rfl : offset = (kind.data builder).length := by simpa [acceptedRegions, totalLength] using starts
      exact ⟨fun fits => absurd fits large, fun _ => rfl⟩
    | succ place => exact ih found starts

end Packs

/-- How regions for requests are laid out in a new pool. Regions of 4 GiB and more, and those that would make the pool
as long as that, are refused. -/
structure LaysOut (kind : PoolKind σ ρ) (index : UInt32) (requests : List ρ) (results : List (Result DataLocation))
    (last : σ) : Prop where
  count : results.length = requests.length
  accepted : ∀ (place : Nat) (request : ρ), requests[place]? = some request →
    totalLength (acceptedRegions (results.take place)) + (kind.bytes request).length < UInt32.size →
      ∃ location, results[place]? = some (.ok location) ∧ location.pointer = none ∧ location.poolIndex = index ∧
        location.offset.toNat = totalLength (acceptedRegions (results.take place)) ∧
        location.length.toNat = (kind.bytes request).length
  refused : ∀ (place : Nat) (request : ρ), requests[place]? = some request →
    UInt32.size ≤ totalLength (acceptedRegions (results.take place)) + (kind.bytes request).length →
      results[place]? = some (.error (kind.refusal request).error)
  /-- A builder that refuses requests is as it would be if they had not been made. -/
  traceless : kind.appendAll (kind.new index) (acceptedRequests requests results) =
    ((acceptedRegions results).map .ok, last)
  disjoint : (acceptedRegions results).Pairwise fun first second => first.stop ≤ second.offset.toNat
  covered : ∀ position, position < totalLength (acceptedRegions results) ↔
    ∃ location ∈ acceptedRegions results, location.offset.toNat ≤ position ∧ position < location.stop
  empty : kind.isEmpty last = true ↔ acceptedRegions results = []
  /-- The bytes of the accepted requests are as many as their regions have together. -/
  filled : ((acceptedRequests requests results).flatMap kind.bytes).length = totalLength (acceptedRegions results)
  finished : ∀ store created middle,
    Memory.create store (UInt64.ofNat (totalLength (acceptedRegions results))) = .ok (created, middle) →
      ∃ (later : FileStore) (pool : NewPool store later ((acceptedRequests requests results).flatMap kind.bytes)),
        kind.finish last store = .ok (pool.memory, later) ∧ store.IsKept later
  unfinished : ∀ store error,
    Memory.create store (UInt64.ofNat (totalLength (acceptedRegions results))) = .error error →
      kind.finish last store = .error error

private theorem Packs.laysOut {index : UInt32} (packs : Packs kind (kind.new index) requests results last) :
    LaysOut kind index requests results last := by
  have data : kind.data last = (acceptedRequests requests results).flatMap kind.bytes := by
    rw [packs.data_eq, kind.data_new, List.nil_append]
  have total : (kind.data last).length = totalLength (acceptedRegions results) := by
    rw [data, packs.totalLength_eq]
  have starts (place : Nat) : totalLength (acceptedRegions (results.take place)) =
      (kind.data (kind.new index)).length + totalLength (acceptedRegions (results.take place)) := by
    rw [kind.data_new, List.length_nil, Nat.zero_add]
  have follow := packs.follow
  rw [kind.data_new, List.length_nil] at follow
  constructor
  case count => exact packs.count
  case accepted =>
    intro place request found fits
    refine ⟨_, (packs.result_at found (starts place)).1 fits, rfl, kind.poolIndex_new index, ?_, ?_⟩
    · exact offset_region _ fits
    · exact length_region _ fits
  case refused => exact fun place request found => (packs.result_at found (starts place)).2
  case traceless => exact packs.appendAll_accepted
  case disjoint => exact follow.pairwise
  case covered =>
    intro position
    rw [← follow.covered_iff, Nat.zero_add]
    exact (and_iff_right (Nat.zero_le position)).symm
  case empty =>
    rw [packs.isEmpty_iff, kind.isEmpty_new]
    exact and_iff_right rfl
  case filled => exact packs.totalLength_eq.symm
  case finished =>
    intro store created middle allocated
    rw [← data]
    exact kind.finish_of_create last store created middle (total ▸ allocated)
  case unfinished => exact fun store error failed => kind.finish_of_not_create last store error (total ▸ failed)

theorem laysOut_appendAll (kind : PoolKind σ ρ) (index : UInt32) (requests : List ρ) :
    LaysOut kind index requests (kind.appendAll (kind.new index) requests).1
      (kind.appendAll (kind.new index) requests).2 :=
  (packs_appendAll kind (kind.new index) requests).laysOut

private theorem outputs_bytes (lengths : List UInt32) :
    lengths.flatMap outputs.bytes = List.replicate (lengths.flatMap outputs.bytes).length 0 := by
  refine List.eq_replicate_iff.mpr ⟨rfl, fun byte member => ?_⟩
  obtain ⟨length, -, zero⟩ := List.mem_flatMap.mp member
  exact List.eq_of_mem_replicate zero

/-- Whatever is appended, the regions that builders accept tile the new pool, which holds the constants that were
accepted, or zeros for outputs. -/
theorem accepted_regions_tile_pools (index : UInt32) :
    (∀ regions : List (List UInt8),
      LaysOut constants index regions (constants.appendAll (.new index) regions).1
        (constants.appendAll (.new index) regions).2) ∧
    ∀ lengths : List UInt32,
      LaysOut outputs index lengths (outputs.appendAll (.new index) lengths).1
        (outputs.appendAll (.new index) lengths).2 ∧
      (acceptedRequests lengths (outputs.appendAll (.new index) lengths).1).flatMap outputs.bytes =
        List.replicate (totalLength (acceptedRegions (outputs.appendAll (.new index) lengths).1)) 0 := by
  refine ⟨laysOut_appendAll constants index, fun lengths => ?_⟩
  have laid := laysOut_appendAll outputs index lengths
  exact ⟨laid, laid.filled ▸ outputs_bytes _⟩

/-- A region that is refused leaves no gap. -/
example : (outputs.appendAll (.new 0) [8, 4, 0xFFFFFFFF, 1]).1 =
    [.ok (.inPool 0 0 8), .ok (.inPool 0 8 4), .error LayoutFault.outputsTooLarge.error, .ok (.inPool 0 12 1)] := rfl

end PoolKind

end NeuralDevice
