import NeuralDevice.Performance
import NeuralDevice.Proofs.Result

/-!
Looking up performance figures. A table's entries are in ascending order of their types, and the binary search
finds every one of them.
-/

namespace NeuralDevice

theorem Coded.lt_iff {β : Type} [CodeTable β] {first second : Coded β} :
    first < second ↔ first.code.toNat < second.code.toNat :=
  UInt32.lt_iff_toNat_lt

theorem Coded.code_injective {β : Type} [CodeTable β] {first second : Coded β} (same : first.code = second.code) :
    first = second := by
  have found := ofCode?_code first
  rw [same, ofCode?_code] at found
  exact (Option.some.inj found).symm

theorem Coded.eq_of_not_lt {β : Type} [CodeTable β] {first second : Coded β} (notBelow : ¬first < second)
    (notAbove : ¬second < first) : first = second := by
  rw [lt_iff] at notBelow notAbove
  exact code_injective (UInt32.toNat_inj.mp (by omega))

namespace PerformanceTable

theorem isAscending_iff {entries : List OperandPerformance} :
    isAscending entries = true ↔
      entries.Pairwise fun first second => first.type.code.toNat < second.type.code.toNat := by
  induction entries with
  | nil => simp [isAscending]
  | cons first rest ih =>
    cases rest with
    | nil => simp [isAscending]
    | cons second rest =>
      simp only [isAscending, Bool.and_eq_true, decide_eq_true_eq, ih, Coded.lt_iff,
        List.pairwise_cons (l := second :: rest), List.mem_cons, forall_eq_or_imp]
      constructor
      · intro found
        rcases found with ⟨below, ascending⟩
        refine ⟨⟨below, fun entry member => ?_⟩, ascending⟩
        exact Nat.lt_trans below ((List.pairwise_cons.mp ascending).1 entry member)
      · intro found
        rcases found with ⟨⟨below, _⟩, ascending⟩
        exact ⟨below, ascending⟩

theorem place_lt_iff {entries : Array OperandPerformance} (ascending : isAscending entries.toList = true)
    {first second : Nat} {earlier later : OperandPerformance}
    (here : entries[first]? = some earlier) (there : entries[second]? = some later) :
    earlier.type < later.type ↔ first < second := by
  rw [isAscending_iff, List.pairwise_iff_getElem] at ascending
  obtain ⟨firstInside, rfl⟩ := Array.getElem?_eq_some_iff.mp here
  obtain ⟨secondInside, rfl⟩ := Array.getElem?_eq_some_iff.mp there
  have ordered : ∀ low high (lowInside : low < entries.size) (highInside : high < entries.size),
      low < high → entries[low].type.code.toNat < entries[high].type.code.toNat := by
    intro low high lowInside highInside
    exact ascending low high lowInside highInside
  rw [Coded.lt_iff]
  rcases Nat.lt_trichotomy first second with before | rfl | after
  · exact iff_of_true (ordered _ _ firstInside secondInside before) before
  · simp
  · have opposite := ordered _ _ secondInside firstInside after
    omega

/-- The search goes on below or above the entry in the middle of its window, or ends with it. -/
theorem search_of_middle {entries : Array OperandPerformance} {type : OperandType} {low high : Nat}
    {entry : OperandPerformance} (nonempty : low < high) (found : entries[(low + high) / 2]? = some entry) :
    search entries type low high =
      if entry.type < type then search entries type ((low + high) / 2 + 1) high
      else if type < entry.type then search entries type low ((low + high) / 2)
      else some entry.info := by
  rw [search]
  simp only [nonempty, if_true, found]

private theorem search_of_getElem? {entries : Array OperandPerformance}
    (ascending : isAscending entries.toList = true) {entry : OperandPerformance}
    {low high place : Nat} (present : entries[place]? = some entry) (reached : low ≤ place)
    (inside : place < high) (bounded : high ≤ entries.size) :
    search entries entry.type low high = some entry.info := by
  induction low, high using search.induct entries entry.type with
  | case1 low high nonempty middle missing =>
    have outside := Array.getElem?_eq_none_iff.mp missing
    omega
  | case2 low high nonempty middle other found less ih =>
    have after := (place_lt_iff ascending found present).mp less
    rw [search_of_middle nonempty found, if_pos less]
    exact ih after inside bounded
  | case3 low high nonempty middle other found notLess more ih =>
    have before := (place_lt_iff ascending present found).mp more
    rw [search_of_middle nonempty found, if_neg notLess, if_pos more]
    exact ih reached before (by omega)
  | case4 low high nonempty middle other found notLess notMore =>
    have placed : place = middle := by
      rw [place_lt_iff ascending found present] at notLess
      rw [place_lt_iff ascending present found] at notMore
      omega
    rw [placed, found] at present
    obtain rfl : other = entry := Option.some.inj present
    rw [search_of_middle nonempty found, if_neg notLess, if_neg notLess]
  | case5 low high empty => omega

private theorem exists_of_search {entries : Array OperandPerformance} {type : OperandType} {low high : Nat}
    {info : PerformanceInfo} (finds : search entries type low high = some info) :
    ∃ entry ∈ entries, entry.type = type ∧ entry.info = info := by
  induction low, high using search.induct entries type with
  | case1 low high nonempty middle missing =>
    rw [search] at finds
    simp [nonempty, show (low + high) / 2 = middle from rfl, missing] at finds
  | case2 low high nonempty middle entry found less ih =>
    rw [search_of_middle nonempty found, if_pos less] at finds
    exact ih finds
  | case3 low high nonempty middle entry found notLess more ih =>
    rw [search_of_middle nonempty found, if_neg notLess, if_pos more] at finds
    exact ih finds
  | case4 low high nonempty middle entry found notLess notMore =>
    rw [search_of_middle nonempty found, if_neg notLess, if_neg notMore] at finds
    exact ⟨entry, Array.mem_of_getElem? found, Coded.eq_of_not_lt notLess notMore, Option.some.inj finds⟩
  | case5 low high empty =>
    rw [search] at finds
    simp [empty] at finds

theorem lookup_of_mem {table : PerformanceTable} (ascending : isAscending table.entries = true)
    {entry : OperandPerformance} (member : entry ∈ table.entries) :
    table.lookup entry.type = entry.info := by
  obtain ⟨place, inside, located⟩ := List.mem_iff_getElem.mp member
  have present : table.entries.toArray[place]? = some entry := by simp [inside, located]
  have found : search table.entries.toArray entry.type 0 table.entries.toArray.size =
      some entry.info :=
    search_of_getElem? ascending present (Nat.zero_le place) inside (Nat.le_refl _)
  simp only [lookup, found, Option.getD_some]

/-- The figures of the first entry of a type, or none's figures. -/
def scan (table : PerformanceTable) (type : OperandType) : PerformanceInfo :=
  ((table.entries.find? fun entry => entry.type = type).map (·.info)).getD .none

/-- In an ascending table the binary search and a scan of all entries find the same figures. -/
theorem lookup_eq_scan {table : PerformanceTable} (ascending : isAscending table.entries = true)
    (type : OperandType) : table.lookup type = table.scan type := by
  unfold scan
  cases scanned : table.entries.find? fun entry => entry.type = type with
  | some entry =>
    have typed : entry.type = type := by simpa using List.find?_some scanned
    rw [← typed, lookup_of_mem ascending (List.mem_of_find?_eq_some scanned)]
    rfl
  | none =>
    cases searched : search table.entries.toArray type 0 table.entries.toArray.size with
    | none => simp only [lookup, searched, Option.getD_none, Option.map_none]
    | some info =>
      obtain ⟨entry, member, typed, _⟩ := exists_of_search searched
      exact absurd (decide_eq_true typed) (List.find?_eq_none.mp scanned entry (List.mem_toArray.mp member))

/-- A table is made of exactly the entries that ascend, and holds them as they are. -/
theorem create_eq_ok_iff {entries : List OperandPerformance} {table : PerformanceTable} :
    create entries = .ok table ↔ isAscending entries = true ∧ table.entries = entries := by
  rw [create, Result.demand_eq_ok_iff, Result.pure_eq_ok_iff]
  refine and_congr_right fun _ => ?_
  constructor
  · rintro rfl
    rfl
  · rintro rfl
    rfl

end PerformanceTable

end NeuralDevice
