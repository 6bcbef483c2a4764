import NeuralDevice.Proofs.Wire.Record
import NeuralDevice.Wire.Field

/-!
Fields read back. The records written for a value, merged one after the other, make that value again; parts
that do so make messages that do, as long as no two parts own the same tag. The only thing that is not kept
is the sign of a zero that is left out.
-/

namespace NeuralDevice

/-- The number with the sign of a zero dropped. -/
def Single.settled (x : Single) : Single := if x = ⟨0x80000000⟩ then .zero else x

theorem Single.isZero_iff {x : Single} : x.isZero = true ↔ x = .zero ∨ x = ⟨0x80000000⟩ := by
  constructor
  · intro found
    have level : x.rank = 0 := by
      simp only [isZero, eq, Bool.and_eq_true, decide_eq_true_eq] at found
      exact found.2
    have small : x.magnitude = 0 := by
      unfold rank at level
      split at level <;> omega
    have bounded := x.bits.toNat_lt
    simp only [magnitude, signUnit] at small
    have bits : x.bits.toNat = 0 ∨ x.bits.toNat = 0x80000000 := by omega
    rcases bits with positive | negative
    · exact .inl (congrArg Single.mk (UInt32.toNat_inj.mp positive))
    · exact .inr (congrArg Single.mk (UInt32.toNat_inj.mp negative))
  · rintro (rfl | rfl) <;> rfl

namespace Wire

variable {α β : Type}

/-- What was written for a value is merged into the settled value, if no two tags of the field are alike, and
the settled value is written alike; messages inside it may nest `limit` deep. -/
structure Field.Merges (field : Field α) (settled : α → α) (limit : Nat) : Prop where
  owned : ∀ value, ∀ record ∈ field.records value, record.tag ∈ field.tags
  written : ∀ value, ∀ record ∈ field.records value, record.payload.IsWritten
  merged : field.tags.Nodup → ∀ value, (∀ record ∈ field.records value, record.payload.Fits) →
    (field.records value).foldlM (field.merge limit) field.initial = some (settled value)
  records_settled : ∀ value, field.records (settled value) = field.records value

/-- The tags can be written, and no two are alike. -/
def Field.WellTagged (field : Field α) : Prop := (∀ tag ∈ field.tags, IsTag tag) ∧ field.tags.Nodup

instance (field : Field α) : Decidable field.WellTagged := inferInstanceAs (Decidable (_ ∧ _))

structure Field.ReadsBack (field : Field α) (settled : α → α) (limit : Nat) : Prop
    extends field.Merges settled limit where
  tagged : field.WellTagged

namespace Field

/-- A record's payload is no longer than what is written for the record. -/
theorem fits_of_length_encode {field : Field α} {value : α}
    (short : (field.encode value).length < UInt64.size) :
    ∀ record ∈ field.records value, record.payload.Fits := by
  intro record member
  have within : record.write.length ≤ (field.encode value).length :=
    (List.sublist_flatten_of_mem (List.mem_map_of_mem member)).length_le
  obtain ⟨tag, payload⟩ := record
  cases payload with
  | bytes data =>
    simp only [Record.write, List.length_append] at within
    exact Nat.lt_of_le_of_lt (by omega) short
  | varint value => trivial
  | fixed64 => trivial
  | group => trivial
  | fixed32 value => trivial

/-- Records of the field's own tags are merged, none is dropped. -/
private theorem foldlM_absorb {field : Field α} {limit : Nat} {records : List Record}
    (owned : ∀ record ∈ records, record.tag ∈ field.tags) (start : α) :
    records.foldlM (field.absorb limit) start = records.foldlM (field.merge limit) start := by
  induction records generalizing start with
  | nil => rfl
  | cons record rest ih =>
    rw [List.forall_mem_cons] at owned
    have kept : field.absorb limit start record = field.merge limit start record := by
      simp [absorb, owned.1]
    rw [List.foldlM_cons, List.foldlM_cons, kept]
    exact congrArg _ (funext fun value => ih owned.2 value)

namespace ReadsBack

variable {field : Field α} {settled : α → α} {limit : Nat}

theorem readInto_encode (reads : field.ReadsBack settled limit) {value : α}
    (fits : ∀ record ∈ field.records value, record.payload.Fits) :
    field.readInto limit field.initial (field.encode value) = some (settled value) := by
  have split : readRecords limit (field.encode value) = some (field.records value) :=
    readRecords_flatMap_write (fun record member =>
      ⟨reads.tagged.1 _ (reads.owned value record member), reads.written value record member,
        fits record member⟩) limit
  simp only [readInto, split, Option.bind_eq_bind, Option.bind_some,
    foldlM_absorb (reads.owned value), reads.merged reads.tagged.2 value fits]

theorem encode_settled (reads : field.ReadsBack settled limit) (value : α) :
    field.encode (settled value) = field.encode value := by
  rw [encode, reads.records_settled, encode]

theorem mergeNested_encode (reads : field.ReadsBack settled limit) {value : α}
    (short : (field.encode value).length < UInt64.size) :
    field.mergeNested (limit + 1) field.initial (.bytes (field.encode value)) = some (settled value) :=
  reads.readInto_encode (fits_of_length_encode short)

end ReadsBack

/-- A field that writes one record, or none for values like the initial one. -/
theorem Merges.of_optional {field : Field α} {settled : α → α} {tag limit : Nat} {absent : α → Prop}
    [DecidablePred absent] {payload : α → Payload} (tags : field.tags = [tag])
    (records : ∀ value, field.records value = if absent value then [] else [⟨tag, payload value⟩])
    (written : ∀ value, (payload value).IsWritten)
    (left : ∀ value, absent value → settled value = field.initial)
    (merged : ∀ value, ¬absent value →
      field.merge limit field.initial ⟨tag, payload value⟩ = some (settled value))
    (same : ∀ value, field.records (settled value) = field.records value) :
    field.Merges settled limit where
  owned value record member := by
    rw [records] at member
    split at member
    · simp at member
    · cases List.mem_singleton.mp member
      simp [tags]
  written value record member := by
    rw [records] at member
    split at member
    · simp at member
    · cases List.mem_singleton.mp member
      exact written value
  merged _ value _ := by
    rw [records]
    split
    · rename_i missing
      rw [left value missing]
      rfl
    · rename_i present
      rw [List.foldlM_cons, merged value present]
      rfl
  records_settled := same

section Leaves

variable {tag limit : Nat}

theorem number_merges [Scalar α] : (number tag : Field α).Merges id limit := by
  refine .of_optional rfl (fun _ => rfl) (fun _ => trivial) ?_ ?_ fun _ => rfl
  · intro value zero
    rw [id, ← Scalar.ofBits_toBits value, zero]
    rfl
  · intro value _
    exact congrArg some (Scalar.ofBits_toBits value)

theorem single_merges : (single tag).Merges Single.settled limit := by
  refine .of_optional rfl (fun _ => rfl) (fun _ => trivial) ?_ ?_ ?_
  · intro value zero
    rcases Single.isZero_iff.mp zero with rfl | rfl <;> rfl
  · intro value nonzero
    have other : value ≠ ⟨0x80000000⟩ := fun negative => nonzero (Single.isZero_iff.mpr (.inr negative))
    rw [Single.settled, if_neg other]
    rfl
  · intro value
    by_cases negative : value = ⟨0x80000000⟩
    · subst negative
      rfl
    · rw [Single.settled, if_neg negative]

theorem bytes_merges : (bytes tag).Merges id limit := by
  refine .of_optional rfl (fun _ => rfl) (fun _ => trivial) ?_ (fun _ _ => rfl) fun _ => rfl
  intro value empty
  exact List.isEmpty_iff.mp empty

private theorem fromUTF8?_toUTF8 (text : String) :
    String.fromUTF8? ⟨text.toUTF8.data.toList.toArray⟩ = some text := by
  simp only [Array.toArray_toList]
  exact dif_pos text.isValidUTF8

theorem text_merges : (text tag).Merges id limit := by
  refine .of_optional rfl (fun _ => rfl) (fun _ => trivial) ?_ ?_ fun _ => rfl
  · intro value empty
    exact String.isEmpty_iff.mp empty
  · intro value _
    exact fromUTF8?_toUTF8 value

private theorem unpackNumbers_flatMap [Scalar α] (values : List α) :
    unpackNumbers (values.flatMap fun value => Varint.write (Scalar.toBits value)) = some values := by
  induction values with
  | nil => rw [List.flatMap_nil, unpackNumbers, if_pos rfl]
  | cons value rest ih =>
    have first := Varint.read_write (Scalar.toBits value)
      (rest.flatMap fun value => Varint.write (Scalar.toBits value))
    have shorter := Varint.length_read first
    rw [List.flatMap_cons, unpackNumbers, if_neg (List.ne_nil_of_length_pos (Nat.zero_lt_of_lt shorter))]
    split
    · rename_i none
      rw [first] at none
      cases none
    · rename_i bits after found
      rw [first] at found
      cases found
      rw [ih, Scalar.ofBits_toBits]
      rfl

theorem numbers_merges [Scalar α] : (numbers tag : Field (List α)).Merges id limit := by
  refine .of_optional rfl (fun _ => rfl) (fun _ => trivial) ?_ ?_ fun _ => rfl
  · intro values empty
    exact List.isEmpty_iff.mp empty
  · intro values _
    exact congrArg (Option.map ([] ++ ·)) (unpackNumbers_flatMap values)

private theorem unpackSingles_flatMap (values : List Single) :
    unpackSingles (values.flatMap fun value => writeFixed32 value.bits) = some values := by
  induction values with
  | nil => rfl
  | cons value rest ih =>
    have first := readFixed32_write value.bits []
    rw [List.append_nil] at first
    simp only [writeFixed32] at first ih ⊢
    simp only [List.flatMap_cons, List.cons_append, List.nil_append, unpackSingles, first, ih,
      Option.map_some]

theorem singles_merges : (singles tag).Merges id limit := by
  refine .of_optional rfl (fun _ => rfl) (fun _ => trivial) ?_ ?_ fun _ => rfl
  · intro values empty
    exact List.isEmpty_iff.mp empty
  · intro values _
    exact congrArg (Option.map ([] ++ ·)) (unpackSingles_flatMap values)

end Leaves

section Nesting

variable {tag limit : Nat} {inner : Field α} {settled : α → α}

theorem message_merges (reads : inner.ReadsBack settled limit) :
    (message tag inner).Merges (Option.map settled) (limit + 1) where
  owned value record member := by
    cases value with
    | none => simp [message] at member
    | some value =>
      cases List.mem_singleton.mp member
      simp [message]
  written value record member := by
    cases value with
    | none => simp [message] at member
    | some value =>
      cases List.mem_singleton.mp member
      trivial
  merged _ value fits := by
    cases value with
    | none => rfl
    | some value =>
      have short := fits _ List.mem_cons_self
      simp only [message, List.foldlM_cons, Option.getD_none, reads.mergeNested_encode short]
      rfl
  records_settled value := by
    cases value with
    | none => rfl
    | some value => simp only [message, Option.map_some, reads.encode_settled]

/-- Repeated messages are merged in order, whatever was read before. -/
private theorem foldlM_messages (reads : inner.ReadsBack settled limit) (before values : List α)
    (fits : ∀ record ∈ (messages tag inner).records values, record.payload.Fits) :
    ((messages tag inner).records values).foldlM ((messages tag inner).merge (limit + 1)) before =
      some (before ++ values.map settled) := by
  induction values generalizing before with
  | nil =>
    rw [List.map_nil, List.append_nil]
    rfl
  | cons value rest ih =>
    simp only [messages, List.map_cons, List.forall_mem_cons] at fits ih ⊢
    rw [List.foldlM_cons, reads.mergeNested_encode fits.1]
    exact (ih (before ++ [settled value]) fits.2).trans (by simp)

theorem messages_merges (reads : inner.ReadsBack settled limit) :
    (messages tag inner).Merges (List.map settled) (limit + 1) where
  owned values record member := by
    obtain ⟨value, _, rfl⟩ := List.mem_map.mp member
    simp [messages]
  written values record member := by
    obtain ⟨value, _, rfl⟩ := List.mem_map.mp member
    trivial
  merged _ values fits := foldlM_messages reads [] values fits
  records_settled values := by
    simp only [messages, List.map_map]
    exact List.map_congr_left fun value _ => by simp only [Function.comp, reads.encode_settled]

end Nesting

section Parts

variable {first : Field α} {second : Field β} {settledFirst : α → α} {settledSecond : β → β} {limit : Nat}

/-- Records of the first part change the first part only. -/
private theorem foldlM_both_first {records : List Record}
    (owned : ∀ record ∈ records, record.tag ∈ first.tags) (value : α × β) :
    records.foldlM ((first.both second).merge limit) value =
      (records.foldlM (first.merge limit) value.1).map fun part => (part, value.2) := by
  induction records generalizing value with
  | nil => rfl
  | cons record rest ih =>
    rw [List.forall_mem_cons] at owned
    have own : (first.both second).merge limit value record =
        (first.merge limit value.1 record).map fun part => (part, value.2) := by
      simp [both, owned.1]
    rw [List.foldlM_cons, List.foldlM_cons, own]
    cases first.merge limit value.1 record with
    | none => rfl
    | some part => exact ih owned.2 (part, value.2)

/-- Records of the second part change the second part only. -/
private theorem foldlM_both_second {records : List Record}
    (owned : ∀ record ∈ records, record.tag ∉ first.tags) (value : α × β) :
    records.foldlM ((first.both second).merge limit) value =
      (records.foldlM (second.merge limit) value.2).map fun part => (value.1, part) := by
  induction records generalizing value with
  | nil => rfl
  | cons record rest ih =>
    rw [List.forall_mem_cons] at owned
    have own : (first.both second).merge limit value record =
        (second.merge limit value.2 record).map fun part => (value.1, part) := by
      simp [both, owned.1]
    rw [List.foldlM_cons, List.foldlM_cons, own]
    cases second.merge limit value.2 record with
    | none => rfl
    | some part => exact ih owned.2 (value.1, part)

theorem both_merges (mergesFirst : first.Merges settledFirst limit)
    (mergesSecond : second.Merges settledSecond limit) :
    (first.both second).Merges (Prod.map settledFirst settledSecond) limit where
  owned value record member := by
    apply List.mem_append.mpr
    rcases List.mem_append.mp member with own | other
    · exact .inl (mergesFirst.owned value.1 record own)
    · exact .inr (mergesSecond.owned value.2 record other)
  written value record member := by
    rcases List.mem_append.mp member with own | other
    · exact mergesFirst.written value.1 record own
    · exact mergesSecond.written value.2 record other
  merged distinct value fits := by
    obtain ⟨distinctFirst, distinctSecond, apart⟩ := List.nodup_append.mp distinct
    have own := fun record member => fits record (List.mem_append_left _ member)
    have other := fun record member => fits record (List.mem_append_right _ member)
    have foreign : ∀ record ∈ second.records value.2, record.tag ∉ first.tags := by
      intro record member shared
      exact apart _ shared _ (mergesSecond.owned value.2 record member) rfl
    calc (first.records value.1 ++ second.records value.2).foldlM ((first.both second).merge limit)
          (first.initial, second.initial)
      _ = (second.records value.2).foldlM ((first.both second).merge limit)
          (settledFirst value.1, second.initial) := by
        rw [List.foldlM_append, foldlM_both_first (mergesFirst.owned value.1),
          mergesFirst.merged distinctFirst value.1 own]
        rfl
      _ = some (settledFirst value.1, settledSecond value.2) := by
        rw [foldlM_both_second foreign, mergesSecond.merged distinctSecond value.2 other]
        rfl
  records_settled value := by
    simp only [both, Prod.map_fst, Prod.map_snd, mergesFirst.records_settled, mergesSecond.records_settled]

/-- Records are merged alike into a value and into its conversion. -/
private theorem foldlM_convert {into : α → β} {out : β → α} (inverse : ∀ value, out (into value) = value)
    (records : List Record) (start : α) :
    records.foldlM ((first.convert into out).merge limit) (into start) =
      (records.foldlM (first.merge limit) start).map into := by
  induction records generalizing start with
  | nil => rfl
  | cons record rest ih =>
    have step : (first.convert into out).merge limit (into start) record =
        (first.merge limit start record).map into := by
      simp [convert, inverse]
    rw [List.foldlM_cons, List.foldlM_cons, step]
    cases first.merge limit start record with
    | none => rfl
    | some part => exact ih part

/-- A message made of well tagged parts reads back what the parts merge. -/
theorem convert_readsBack {into : α → β} {out : β → α} {settled : β → β}
    (merges : first.Merges settledFirst limit) (tagged : decide first.WellTagged = true)
    (inverse : ∀ value, out (into value) = value)
    (agrees : ∀ value, into (settledFirst (out value)) = settled value) :
    (first.convert into out).ReadsBack settled limit where
  tagged := of_decide_eq_true tagged
  owned value := merges.owned (out value)
  written value := merges.written (out value)
  merged distinct value fits := by
    rw [← agrees]
    exact (foldlM_convert inverse _ _).trans
      (congrArg (Option.map into) (merges.merged distinct (out value) fits))
  records_settled value := by
    simp only [convert, ← agrees, inverse, merges.records_settled]

end Parts

/-- A member of a choice that is merged when nothing was chosen before. -/
structure Choice.Merges (choice : Choice α) (settled : α → α) (limit : Nat) : Prop where
  written : ∀ value, (choice.payload value).IsWritten
  merged : ∀ value, (choice.payload value).Fits →
    choice.merge limit none (choice.payload value) = some (settled value)
  payload_settled : ∀ value, choice.payload (settled value) = choice.payload value

section Choices

variable {tag limit : Nat}

theorem Choice.number_merges [Scalar α] : (Choice.number tag : Choice α).Merges id limit where
  written _ := trivial
  merged value _ := congrArg some (Scalar.ofBits_toBits value)
  payload_settled _ := rfl

theorem Choice.bytes_merges : (Choice.bytes tag).Merges id limit where
  written _ := trivial
  merged _ _ := rfl
  payload_settled _ := rfl

theorem Choice.message_merges {inner : Field α} {settled : α → α} (reads : inner.ReadsBack settled limit) :
    (Choice.message tag inner).Merges settled (limit + 1) where
  written _ := trivial
  merged _ fits := reads.mergeNested_encode fits
  payload_settled value := by simp only [Choice.message, reads.encode_settled]

theorem either_merges {first : Choice α} {second : Choice β} {settledFirst : α → α}
    {settledSecond : β → β} (mergesFirst : first.Merges settledFirst limit)
    (mergesSecond : second.Merges settledSecond limit) :
    (either first second).Merges (Option.map (Sum.map settledFirst settledSecond)) limit where
  owned value record member := by
    rcases value with _ | value | value
    · simp [either] at member
    · cases List.mem_singleton.mp member
      simp [either]
    · cases List.mem_singleton.mp member
      simp [either]
  written value record member := by
    rcases value with _ | value | value
    · simp [either] at member
    · cases List.mem_singleton.mp member
      exact mergesFirst.written value
    · cases List.mem_singleton.mp member
      exact mergesSecond.written value
  merged distinct value fits := by
    rcases value with _ | value | value
    · rfl
    · have merged := mergesFirst.merged value (fits _ List.mem_cons_self)
      simp [either, merged]
    · have merged := mergesSecond.merged value (fits _ List.mem_cons_self)
      have other : second.tag ≠ first.tag := by
        simpa [either, eq_comm] using distinct
      simp [either, merged, other]
  records_settled value := by
    rcases value with _ | value | value
    · rfl
    · simp [either, mergesFirst.payload_settled]
    · simp [either, mergesSecond.payload_settled]

end Choices

end Field

end Wire

end NeuralDevice
