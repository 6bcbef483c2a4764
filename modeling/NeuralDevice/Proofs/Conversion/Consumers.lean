import NeuralDevice.Proofs.Conversion.Hal

/-!
Models of versions 1.0 and 1.2 say how often their operands are used. Both versions accept only the counts that
they would send, so nothing else about a model can be wrong once its parts convert. What the conversions of the two
versions have in common is stated first, and the counts are compared on that basis alone.
-/

namespace NeuralDevice

open Result

namespace Wire.Hal

/-- The parts of a received model that a conversion can refuse. -/
structure Contents where
  operandTypes : List Int32
  lifetimes : List Int32
  consumers : List UInt32
  operations : List Operation
  pools : List Memory
  vendors : List VendorEntry

namespace Contents

/-- The operands that the operations take. -/
def inputs (contents : Contents) : List (List UInt32) := contents.operations.map (·.inputs)

/-- All types and lifetimes are known, all pools can be shared, and the vendors have numbers. -/
structure Converts (dialect : Dialect) (store : FileStore) (contents : Contents) : Prop where
  operandTypes : ∀ code ∈ contents.operandTypes, ∃ type : OperandType, Coded.ofWire dialect code = .ok type
  lifetimes : ∀ code ∈ contents.lifetimes,
    ∃ lifetime : OperandLifetime, WireEnum.ofWire dialect code = .ok lifetime
  operationTypes : ∀ operation ∈ contents.operations,
    ∃ type : OperationType, Coded.ofWire dialect operation.type = .ok type
  pools : ∀ pool ∈ contents.pools, ∃ memory, pool.toCanonical store = .ok memory
  vendors : ∀ entry ∈ contents.vendors, ∃ vendor, entry.toCanonical = .ok vendor

/-- The operations are received, and counting what they take gives the counts that the operands came with. -/
def IsCounted (dialect : Dialect) (contents : Contents) : Prop :=
  ∃ operations, contents.operations.mapM (Wire.Operation.toCanonical dialect) = .ok operations ∧
    countConsumers contents.consumers.length operations = .ok contents.consumers

end Contents

/-- A version whose models say how often their operands are used. -/
structure Counting where
  dialect : Dialect
  /-- The model as it is sent. -/
  Message : Type
  toCanonical : FileStore → Message → Result NeuralDevice.Model
  ofCanonical : NeuralDevice.Model → Result Message
  contents : Message → Contents
  /-- The model with another count for one operand. -/
  recount : Message → Nat → UInt32 → Message

namespace Counting

/-- What can be converted is accepted with the right counts and no others. What is sent has the right counts. -/
structure IsExact (counting : Counting) : Prop where
  accepts : ∀ store message, usesIn (counting.contents message).inputs < 2 ^ 32 →
    ((∃ model, counting.toCanonical store message = .ok model) ↔
      (counting.contents message).Converts counting.dialect store ∧
        CountUses (counting.contents message).inputs (counting.contents message).consumers)
  refuses : ∀ store message model, counting.toCanonical store message = .ok model →
    ∀ operand count old, (counting.contents message).consumers[operand]? = some old → count ≠ old →
      counting.toCanonical store (counting.recount message operand count) =
        .error (.generalFailure
          s!"Invalid numberOfConsumers for operand {operand}, expected {old} but found {count}")
  sends : ∀ model message, counting.ofCanonical model = .ok message →
    (counting.contents message).inputs = model.main.operations.map (·.inputs) ∧
      (counting.contents message).consumers.length = model.main.operands.length ∧
      (usesIn (counting.contents message).inputs < 2 ^ 32 →
        CountUses (counting.contents message).inputs (counting.contents message).consumers)

/-- A model is received and sent as its contents say. Wrong counts are noticed as soon as there are counts. -/
structure Follows (counting : Counting) : Prop where
  receives : ∀ {store message}, (∃ model, counting.toCanonical store message = .ok model) ↔
    (counting.contents message).Converts counting.dialect store ∧
      (counting.contents message).IsCounted counting.dialect
  checks : ∀ {store message operations counts error},
    (counting.contents message).operations.mapM (Wire.Operation.toCanonical counting.dialect) = .ok operations →
    countConsumers (counting.contents message).consumers.length operations = .ok counts →
    checkConsumers counts (counting.contents message).consumers = .error error →
    counting.toCanonical store message = .error error
  recounts : ∀ message operand count, counting.contents (counting.recount message operand count) =
    { counting.contents message with consumers := (counting.contents message).consumers.set operand count }
  sends : ∀ {model message}, counting.ofCanonical model = .ok message →
    model.main.operations.mapM (NeuralDevice.Operation.toWire counting.dialect) =
        .ok (counting.contents message).operations ∧
      countConsumers model.main.operands.length model.main.operations =
        .ok (counting.contents message).consumers

end Counting

/-! Operations. -/

theorem Operation.toCanonical_eq_ok_iff {dialect : Dialect} {message : Operation}
    {operation : NeuralDevice.Operation} :
    message.toCanonical dialect = .ok operation ↔
      Coded.ofWire dialect message.type = .ok operation.type ∧
        message.inputs = operation.inputs ∧ message.outputs = operation.outputs := by
  simp only [Wire.Operation.toCanonical, rewidthAll_self, ok_bind, bind_eq_ok_iff, pure_eq_ok_iff]
  constructor
  · intro received
    rcases received with ⟨type, typed, rfl⟩
    exact ⟨typed, rfl, rfl⟩
  · intro parts
    rcases parts with ⟨typed, taken, given⟩
    exact ⟨operation.type, typed, by rw [taken, given]⟩

theorem exists_operations_iff {dialect : Dialect} {messages : List Operation} :
    (∃ operations, messages.mapM (Wire.Operation.toCanonical dialect) = .ok operations) ↔
      ∀ operation ∈ messages, ∃ type : OperationType, Coded.ofWire dialect operation.type = .ok type := by
  rw [exists_mapM_eq_ok_iff]
  refine forall₂_congr fun message _ => ?_
  constructor
  · intro received
    obtain ⟨operation, received⟩ := received
    exact ⟨operation.type, (Operation.toCanonical_eq_ok_iff.mp received).1⟩
  · intro known
    obtain ⟨type, typed⟩ := known
    exact ⟨⟨type, message.inputs, message.outputs⟩, Operation.toCanonical_eq_ok_iff.mpr ⟨typed, rfl, rfl⟩⟩

theorem inputs_of_mapM_toCanonical {dialect : Dialect} {messages : List Operation}
    {operations : List NeuralDevice.Operation}
    (received : messages.mapM (Wire.Operation.toCanonical dialect) = .ok operations) :
    messages.map (·.inputs) = operations.map (·.inputs) := by
  rw [← List.forall₂_eq_eq_eq, List.forall₂_map_left_iff, List.forall₂_map_right_iff]
  exact (mapM_eq_ok_iff.mp received).imp fun _ _ made => (Operation.toCanonical_eq_ok_iff.mp made).2.1

private theorem Contents.isCounted_iff {dialect : Dialect} {contents : Contents}
    (few : usesIn contents.inputs < 2 ^ 32) :
    contents.IsCounted dialect ↔
      (∃ operations, contents.operations.mapM (Wire.Operation.toCanonical dialect) = .ok operations) ∧
        CountUses contents.inputs contents.consumers := by
  rw [IsCounted, ← exists_and_right]
  refine exists_congr fun operations => and_congr_right fun received => ?_
  rw [inputs, inputs_of_mapM_toCanonical received] at few ⊢
  rw [countConsumers_eq_ok_iff_countUses few, and_iff_right rfl]

/-- A version that goes by the contents of its models accepts and sends the right counts only. -/
theorem Counting.Follows.isExact {counting : Counting} (follows : counting.Follows) : counting.IsExact where
  accepts store message few := by
    rw [follows.receives, Contents.isCounted_iff few, exists_operations_iff]
    exact and_congr_right fun converts => and_iff_right converts.operationTypes
  refuses store message model received operand count old held other := by
    obtain ⟨-, operations, performed, counted⟩ := follows.receives.mp ⟨model, received⟩
    -- The operations are as they were, so they are received and counted as before.
    have changed := follows.recounts message operand count
    have performedAgain : (counting.contents (counting.recount message operand count)).operations.mapM
        (Wire.Operation.toCanonical counting.dialect) = .ok operations := by
      rw [changed]
      exact performed
    have countedAgain : countConsumers
        (counting.contents (counting.recount message operand count)).consumers.length operations =
          .ok (counting.contents message).consumers := by
      rw [changed, List.length_set]
      exact counted
    refine follows.checks performedAgain countedAgain ?_
    rw [changed]
    exact checkConsumers_set held other
  sends model message sent := by
    obtain ⟨performed, counted⟩ := follows.sends sent
    have inputs := inputs_of_mapM_toCanonical (((Operation.wire_inverse counting.dialect).mapM _ _).mp performed)
    refine ⟨inputs, length_of_countConsumers counted, fun few => ?_⟩
    rw [Contents.inputs, inputs] at few ⊢
    exact ((countConsumers_eq_ok_iff_countUses few).mp counted).2

/-! Operands. -/

theorem exists_location (location : Option Location) :
    ∃ placed, Wire.Location.optionalToCanonical location = .ok placed := by
  cases location with
  | none => exact ⟨_, rfl⟩
  | some location =>
    refine ⟨⟨none, location.poolIndex, location.offset, location.length⟩, ?_⟩
    simp only [Wire.Location.optionalToCanonical, Wire.Location.toCanonical, rewidth_self, ok_bind]
    rfl

private theorem exists_extraParams (params : Option ExtraParams) :
    ∃ given, Wire.ExtraParams.toCanonical params = .ok given := by
  rcases params with _ | quant | data
  · exact ⟨_, rfl⟩
  · refine ⟨.channelQuant ⟨quant.scales, quant.channelDim⟩, ?_⟩
    simp only [Wire.ExtraParams.toCanonical, rewidth_self, ok_bind]
    rfl
  · exact ⟨_, rfl⟩

theorem map_modify {β γ : Type} {read : β → γ} {fill : β → β} (change : γ → γ)
    (alike : ∀ operand, read (fill operand) = change (read operand)) (operands : List β) (place : Nat) :
    (operands.modify place fill).map read = (operands.map read).modify place change := by
  apply List.ext_getElem?
  intro other
  simp only [List.getElem?_map, List.getElem?_modify, Option.map_eq_map, Option.map_map]
  congr 1
  funext operand
  by_cases same : place = other
  · simp only [Function.comp_apply, same, if_true, alike]
  · simp only [Function.comp_apply, same, if_false]

end Wire.Hal

namespace Wire.Hal.V1_0

def Model.contents (message : Model) : Contents where
  operandTypes := message.operands.map (·.type)
  lifetimes := message.operands.map (·.lifetime)
  consumers := message.operands.map (·.consumers)
  operations := message.operations
  pools := message.pools
  vendors := []

/-- The model with another count for one operand. -/
def Model.recount (message : Model) (operand : Nat) (count : UInt32) : Model :=
  { message with
    operands := message.operands.modify operand fun operand => { operand with consumers := count } }

theorem Operand.exists_toCanonical_iff {message : Operand} :
    (∃ operand, message.toCanonical = .ok operand) ↔
      (∃ type : OperandType, Coded.ofWire .v1_0 message.type = .ok type) ∧
        ∃ lifetime : OperandLifetime, WireEnum.ofWire .v1_0 message.lifetime = .ok lifetime := by
  obtain ⟨location, placed⟩ := exists_location message.location
  simp only [toCanonical, placed, ok_bind, bind_eq_ok_iff, pure_eq_ok_iff]
  constructor
  · intro received
    rcases received with ⟨_, type, typed, lifetime, lived, _⟩
    exact ⟨⟨type, typed⟩, lifetime, lived⟩
  · intro parts
    rcases parts with ⟨⟨type, typed⟩, lifetime, lived⟩
    exact ⟨_, type, typed, lifetime, lived, rfl⟩

theorem Model.exists_toCanonical_iff {store : FileStore} {message : Model} :
    (∃ model, message.toCanonical store = .ok model) ↔
      message.contents.Converts .v1_0 store ∧ message.contents.IsCounted .v1_0 := by
  simp only [toCanonical, bind_eq_ok_iff, pure_eq_ok_iff, Contents.IsCounted, contents, List.length_map]
  constructor
  · intro received
    rcases received with ⟨_, operations, performed, _, counted, _, checked, operands, converted, pools, shared, _⟩
    rw [checkConsumers_eq_ok_iff.mp checked] at counted
    have known := exists_mapM_eq_ok_iff.mp ⟨operands, converted⟩
    simp only [Operand.exists_toCanonical_iff] at known
    refine ⟨⟨?_, ?_, exists_operations_iff.mp ⟨operations, performed⟩, ?_, List.forall_mem_nil _⟩, operations,
      performed, counted⟩
    · exact List.forall_mem_map.mpr fun operand member => (known operand member).1
    · exact List.forall_mem_map.mpr fun operand member => (known operand member).2
    · exact exists_mapM_eq_ok_iff.mp ⟨pools, shared⟩
  · intro right
    rcases right with ⟨converts, operations, performed, counted⟩
    obtain ⟨operands, converted⟩ := exists_mapM_eq_ok_iff.mpr fun operand member =>
      Operand.exists_toCanonical_iff.mpr ⟨converts.operandTypes _ (List.mem_map_of_mem member),
        converts.lifetimes _ (List.mem_map_of_mem member)⟩
    obtain ⟨pools, shared⟩ := exists_mapM_eq_ok_iff.mpr converts.pools
    exact ⟨_, operations, performed, _, counted, _, checkConsumers_eq_ok_iff.mpr rfl, operands, converted, pools,
      shared, rfl⟩

theorem Model.toCanonical_of_miscounted {store : FileStore} {message : Model}
    {operations : List NeuralDevice.Operation} {counts : List UInt32} {error : Error}
    (performed : message.operations.mapM (Wire.Operation.toCanonical .v1_0) = .ok operations)
    (counted : countConsumers message.operands.length operations = .ok counts)
    (failed : checkConsumers counts (message.operands.map (·.consumers)) = .error error) :
    message.toCanonical store = .error error := by
  simp only [toCanonical, performed, counted, failed, ok_bind, error_bind]

theorem Model.contents_recount (message : Model) (operand : Nat) (count : UInt32) :
    (message.recount operand count).contents =
      { message.contents with consumers := message.contents.consumers.set operand count } := by
  simp only [recount, contents, Contents.mk.injEq, and_true, List.set_eq_modify]
  refine ⟨?_, ?_, map_modify _ (by intro _; rfl) _ _⟩
  · exact (map_modify id (by intro _; rfl) _ _).trans (List.modify_id _ _)
  · exact (map_modify id (by intro _; rfl) _ _).trans (List.modify_id _ _)

theorem Model.counted_of_ofCanonical {model : NeuralDevice.Model} {message : Model}
    (sent : ofCanonical model = .ok message) :
    model.main.operations.mapM (NeuralDevice.Operation.toWire .v1_0) = .ok message.operations ∧
      countConsumers model.main.operands.length model.main.operations =
        .ok (message.operands.map (·.consumers)) := by
  simp only [ofCanonical, bind_eq_ok_iff, throw_bind, refuse_eq_ok_iff, pure_eq_ok_iff] at sent
  obtain ⟨_, _, _, _, operands, converted, counts, counted, operations, performed, pools, shared, rfl⟩ := sent
  refine ⟨performed, ?_⟩
  rw [map_zipWith_fill (fun _ _ => rfl) (length_of_countConsumers counted),
    (mapM_eq_ok_iff.mp converted).length_eq]
  exact counted

def counting : Counting where
  dialect := .v1_0
  Message := Model
  toCanonical := Model.toCanonical
  ofCanonical := Model.ofCanonical
  contents := Model.contents
  recount := Model.recount

theorem counting_follows : counting.Follows where
  receives := Model.exists_toCanonical_iff
  checks performed counted failed :=
    Model.toCanonical_of_miscounted performed (List.length_map _ ▸ counted) failed
  recounts := Model.contents_recount
  sends := Model.counted_of_ofCanonical

end Wire.Hal.V1_0

namespace Wire.Hal.V1_2

def Model.contents (message : Model) : Contents where
  operandTypes := message.operands.map (·.type)
  lifetimes := message.operands.map (·.lifetime)
  consumers := message.operands.map (·.consumers)
  operations := message.operations
  pools := message.pools
  vendors := message.vendors

/-- The model with another count for one operand. -/
def Model.recount (message : Model) (operand : Nat) (count : UInt32) : Model :=
  { message with
    operands := message.operands.modify operand fun operand => { operand with consumers := count } }

theorem Operand.exists_toCanonical_iff {message : Operand} :
    (∃ operand, message.toCanonical = .ok operand) ↔
      (∃ type : OperandType, Coded.ofWire .v1_2 message.type = .ok type) ∧
        ∃ lifetime : OperandLifetime, WireEnum.ofWire .v1_2 message.lifetime = .ok lifetime := by
  obtain ⟨location, placed⟩ := exists_location message.location
  obtain ⟨params, given⟩ := exists_extraParams message.extraParams
  simp only [toCanonical, placed, given, ok_bind, bind_eq_ok_iff, pure_eq_ok_iff]
  constructor
  · intro received
    rcases received with ⟨_, type, typed, lifetime, lived, _⟩
    exact ⟨⟨type, typed⟩, lifetime, lived⟩
  · intro parts
    rcases parts with ⟨⟨type, typed⟩, lifetime, lived⟩
    exact ⟨_, type, typed, lifetime, lived, rfl⟩

theorem Model.exists_toCanonical_iff {store : FileStore} {message : Model} :
    (∃ model, message.toCanonical store = .ok model) ↔
      message.contents.Converts .v1_2 store ∧ message.contents.IsCounted .v1_2 := by
  simp only [toCanonical, bind_eq_ok_iff, pure_eq_ok_iff, Contents.IsCounted, contents, List.length_map]
  constructor
  · intro received
    rcases received with ⟨_, operations, performed, _, counted, _, checked, operands, converted, pools, shared,
      vendors, declared, _⟩
    rw [checkConsumers_eq_ok_iff.mp checked] at counted
    have known := exists_mapM_eq_ok_iff.mp ⟨operands, converted⟩
    simp only [Operand.exists_toCanonical_iff] at known
    refine ⟨⟨?_, ?_, exists_operations_iff.mp ⟨operations, performed⟩, ?_, ?_⟩, operations, performed, counted⟩
    · exact List.forall_mem_map.mpr fun operand member => (known operand member).1
    · exact List.forall_mem_map.mpr fun operand member => (known operand member).2
    · exact exists_mapM_eq_ok_iff.mp ⟨pools, shared⟩
    · exact exists_mapM_eq_ok_iff.mp ⟨vendors, declared⟩
  · intro right
    rcases right with ⟨converts, operations, performed, counted⟩
    obtain ⟨operands, converted⟩ := exists_mapM_eq_ok_iff.mpr fun operand member =>
      Operand.exists_toCanonical_iff.mpr ⟨converts.operandTypes _ (List.mem_map_of_mem member),
        converts.lifetimes _ (List.mem_map_of_mem member)⟩
    obtain ⟨pools, shared⟩ := exists_mapM_eq_ok_iff.mpr converts.pools
    obtain ⟨vendors, declared⟩ := exists_mapM_eq_ok_iff.mpr converts.vendors
    exact ⟨_, operations, performed, _, counted, _, checkConsumers_eq_ok_iff.mpr rfl, operands, converted, pools,
      shared, vendors, declared, rfl⟩

theorem Model.toCanonical_of_miscounted {store : FileStore} {message : Model}
    {operations : List NeuralDevice.Operation} {counts : List UInt32} {error : Error}
    (performed : message.operations.mapM (Wire.Operation.toCanonical .v1_2) = .ok operations)
    (counted : countConsumers message.operands.length operations = .ok counts)
    (failed : checkConsumers counts (message.operands.map (·.consumers)) = .error error) :
    message.toCanonical store = .error error := by
  simp only [toCanonical, performed, counted, failed, ok_bind, error_bind]

theorem Model.contents_recount (message : Model) (operand : Nat) (count : UInt32) :
    (message.recount operand count).contents =
      { message.contents with consumers := message.contents.consumers.set operand count } := by
  simp only [recount, contents, Contents.mk.injEq, and_true, List.set_eq_modify]
  refine ⟨?_, ?_, map_modify _ (by intro _; rfl) _ _⟩
  · exact (map_modify id (by intro _; rfl) _ _).trans (List.modify_id _ _)
  · exact (map_modify id (by intro _; rfl) _ _).trans (List.modify_id _ _)

theorem Model.counted_of_ofCanonical {model : NeuralDevice.Model} {message : Model}
    (sent : ofCanonical model = .ok message) :
    model.main.operations.mapM (NeuralDevice.Operation.toWire .v1_2) = .ok message.operations ∧
      countConsumers model.main.operands.length model.main.operations =
        .ok (message.operands.map (·.consumers)) := by
  simp only [ofCanonical, bind_eq_ok_iff, throw_bind, refuse_eq_ok_iff, pure_eq_ok_iff] at sent
  obtain ⟨_, _, operands, converted, counts, counted, operations, performed, pools, shared, vendors, declared,
    rfl⟩ := sent
  refine ⟨performed, ?_⟩
  rw [map_zipWith_fill (fun _ _ => rfl) (length_of_countConsumers counted),
    (mapM_eq_ok_iff.mp converted).length_eq]
  exact counted

def counting : Counting where
  dialect := .v1_2
  Message := Model
  toCanonical := Model.toCanonical
  ofCanonical := Model.ofCanonical
  contents := Model.contents
  recount := Model.recount

theorem counting_follows : counting.Follows where
  receives := Model.exists_toCanonical_iff
  checks performed counted failed :=
    Model.toCanonical_of_miscounted performed (List.length_map _ ▸ counted) failed
  recounts := Model.contents_recount
  sends := Model.counted_of_ofCanonical

end Wire.Hal.V1_2

/-- Uses are counted as long as all that is used is there, each input once for the operand that it names, and the
versions that send these counts accept no others. -/
theorem consumers_are_counted (operandCount : Nat) (operations : List Operation)
    (few : usesIn (operations.map (·.inputs)) < 2 ^ 32) :
    ((∃ counts, countConsumers operandCount operations = .ok counts) ↔
        ∀ operation ∈ operations, ∀ index ∈ operation.inputs, index.toNat < operandCount) ∧
      (∀ counts, countConsumers operandCount operations = .ok counts →
        counts.length = operandCount ∧ CountUses (operations.map (·.inputs)) counts ∧
          (counts.map (·.toNat)).sum = usesIn (operations.map (·.inputs))) ∧
      Wire.Hal.V1_0.counting.IsExact ∧ Wire.Hal.V1_2.counting.IsExact := by
  refine ⟨exists_countConsumers_iff, fun counts counted => ?_, Wire.Hal.V1_0.counting_follows.isExact,
    Wire.Hal.V1_2.counting_follows.isExact⟩
  obtain ⟨same, uses⟩ := (countConsumers_eq_ok_iff_countUses few).mp counted
  exact ⟨same, uses, uses.sum_eq⟩

/-- An operation that adds an operand to itself. -/
def doubling : Operation := ⟨.builtin .add, [0, 0], [1]⟩

/-- A received model that doubles its input. -/
def doublingMessage : Wire.Hal.V1_0.Model where
  operands := [⟨3, [1], 2, .zero, 0, 1, none⟩, ⟨3, [1], 0, .zero, 0, 2, none⟩]
  operations := [⟨0, [0, 0], [1]⟩]
  inputIndexes := [0]
  outputIndexes := [1]
  operandValues := []
  pools := []

theorem doubled_operand_is_used_twice :
    CountUses [[0, 0]] [2, 0] ∧
      (∃ model, doublingMessage.toCanonical .empty = .ok model) ∧
      (doublingMessage.recount 0 1).toCanonical .empty = .error (.generalFailure
        "Invalid numberOfConsumers for operand 0, expected 2 but found 1") := by
  obtain ⟨_, counts, older, _⟩ := consumers_are_counted 2 [doubling] (by decide)
  have uses : CountUses [[0, 0]] [2, 0] := (counts [2, 0] rfl).2.1
  have accepted : ∃ model, doublingMessage.toCanonical .empty = .ok model := ⟨_, rfl⟩
  refine ⟨uses, accepted, ?_⟩
  exact older.refuses .empty doublingMessage _ accepted.choose_spec 0 1 2 rfl (by decide)

end NeuralDevice
