import NeuralDevice.Proofs.Conversion.Message
import NeuralDevice.Proofs.Conversion.Uses
import NeuralDevice.Proofs.Performance

/-!
The messages of versions 1.0 and 1.2. A model is sent with the number of uses of each operand and received
only with exactly these numbers, so they carry nothing that could be lost. Times are whole microseconds.
-/

namespace NeuralDevice

open Result

/-! Requests. -/

private theorem Wire.Hal.poolToWire_returns (store : FileStore) (pool : MemoryPool)
    (opened : ∀ memory, pool = .memory memory → memory.handle.IsOpen store) :
    Returns poolToWire (poolToCanonical store) pool pool := by
  intro message sent
  cases pool with
  | token token => exact absurd sent throw_ne_ok
  | memory memory =>
    rw [poolToCanonical, Wire.Memory.toCanonical_eq_ok_iff.mpr ⟨opened memory rfl, sent⟩]
    rfl

private theorem Wire.Hal.poolToCanonical_returns (store : FileStore) (message : Wire.Hal.Memory) :
    Returns (poolToCanonical store) poolToWire message message := by
  intro pool received
  simp only [poolToCanonical, bind_eq_ok_iff, pure_eq_ok_iff] at received
  obtain ⟨memory, accepted, rfl⟩ := received
  exact (Wire.Memory.toCanonical_eq_ok_iff.mp accepted).2

theorem Wire.Hal.requestToWire_returns (store : FileStore) (request : NeuralDevice.Request)
    (opened : request.HasOpenPools store) :
    Returns requestToWire (requestToCanonical store) request request := by
  intro message sent
  simp only [requestToWire, bind_eq_ok_iff, throw_bind, refuse_eq_ok_iff, pure_eq_ok_iff] at sent
  obtain ⟨_, pools, shared, inputs, taken, outputs, given, rfl⟩ := sent
  refine Wire.Request.toCanonical_of_sent (fun pool member => ?_) taken given shared
  apply poolToWire_returns
  intro memory same
  subst same
  exact opened memory member

theorem Wire.Hal.requestToCanonical_returns (store : FileStore) (message : Wire.Hal.Request) :
    Returns (requestToCanonical store) requestToWire message message.explicit := by
  intro request received
  have noPointers := Wire.Request.hasNoPointerData_of_toCanonical received
  obtain ⟨taken, given, shared⟩ :=
    Wire.Request.sent_of_toCanonical (poolToCanonical_returns store) received
  simp only [requestToWire, bind_eq_ok_iff, throw_bind, refuse_eq_ok_iff, pure_eq_ok_iff]
  exact ⟨by simp [noPointers], _, shared, _, taken, _, given, rfl⟩

/-! Consumer counts. -/

/-- Counts written into operands are read back from them. -/
theorem map_zipWith_fill {β : Type} {fill : β → UInt32 → β} {count : β → UInt32}
    (filled : ∀ operand number, count (fill operand number) = number) {operands : List β}
    {counts : List UInt32} (same : counts.length = operands.length) :
    (operands.zipWith fill counts).map count = counts := by
  apply List.ext_getElem
  · simp [same]
  · intro place _ inside
    simp [filled]

/-- A conversion that does not look at counts converts operands alike with any. -/
private theorem mapM_zipWith_fill {β γ : Type} {fill : β → UInt32 → β} {convert : β → Result γ}
    (blind : ∀ operand number, convert (fill operand number) = convert operand) {operands : List β}
    {counts : List UInt32} (same : counts.length = operands.length) :
    (operands.zipWith fill counts).mapM convert = operands.mapM convert := by
  induction operands generalizing counts with
  | nil => simp
  | cons operand rest ih =>
    cases counts with
    | nil => simp at same
    | cons number counts =>
      simp only [List.zipWith_cons_cons, List.mapM_cons, blind]
      rw [ih (by simpa using same)]

/-- Operands come back when they are received without a look at the counts filled in. -/
theorem mapM_zipWith_fill_returns {β γ : Type} {fill : β → UInt32 → β} {send : γ → Result β}
    {convert : β → Result γ} (blind : ∀ operand number, convert (fill operand number) = convert operand)
    (each : ∀ operand, Returns send convert operand operand) {operands : List γ} {sent : List β}
    (converted : operands.mapM send = .ok sent) {counts : List UInt32}
    (same : counts.length = sent.length) : (sent.zipWith fill counts).mapM convert = .ok operands := by
  rw [mapM_zipWith_fill blind same]
  simpa using Returns.mapM id (fun operand _ => each operand) _ converted

/-! Performance figures. -/

theorem PerformanceTable.isAscending_ofTwoFigures (float32 quantized8 : PerformanceInfo) :
    isAscending (ofTwoFigures float32 quantized8).entries = true := by
  rfl

namespace Wire.Hal.V1_0

/-! Models of version 1.0. -/

/-- The operand with its location written out. -/
def Operand.explicit (operand : Operand) : Operand :=
  { operand with location := Wire.Location.explicit operand.location }

/-- The model with the locations of its operands written out. -/
def Model.explicit (model : Model) : Model :=
  { model with operands := model.operands.map Operand.explicit }

theorem Operand.ofCanonical_returns (operand : NeuralDevice.Operand) :
    Returns ofCanonical toCanonical operand operand := by
  intro message sent
  simp only [ofCanonical, bind_eq_ok_iff, throw_bind, refuse_eq_ok_iff, pure_eq_ok_iff,
    ne_eq, not_not] at sent
  obtain ⟨plain, type, typed, lifetime, lived, location, placed, rfl⟩ := sent
  simp only [toCanonical, bind_eq_ok_iff, pure_eq_ok_iff]
  exact ⟨_, (Coded.wire_inverse _ _ _).mp typed, _, (OperandLifetime.wire_inverse _ _ _).mp lived, _,
    (DataLocation.wire_inverse _ _).mp placed, by rw [← plain]⟩

theorem Operand.toCanonical_returns (message : Operand) :
    Returns toCanonical ofCanonical message { message.explicit with consumers := 0 } := by
  intro operand received
  simp only [toCanonical, bind_eq_ok_iff, pure_eq_ok_iff] at received
  obtain ⟨type, typed, lifetime, lived, location, placed, rfl⟩ := received
  simp only [ofCanonical, bind_eq_ok_iff, throw_bind, refuse_eq_ok_iff, pure_eq_ok_iff]
  exact ⟨by simp, _, (Coded.wire_inverse _ _ _).mpr typed, _,
    (OperandLifetime.wire_inverse _ _ _).mpr lived, _, Wire.Location.toWire_of_toCanonical placed, rfl⟩

theorem Operand.pointer_of_toCanonical {message : Operand} {operand : NeuralDevice.Operand}
    (received : message.toCanonical = .ok operand) : operand.location.pointer = none := by
  simp only [toCanonical, bind_eq_ok_iff, pure_eq_ok_iff] at received
  obtain ⟨type, typed, lifetime, lived, location, placed, rfl⟩ := received
  exact DataLocation.pointer_of_toWire (Wire.Location.toWire_of_toCanonical placed)

theorem Model.ofCanonical_returns (store : FileStore) (model : NeuralDevice.Model)
    (opened : model.HasOpenPools store) :
    Returns ofCanonical (toCanonical store) model model := by
  intro message sent
  simp only [ofCanonical, bind_eq_ok_iff, throw_bind, refuse_eq_ok_iff, pure_eq_ok_iff] at sent
  obtain ⟨_, unreferenced, strict, plain, operands, converted, counts, counted, operations, performed,
    pools, shared, rfl⟩ := sent
  have same : counts.length = operands.length := length_of_countConsumers counted
  simp only [toCanonical, bind_eq_ok_iff, pure_eq_ok_iff, List.length_zipWith, same, Nat.min_self]
  refine ⟨model.main.operations, ?_, counts, counted, (), ?_, model.main.operands, ?_, model.pools, ?_, ?_⟩
  · exact ((Operation.wire_inverse .v1_0).mapM _ _).mp performed
  · rw [map_zipWith_fill (fun _ _ => rfl) same, checkConsumers_eq_ok_iff]
  · have blind : ∀ (operand : Operand) number,
        { operand with consumers := number }.toCanonical = operand.toCanonical := fun _ _ => rfl
    exact mapM_zipWith_fill_returns blind Operand.ofCanonical_returns converted same
  · simpa using Returns.mapM id
      (fun memory member => Memory.toWire_returns store memory (opened memory member)) _ shared
  · cases model
    simp_all

theorem Model.toCanonical_returns (store : FileStore) (message : Model) :
    Returns (toCanonical store) ofCanonical message message.explicit := by
  intro model received
  simp only [toCanonical, bind_eq_ok_iff, pure_eq_ok_iff] at received
  obtain ⟨operations, performed, counts, counted, _, checked, operands, converted, pools, shared, rfl⟩ :=
    received
  have counts_eq := checkConsumers_eq_ok_iff.mp checked
  have sent := Returns.mapM _ (fun operand _ => Operand.toCanonical_returns operand) _ converted
  simp only [ofCanonical, bind_eq_ok_iff, throw_bind, refuse_eq_ok_iff, pure_eq_ok_iff]
  refine ⟨?_, by simp, by simp, by simp, _, sent, counts, ?_, message.operations, ?_, message.pools, ?_, ?_⟩
  · simp only [Bool.not_eq_true', Bool.not_eq_false, Model.hasNoPointerData_iff, Model.subgraphs,
      List.mem_singleton, forall_eq]
    intro operand member
    obtain ⟨source, _, made⟩ := exists_of_mem_mapM converted member
    exact Operand.pointer_of_toCanonical made
  · simpa using counted
  · exact ((Operation.wire_inverse .v1_0).mapM _ _).mpr performed
  · simpa using Returns.mapM id (fun memory _ => Wire.Memory.toCanonical_returns store memory) _ shared
  · rw [counts_eq, List.zipWith_map, List.zipWith_self]
    rfl

theorem Capabilities.toCanonical_returns (message : Capabilities) :
    Returns toCanonical ofCanonical message message := by
  intro capabilities received
  cases message with
  | mk float32 quantized8 =>
    cases float32 with
    | none => exact absurd received throw_ne_ok
    | some float32 =>
      cases quantized8 with
      | none => exact absurd received throw_ne_ok
      | some quantized8 =>
        cases pure_eq_ok_iff.mp received
        have ascending := PerformanceTable.isAscending_ofTwoFigures float32 quantized8
        have float : ⟨.builtin .tensorFloat32, float32⟩ ∈
            (PerformanceTable.ofTwoFigures float32 quantized8).entries := by
          simp [PerformanceTable.ofTwoFigures]
        have quantized : ⟨.builtin .tensorQuant8Asymm, quantized8⟩ ∈
            (PerformanceTable.ofTwoFigures float32 quantized8).entries := by
          simp [PerformanceTable.ofTwoFigures]
        simp only [ofCanonical, PerformanceTable.lookup_of_mem ascending float,
          PerformanceTable.lookup_of_mem ascending quantized, pure_eq_ok_iff]

end Wire.Hal.V1_0

namespace Wire.Hal.V1_2

/-! Models of version 1.2. -/

/-- The operand with its location written out. -/
def Operand.explicit (operand : Operand) : Operand :=
  { operand with location := Wire.Location.explicit operand.location }

/-- The model with the locations of its operands written out. -/
def Model.explicit (model : Model) : Model :=
  { model with operands := model.operands.map Operand.explicit }

theorem Operand.ofCanonical_returns (operand : NeuralDevice.Operand) :
    Returns ofCanonical toCanonical operand operand := by
  intro message sent
  simp only [ofCanonical, bind_eq_ok_iff, pure_eq_ok_iff] at sent
  obtain ⟨type, typed, lifetime, lived, location, placed, params, given, rfl⟩ := sent
  simp only [toCanonical, bind_eq_ok_iff, pure_eq_ok_iff]
  exact ⟨_, (Coded.wire_inverse _ _ _).mp typed, _, (OperandLifetime.wire_inverse _ _ _).mp lived, _,
    (DataLocation.wire_inverse _ _).mp placed, _, (ExtraParams.wire_inverse _ _).mp given, rfl⟩

theorem Operand.toCanonical_returns (message : Operand) :
    Returns toCanonical ofCanonical message { message.explicit with consumers := 0 } := by
  intro operand received
  simp only [toCanonical, bind_eq_ok_iff, pure_eq_ok_iff] at received
  obtain ⟨type, typed, lifetime, lived, location, placed, params, given, rfl⟩ := received
  simp only [ofCanonical, bind_eq_ok_iff, pure_eq_ok_iff]
  exact ⟨_, (Coded.wire_inverse _ _ _).mpr typed, _, (OperandLifetime.wire_inverse _ _ _).mpr lived, _,
    Wire.Location.toWire_of_toCanonical placed, _, (ExtraParams.wire_inverse _ _).mpr given, rfl⟩

theorem Operand.pointer_of_toCanonical {message : Operand} {operand : NeuralDevice.Operand}
    (received : message.toCanonical = .ok operand) : operand.location.pointer = none := by
  simp only [toCanonical, bind_eq_ok_iff, pure_eq_ok_iff] at received
  obtain ⟨type, typed, lifetime, lived, location, placed, params, given, rfl⟩ := received
  exact DataLocation.pointer_of_toWire (Wire.Location.toWire_of_toCanonical placed)

theorem Model.ofCanonical_returns (store : FileStore) (model : NeuralDevice.Model)
    (opened : model.HasOpenPools store) :
    Returns ofCanonical (toCanonical store) model model := by
  intro message sent
  simp only [ofCanonical, bind_eq_ok_iff, throw_bind, refuse_eq_ok_iff, pure_eq_ok_iff] at sent
  obtain ⟨_, unreferenced, operands, converted, counts, counted, operations, performed, pools, shared,
    vendors, declared, rfl⟩ := sent
  have same : counts.length = operands.length := length_of_countConsumers counted
  simp only [toCanonical, bind_eq_ok_iff, pure_eq_ok_iff, List.length_zipWith, same, Nat.min_self]
  refine ⟨model.main.operations, ?_, counts, counted, (), ?_, model.main.operands, ?_, model.pools, ?_,
    model.vendors, ?_, ?_⟩
  · exact ((Operation.wire_inverse .v1_2).mapM _ _).mp performed
  · rw [map_zipWith_fill (fun _ _ => rfl) same, checkConsumers_eq_ok_iff]
  · have blind : ∀ (operand : Operand) number,
        { operand with consumers := number }.toCanonical = operand.toCanonical := fun _ _ => rfl
    exact mapM_zipWith_fill_returns blind Operand.ofCanonical_returns converted same
  · simpa using Returns.mapM id
      (fun memory member => Memory.toWire_returns store memory (opened memory member)) _ shared
  · exact (VendorEntry.wire_inverse.mapM _ _).mp declared
  · cases model
    simp_all

theorem Model.toCanonical_returns (store : FileStore) (message : Model) :
    Returns (toCanonical store) ofCanonical message message.explicit := by
  intro model received
  simp only [toCanonical, bind_eq_ok_iff, pure_eq_ok_iff] at received
  obtain ⟨operations, performed, counts, counted, _, checked, operands, converted, pools, shared,
    vendors, declared, rfl⟩ := received
  have counts_eq := checkConsumers_eq_ok_iff.mp checked
  have sent := Returns.mapM _ (fun operand _ => Operand.toCanonical_returns operand) _ converted
  simp only [ofCanonical, bind_eq_ok_iff, throw_bind, refuse_eq_ok_iff, pure_eq_ok_iff]
  refine ⟨?_, by simp, _, sent, counts, ?_, message.operations, ?_, message.pools, ?_,
    message.vendors, ?_, ?_⟩
  · simp only [Bool.not_eq_true', Bool.not_eq_false, Model.hasNoPointerData_iff, Model.subgraphs,
      List.mem_singleton, forall_eq]
    intro operand member
    obtain ⟨source, _, made⟩ := exists_of_mem_mapM converted member
    exact Operand.pointer_of_toCanonical made
  · simpa using counted
  · exact ((Operation.wire_inverse .v1_2).mapM _ _).mpr performed
  · simpa using Returns.mapM id (fun memory _ => Wire.Memory.toCanonical_returns store memory) _ shared
  · exact (VendorEntry.wire_inverse.mapM _ _).mpr declared
  · rw [counts_eq, List.zipWith_map, List.zipWith_self]
    rfl

theorem performanceToCanonical_returns (message : Wire.OperandPerformance) :
    Returns performanceToCanonical (OperandPerformance.toWire .v1_2) message message := by
  intro performance received
  simp only [performanceToCanonical, bind_eq_ok_iff, pure_eq_ok_iff] at received
  obtain ⟨type, typed, info, present, rfl⟩ := received
  simp only [OperandPerformance.toWire, bind_eq_ok_iff, pure_eq_ok_iff]
  refine ⟨_, (Coded.wire_inverse _ _ _).mpr typed, ?_⟩
  cases message with
  | mk code figures =>
    cases figures with
    | none => exact absurd present throw_ne_ok
    | some figures =>
      cases pure_eq_ok_iff.mp present
      rfl

theorem Capabilities.toCanonical_returns (message : Capabilities) :
    Returns toCanonical ofCanonical message message := by
  intro capabilities received
  simp only [toCanonical, bind_eq_ok_iff, pure_eq_ok_iff] at received
  obtain ⟨table, listed, scalar, scalarGiven, tensor, tensorGiven, rfl⟩ := received
  have sent := PerformanceTable.toWire_of_ofWire performanceToCanonical_returns listed
  rw [required_eq_ok_iff] at scalarGiven tensorGiven
  simp only [ofCanonical, bind_eq_ok_iff, pure_eq_ok_iff]
  refine ⟨_, sent, ?_⟩
  rw [← scalarGiven, ← tensorGiven, List.map_id']

end Wire.Hal.V1_2

/-! Times. -/

/-- A received time is sent as it came: microseconds are whole and the mark stays the mark. -/
private theorem Wire.Hal.spanToWire_spanToCanonical (microseconds : UInt64) :
    spanToWire (spanToCanonical microseconds) = .ok microseconds := by
  unfold spanToCanonical
  split
  · rename_i marked
    rw [marked]
    rfl
  · rename_i measured
    have below : microseconds.toNat < notMeasured.toNat := by
      have bound := microseconds.toNat_lt
      have differs : microseconds.toNat ≠ notMeasured.toNat := fun same =>
        measured (UInt64.toNat_inj.mp same)
      have top : notMeasured.toNat = 2 ^ 64 - 1 := rfl
      omega
    simp [spanToWire, Duration.ofMicroseconds, Duration.microseconds, below, pure, Except.pure]

theorem Wire.Hal.timingToCanonical_returns (message : Wire.Hal.Timing) :
    Returns timingToCanonical timingToWire message message := by
  intro timing received
  cases pure_eq_ok_iff.mp received
  simp only [timingToWire, spanToWire_spanToCanonical, bind_eq_ok_iff, pure_eq_ok_iff]
  exact ⟨_, rfl, _, rfl, rfl⟩

end NeuralDevice
