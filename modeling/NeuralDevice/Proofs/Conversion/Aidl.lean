import NeuralDevice.Conversion.Aidl
import NeuralDevice.Proofs.Conversion.Message

/-!
The messages of the AIDL version. Numbers are signed, so sending refuses what would turn negative and receiving
refuses what is. A message may leave performance figures out; they come back as those of a type without any.
-/

namespace NeuralDevice.Wire.Aidl

open Result

/-! Models. -/

/-- The operand with its location written out. -/
def Operand.explicit (operand : Operand) : Operand :=
  { operand with location := Location.explicit operand.location }

/-- The subgraph with the locations of its operands written out. -/
def Subgraph.explicit (subgraph : Subgraph) : Subgraph :=
  { subgraph with operands := subgraph.operands.map Operand.explicit }

/-- The model with the locations of all operands written out. -/
def Model.explicit (model : Model) : Model :=
  { model with
    main := model.main.map Subgraph.explicit
    referenced := model.referenced.map Subgraph.explicit }

theorem Operand.ofCanonical_returns (operand : NeuralDevice.Operand) :
    Returns ofCanonical toCanonical operand operand := by
  intro message sent
  simp only [ofCanonical, bind_eq_ok_iff, pure_eq_ok_iff] at sent
  obtain ⟨type, typed, dimensions, fit, lifetime, lived, location, placed, params, given, rfl⟩ := sent
  simp only [toCanonical, bind_eq_ok_iff, pure_eq_ok_iff]
  exact ⟨_, (Coded.wire_inverse _ _ _).mp typed, _, (rewidthAll_inverse _ _ _).mp fit, _,
    (OperandLifetime.wire_inverse _ _ _).mp lived, _, (DataLocation.wire_inverse _ _).mp placed, _,
    (ExtraParams.wire_inverse _ _).mp given, rfl⟩

theorem Operand.toCanonical_returns (message : Operand) :
    Returns toCanonical ofCanonical message message.explicit := by
  intro operand received
  simp only [toCanonical, bind_eq_ok_iff, pure_eq_ok_iff] at received
  obtain ⟨type, typed, dimensions, fit, lifetime, lived, location, placed, params, given, rfl⟩ := received
  simp only [ofCanonical, bind_eq_ok_iff, pure_eq_ok_iff]
  exact ⟨_, (Coded.wire_inverse _ _ _).mpr typed, _, (rewidthAll_inverse _ _ _).mp fit, _,
    (OperandLifetime.wire_inverse _ _ _).mpr lived, _, Location.toWire_of_toCanonical placed, _,
    (ExtraParams.wire_inverse _ _).mpr given, rfl⟩

theorem Operand.pointer_of_toCanonical {message : Operand} {operand : NeuralDevice.Operand}
    (received : message.toCanonical = .ok operand) : operand.location.pointer = none := by
  have sent := Operand.toCanonical_returns message operand received
  simp only [ofCanonical, bind_eq_ok_iff] at sent
  obtain ⟨_, _, _, _, _, _, location, placed, _⟩ := sent
  exact DataLocation.pointer_of_toWire placed

theorem Subgraph.ofCanonical_returns (subgraph : NeuralDevice.Subgraph) :
    Returns ofCanonical toCanonical subgraph subgraph := by
  intro message sent
  simp only [ofCanonical, bind_eq_ok_iff, pure_eq_ok_iff] at sent
  obtain ⟨operands, converted, operations, performed, inputs, taken, outputs, given, rfl⟩ := sent
  have back := Returns.mapM id (fun operand _ => Operand.ofCanonical_returns operand) _ converted
  simp only [toCanonical, bind_eq_ok_iff, pure_eq_ok_iff]
  exact ⟨_, by simpa using back, _, ((Operation.wire_inverse .aidl).mapM _ _).mp performed, _,
    (rewidthAll_inverse _ _ _).mp taken, _, (rewidthAll_inverse _ _ _).mp given, rfl⟩

theorem Subgraph.toCanonical_returns (message : Subgraph) :
    Returns toCanonical ofCanonical message message.explicit := by
  intro subgraph received
  simp only [toCanonical, bind_eq_ok_iff, pure_eq_ok_iff] at received
  obtain ⟨operands, converted, operations, performed, inputs, taken, outputs, given, rfl⟩ := received
  have sent := Returns.mapM _ (fun operand _ => Operand.toCanonical_returns operand) _ converted
  simp only [ofCanonical, bind_eq_ok_iff, pure_eq_ok_iff]
  exact ⟨_, sent, _, ((Operation.wire_inverse .aidl).mapM _ _).mpr performed, _,
    (rewidthAll_inverse _ _ _).mp taken, _, (rewidthAll_inverse _ _ _).mp given, rfl⟩

theorem Subgraph.pointer_of_toCanonical {message : Subgraph} {subgraph : NeuralDevice.Subgraph}
    (received : message.toCanonical = .ok subgraph) :
    ∀ operand ∈ subgraph.operands, operand.location.pointer = none := by
  intro operand member
  simp only [toCanonical, bind_eq_ok_iff, pure_eq_ok_iff] at received
  obtain ⟨operands, converted, _, _, _, _, _, _, rfl⟩ := received
  obtain ⟨source, _, made⟩ := exists_of_mem_mapM converted member
  exact Operand.pointer_of_toCanonical made

theorem Model.ofCanonical_returns (store : FileStore) (model : NeuralDevice.Model)
    (opened : model.HasOpenPools store) : Returns ofCanonical (toCanonical store) model model := by
  intro message sent
  simp only [ofCanonical, bind_eq_ok_iff, throw_bind, refuse_eq_ok_iff, pure_eq_ok_iff] at sent
  obtain ⟨_, main, central, referenced, others, pools, shared, vendors, declared, rfl⟩ := sent
  simp only [toCanonical, bind_eq_ok_iff, pure_eq_ok_iff, required_eq_ok_iff]
  refine ⟨main, rfl, _, Subgraph.ofCanonical_returns _ _ central, model.referenced, ?_, model.pools, ?_,
    model.vendors, ?_, rfl⟩
  · simpa using Returns.mapM id (fun subgraph _ => Subgraph.ofCanonical_returns subgraph) _ others
  · simpa using Returns.mapM id
      (fun memory member => Memory.toWire_returns store memory (opened memory member)) _ shared
  · exact (VendorEntry.wire_inverse.mapM _ _).mp declared

theorem Model.toCanonical_returns (store : FileStore) (message : Model) :
    Returns (toCanonical store) ofCanonical message message.explicit := by
  intro model received
  simp only [toCanonical, bind_eq_ok_iff, pure_eq_ok_iff, required_eq_ok_iff] at received
  obtain ⟨source, present, main, central, referenced, others, pools, shared, vendors, declared, rfl⟩ :=
    received
  simp only [ofCanonical, bind_eq_ok_iff, throw_bind, refuse_eq_ok_iff, pure_eq_ok_iff]
  refine ⟨?_, _, Subgraph.toCanonical_returns _ _ central, message.referenced.map Subgraph.explicit, ?_,
    message.pools, ?_, message.vendors, ?_, ?_⟩
  · simp only [Bool.not_eq_true', Bool.not_eq_false, Model.hasNoPointerData_iff, Model.subgraphs,
      List.mem_cons, forall_eq_or_imp]
    refine ⟨Subgraph.pointer_of_toCanonical central, fun subgraph member => ?_⟩
    obtain ⟨other, _, made⟩ := exists_of_mem_mapM others member
    exact Subgraph.pointer_of_toCanonical made
  · exact Returns.mapM _ (fun subgraph _ => Subgraph.toCanonical_returns subgraph) _ others
  · simpa using Returns.mapM id (fun memory _ => Memory.toCanonical_returns store memory) _ shared
  · exact (VendorEntry.wire_inverse.mapM _ _).mpr declared
  · rw [Model.explicit, present]
    rfl

/-! Requests. -/

theorem Pool.ofCanonical_returns (store : FileStore) (pool : MemoryPool)
    (opened : ∀ memory, pool = .memory memory → memory.handle.IsOpen store) :
    Returns ofCanonical (toCanonical store) pool pool := by
  intro message sent
  cases pool with
  | memory memory =>
    simp only [ofCanonical, bind_eq_ok_iff, pure_eq_ok_iff] at sent
    obtain ⟨shared, converted, rfl⟩ := sent
    simp only [toCanonical, bind_eq_ok_iff, required_eq_ok_iff]
    refine ⟨_, rfl, ?_⟩
    simp only [bind_eq_ok_iff, pure_eq_ok_iff]
    exact ⟨_, Memory.toWire_returns store memory (opened memory rfl) _ converted, rfl⟩
  | token token =>
    simp only [ofCanonical, bind_eq_ok_iff, pure_eq_ok_iff] at sent
    obtain ⟨number, fits, rfl⟩ := sent
    simp only [toCanonical, bind_eq_ok_iff, required_eq_ok_iff]
    refine ⟨_, rfl, ?_⟩
    simp only [bind_eq_ok_iff, pure_eq_ok_iff]
    exact ⟨_, (rewidth_inverse _ _ _).mp fits, rfl⟩

theorem Pool.toCanonical_returns (store : FileStore) (message : Pool) :
    Returns (toCanonical store) ofCanonical message message := by
  intro pool received
  simp only [toCanonical, bind_eq_ok_iff, required_eq_ok_iff] at received
  obtain ⟨content, present, converted⟩ := received
  cases content with
  | inl memory =>
    simp only [bind_eq_ok_iff, pure_eq_ok_iff] at converted
    obtain ⟨shared, accepted, rfl⟩ := converted
    simp only [ofCanonical, bind_eq_ok_iff, pure_eq_ok_iff]
    exact ⟨_, Memory.toCanonical_returns store memory _ accepted, by rw [← present]⟩
  | inr token =>
    simp only [bind_eq_ok_iff, pure_eq_ok_iff] at converted
    obtain ⟨number, fits, rfl⟩ := converted
    simp only [ofCanonical, bind_eq_ok_iff, pure_eq_ok_iff]
    exact ⟨_, (rewidth_inverse _ _ _).mp fits, by rw [← present]⟩

theorem requestToWire_returns (store : FileStore) (request : NeuralDevice.Request)
    (opened : request.HasOpenPools store) :
    Returns requestToWire (requestToCanonical store) request request := by
  intro message sent
  simp only [requestToWire, bind_eq_ok_iff, throw_bind, refuse_eq_ok_iff, pure_eq_ok_iff] at sent
  obtain ⟨_, inputs, taken, outputs, given, pools, shared, rfl⟩ := sent
  refine Wire.Request.toCanonical_of_sent (fun pool member => ?_) taken given shared
  apply Pool.ofCanonical_returns
  intro memory same
  subst same
  exact opened memory member

theorem requestToCanonical_returns (store : FileStore) (message : Request) :
    Returns (requestToCanonical store) requestToWire message message.explicit := by
  intro request received
  have noPointers := Wire.Request.hasNoPointerData_of_toCanonical received
  obtain ⟨taken, given, shared⟩ :=
    Wire.Request.sent_of_toCanonical (Pool.toCanonical_returns store) received
  simp only [requestToWire, bind_eq_ok_iff, throw_bind, refuse_eq_ok_iff, pure_eq_ok_iff]
  exact ⟨by simp [noPointers], _, taken, _, given, _, shared, rfl⟩

/-! Performance figures. -/

/-- Figures that may be left out, written out. -/
def explicitFigures (info : Option PerformanceInfo) : Option PerformanceInfo := some (info.getD .none)

/-- The entry with its figures written out. -/
def explicitPerformance (performance : OperandPerformance) : OperandPerformance :=
  { performance with info := explicitFigures performance.info }

/-- The capabilities with all figures written out. -/
def Capabilities.explicit (capabilities : Capabilities) : Capabilities where
  relaxedScalar := explicitFigures capabilities.relaxedScalar
  relaxedTensor := explicitFigures capabilities.relaxedTensor
  operandPerformance := capabilities.operandPerformance.map explicitPerformance
  ifPerformance := explicitFigures capabilities.ifPerformance
  whilePerformance := explicitFigures capabilities.whilePerformance

theorem performanceToCanonical_returns (message : OperandPerformance) :
    Returns performanceToCanonical (OperandPerformance.toWire .aidl) message
      (explicitPerformance message) := by
  intro performance received
  simp only [performanceToCanonical, bind_eq_ok_iff, pure_eq_ok_iff] at received
  obtain ⟨type, typed, rfl⟩ := received
  simp only [OperandPerformance.toWire, bind_eq_ok_iff, pure_eq_ok_iff]
  exact ⟨_, (Coded.wire_inverse _ _ _).mpr typed, rfl⟩

theorem Capabilities.toCanonical_returns (message : Capabilities) :
    Returns toCanonical ofCanonical message message.explicit := by
  intro capabilities received
  simp only [toCanonical, bind_eq_ok_iff, pure_eq_ok_iff] at received
  obtain ⟨table, listed, rfl⟩ := received
  have sent := PerformanceTable.toWire_of_ofWire performanceToCanonical_returns listed
  simp only [ofCanonical, bind_eq_ok_iff, pure_eq_ok_iff]
  exact ⟨_, sent, rfl⟩

/-! Times. -/

/-- Nanoseconds are received as exactly the span that is sent as them; the mark is no span. -/
private theorem durationToCanonical_eq_ok_iff {nanoseconds : Int64} {what : String}
    {duration : Option Duration} :
    durationToCanonical nanoseconds what = .ok duration ↔
      durationToWire duration = .ok nanoseconds := by
  have mark : noValue.toInt = -1 := rfl
  cases duration with
  | none =>
    have absent : durationToWire none = .ok nanoseconds ↔ nanoseconds = noValue := by
      rw [durationToWire, pure_eq_ok_iff, eq_comm]
    rw [absent, durationToCanonical]
    by_cases marked : nanoseconds = noValue
    · rw [if_pos marked, pure_eq_ok_iff]
      exact iff_of_true rfl marked
    · rw [if_neg marked, refuse_eq_ok_iff, pure_eq_ok_iff]
      exact iff_of_false (fun found => nomatch found.2) marked
  | some duration =>
    have whole : durationToWire (some duration) = .ok nanoseconds ↔
        nanoseconds.toInt = duration.nanoseconds := by
      rw [durationToWire, narrow_eq_ok_iff]
      rfl
    rw [whole, durationToCanonical]
    by_cases marked : nanoseconds = noValue
    · rw [if_pos marked, pure_eq_ok_iff, marked, mark]
      exact iff_of_false nofun (by omega)
    · rw [if_neg marked, refuse_eq_ok_iff, pure_eq_ok_iff, Option.some_inj, Duration.ofNanoseconds,
        Duration.mk.injEq]
      omega

theorem timing_inverse : Inverse timingToWire timingToCanonical := by
  intro timing message
  simp only [timingToWire, timingToCanonical, bind_eq_ok_iff, pure_eq_ok_iff,
    durationToCanonical_eq_ok_iff]
  constructor
  · intro sent
    rcases sent with ⟨onDevice, device, inDriver, driver, rfl⟩
    exact ⟨_, device, _, driver, rfl⟩
  · intro received
    rcases received with ⟨onDevice, device, inDriver, driver, rfl⟩
    exact ⟨_, device, _, driver, rfl⟩

end NeuralDevice.Wire.Aidl
