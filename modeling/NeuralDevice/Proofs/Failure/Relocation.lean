import NeuralDevice.Proofs.Failure.Basic
import NeuralDevice.Relocation.Model
import NeuralDevice.Relocation.Request

/-! Moving data between host memory and pools fails ordinarily. -/

namespace NeuralDevice

open Result

@[simp] theorem MemoryFault.isOrdinary_error (fault : MemoryFault) : fault.error.isOrdinary = true := by
  cases fault <;> rfl

@[simp] theorem HostFault.isOrdinary_error (fault : HostFault) : fault.error.isOrdinary = true := by
  cases fault <;> rfl

@[simp] theorem LayoutFault.isOrdinary_error (fault : LayoutFault) : fault.error.isOrdinary = true := by
  cases fault <;> rfl

@[simp] theorem RelocationFault.isOrdinary_error (fault : RelocationFault) :
    fault.error.isOrdinary = true := by
  cases fault <;> rfl

section Pools

@[simp] theorem HostPointer.failsOrdinarily_checkLength (pointer : HostPointer) (length : Nat) :
    FailsOrdinarily (pointer.checkLength length) := by simp [checkLength]

@[simp] theorem HostPointer.failsOrdinarily_read (pointer : HostPointer) (host : HostMemory) (length : Nat) :
    FailsOrdinarily (pointer.read host length) := by simp [read]

@[simp] theorem HostPointer.failsOrdinarily_write (pointer : HostPointer) (host : HostMemory)
    (data : List UInt8) : FailsOrdinarily (pointer.write host data) := by simp [write]

@[simp] theorem Memory.failsOrdinarily_create (store : FileStore) (size : UInt64) :
    FailsOrdinarily (create store size) := by simp [create]

@[simp] theorem Memory.failsOrdinarily_view (memory : Memory) (store : FileStore) :
    FailsOrdinarily (memory.view store) := by
  unfold view
  split <;> simp

@[simp] theorem MemoryView.failsOrdinarily_checkRange (view : MemoryView) (offset length : Nat) :
    FailsOrdinarily (view.checkRange offset length) := by
  unfold checkRange
  cases rangeStop? offset length <;> simp

@[simp] theorem Memory.failsOrdinarily_read (memory : Memory) (store : FileStore) (offset length : Nat) :
    FailsOrdinarily (memory.read store offset length) := by
  have whole (view : MemoryView) : FailsOrdinarily (view.read store offset length) := by
    unfold MemoryView.read
    cases (view.file store).read? offset length <;> simp
  simp [read, whole]

@[simp] theorem Memory.failsOrdinarily_write (memory : Memory) (store : FileStore) (offset : Nat)
    (data : List UInt8) : FailsOrdinarily (memory.write store offset data) := by
  simp [write, MemoryView.write]

@[simp] theorem failsOrdinarily_nextPoolIndex (count : Nat) : FailsOrdinarily (nextPoolIndex count) := by
  simp [nextPoolIndex]

@[simp] theorem ConstantBuilder.failsOrdinarily_append (builder : ConstantBuilder) (region : List UInt8) :
    FailsOrdinarily (builder.append region) := by
  unfold append
  split
  · simp
  · split <;> simp

@[simp] theorem ConstantBuilder.failsOrdinarily_finish (builder : ConstantBuilder) (store : FileStore) :
    FailsOrdinarily (builder.finish store) := by simp [finish]

@[simp] theorem OutputBuilder.failsOrdinarily_append (builder : OutputBuilder) (length : UInt32) :
    FailsOrdinarily (builder.append length) := by simp [append]

@[simp] theorem OutputBuilder.failsOrdinarily_finish (builder : OutputBuilder) (store : FileStore) :
    FailsOrdinarily (builder.finish store) := by simp [finish]

end Pools

/-- Members that are moved one after the other, each with its builder. -/
@[simp] theorem Result.failsOrdinarily_run_mapM {α β ω : Type} {step : α → StateT ω (Except Error) β}
    {sources : List α} (each : ∀ source ∈ sources, ∀ state, FailsOrdinarily ((step source).run state))
    (start : ω) : FailsOrdinarily ((sources.mapM step).run start) := by
  induction sources generalizing start with
  | nil => simp
  | cons source rest ih =>
    rw [List.forall_mem_cons] at each
    simp [List.mapM_cons, each.1, ih each.2]

@[simp] theorem Subgraph.failsOrdinarily_relocate (host : HostMemory) (subgraph : Subgraph)
    (builder : ConstantBuilder) : FailsOrdinarily ((subgraph.relocate host).run builder) := by
  have operand (operand : Operand) (builder : ConstantBuilder) :
      FailsOrdinarily ((operand.relocate host).run builder) := by
    simp only [Operand.relocate, StateT.run]
    split <;> simp
  simp [relocate, operand]

@[simp] theorem Model.failsOrdinarily_relocate (host : HostMemory) (store : FileStore) (model : Model) :
    FailsOrdinarily (model.relocate host store) := by simp [relocate]

@[simp] theorem Request.failsOrdinarily_relocate (host : HostMemory) (store : FileStore)
    (request : Request) : FailsOrdinarily (request.relocate host store) := by
  have input (argument : Argument) (builder : ConstantBuilder) :
      FailsOrdinarily ((argument.relocateInput host).run builder) := by
    simp only [Argument.relocateInput, StateT.run]
    split <;> simp
  have output (argument : Argument) (builder : OutputBuilder) :
      FailsOrdinarily (argument.relocateOutput.run builder) := by
    simp only [Argument.relocateOutput, StateT.run]
    split <;> simp
  simp [relocate, input, output, ConstantBuilder.appendTo, OutputBuilder.appendTo]

@[simp] theorem Request.failsOrdinarily_results (request relocated : Request) (store : FileStore) :
    FailsOrdinarily (request.results relocated store) := by
  have output (memory : Memory) (last output : Nat) (given moved : Argument) :
      FailsOrdinarily (outputResult memory last store output given moved) := by
    unfold outputResult
    split <;> simp
  unfold results
  split <;> simp [output]

@[simp] theorem HostMemory.failsOrdinarily_writeAll (host : HostMemory)
    (results : List (HostPointer × List UInt8)) : FailsOrdinarily (host.writeAll results).1 := by
  induction results generalizing host with
  | nil => exact failsOrdinarily_ok ()
  | cons result rest ih =>
    obtain ⟨pointer, data⟩ := result
    unfold writeAll
    split
    · exact ih _
    · rename_i failed
      exact failsOrdinarily_error.mpr (pointer.failsOrdinarily_write host data _ failed)

@[simp] theorem Request.failsOrdinarily_restore (request relocated : Request) (store : FileStore)
    (host : HostMemory) : FailsOrdinarily (request.restore relocated store host).1 := by
  unfold restore
  split
  · exact host.failsOrdinarily_writeAll _
  · rename_i failed
    exact failsOrdinarily_error.mpr (request.failsOrdinarily_results relocated store _ failed)

end NeuralDevice
