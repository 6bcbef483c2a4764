import NeuralDevice.Graph.Model
import NeuralDevice.Relocation.Builder

/-!
Moving the constants of a model from host memory into a shared pool. A model without host pointers is left
as it is; otherwise one pool is appended and the operands that had pointers refer to it.
-/

namespace NeuralDevice

/-- The operand with its constant copied out of host memory. -/
def Operand.relocate (host : HostMemory) (operand : Operand) :
    StateT ConstantBuilder (Except Error) Operand := fun builder =>
  match operand.location.pointer with
  | none => pure (operand, builder)
  | some pointer => do
    let data ← pointer.read host operand.location.length.toNat
    let (location, builder) ← builder.append data
    pure ({ operand with lifetime := .constantReference, location }, builder)

def Subgraph.relocate (host : HostMemory) (subgraph : Subgraph) :
    StateT ConstantBuilder (Except Error) Subgraph := do
  let operands ← subgraph.operands.mapM (Operand.relocate host)
  pure { subgraph with operands }

/-- The model with all constants outside host memory, and the files with the new pool. -/
def Model.relocate (host : HostMemory) (store : FileStore) (model : Model) :
    Result (Model × FileStore) := do
  if model.hasNoPointerData then return (model, store)
  let poolIndex ← nextPoolIndex model.pools.length
  let (main, builder) ← (model.main.relocate host).run (.new poolIndex)
  let (referenced, builder) ← (model.referenced.mapM (Subgraph.relocate host)).run builder
  let relocated := { model with main, referenced }
  if builder.isEmpty then return (relocated, store)
  let (pool, store) ← builder.finish store
  pure ({ relocated with pools := model.pools ++ [pool] }, store)

end NeuralDevice
