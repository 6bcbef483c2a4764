import NeuralDevice.Graph.Digraph
import NeuralDevice.Validation.Operand

/-! Rules for subgraphs and whole models. -/

namespace NeuralDevice

inductive ModelFault where
  | indexOutOfRange (list : String) (index : UInt32)
  | wrongLifetime (list : String) (index : UInt32) (found expected : OperandLifetime)
  | listedTwice (list : String) (index : UInt32)
  | listLength (expected : Nat) (lifetime : OperandLifetime) (listed : Nat) (list : String)
  | missingOperand (operation : Nat) (type : OperationType) (operand : UInt32) (count : Nat)
  | emptyEntry (entry : VendorEntry)
  | repeatedEntry (entry : VendorEntry)
  | cyclicReferences
  deriving DecidableEq, Repr

def ModelFault.error : ModelFault → Error
  | .indexOutOfRange list index => .invalidArgument s!"Subgraph {list} index {index} is out of range"
  | .wrongLifetime list index found expected =>
    let has := Named.name found
    let wanted := Named.name expected
    .invalidArgument s!"Subgraph {list} operand {index} has lifetime {has} instead of {wanted}"
  | .listedTwice list index => .invalidArgument s!"Subgraph {list} operand {index} is listed twice"
  | .listLength expected lifetime listed list =>
    let name := Named.name lifetime
    .invalidArgument
      s!"Subgraph has {expected} operands with lifetime {name} but lists {listed} {list} indexes"
  | .missingOperand operation type operand count =>
    let name := type.name
    .invalidArgument
      (s!"Operation {operation} ({name}) references operand {operand}" ++
        s!" but the subgraph has {count} operands")
  | .emptyEntry entry =>
    let name := entry.name
    let vendor := entry.vendor
    .invalidArgument s!"Invalid extension name \"{name}\" or prefix {vendor}"
  | .repeatedEntry entry =>
    let name := entry.name
    let vendor := entry.vendor
    .invalidArgument s!"Extension \"{name}\" or prefix {vendor} is declared twice"
  | .cyclicReferences => .invalidArgument "Model contains a cycle of subgraph references"

namespace Subgraph

/-- Each listed index names an operand with the lifetime and none is listed twice; `seen` is listed
already. -/
def checkListed (subgraph : Subgraph) (lifetime : OperandLifetime) (list : String)
    (seen : List UInt32) : List UInt32 → Result Unit
  | [] => pure ()
  | index :: rest =>
    match subgraph.operands[index.toNat]? with
    | none => throw (ModelFault.indexOutOfRange list index).error
    | some operand =>
      if operand.lifetime ≠ lifetime then
        throw (ModelFault.wrongLifetime list index operand.lifetime lifetime).error
      else if seen.contains index then throw (ModelFault.listedTwice list index).error
      else checkListed subgraph lifetime list (index :: seen) rest

def countLifetime (subgraph : Subgraph) (lifetime : OperandLifetime) : Nat :=
  subgraph.operands.countP fun operand => operand.lifetime = lifetime

/-- The list names every operand with the lifetime once and nothing else. -/
def checkIndexes (subgraph : Subgraph) (indexes : List UInt32) (lifetime : OperandLifetime)
    (list : String) : Result Unit := do
  subgraph.checkListed lifetime list [] indexes
  let expected := subgraph.countLifetime lifetime
  if expected ≠ indexes.length then
    throw (ModelFault.listLength expected lifetime indexes.length list).error

def checkOperation (subgraph : Subgraph) (index : Nat) (operation : Operation) : Result Version :=
  let count := subgraph.operands.length
  match (operation.inputs ++ operation.outputs).find? (fun operand => count ≤ operand.toNat) with
  | some operand => throw (ModelFault.missingOperand index operation.type operand count).error
  | none => pure operation.type.version

def check (model : Model) (subgraph : Subgraph) : Result Version := do
  let operands ← newestVersion (fun (operand, index) => operand.check model index) .v1_0
    subgraph.operands.zipIdx
  let version ← newestVersion (fun (operation, index) => subgraph.checkOperation index operation)
    operands subgraph.operations.zipIdx
  subgraph.checkIndexes subgraph.inputIndexes .subgraphInput "input"
  subgraph.checkIndexes subgraph.outputIndexes .subgraphOutput "output"
  pure version

/-- The referenced subgraphs that operands of the subgraph stand for. -/
def references (subgraph : Subgraph) : List Nat :=
  (subgraph.operands.filter fun operand => operand.lifetime = .subgraph).map
    fun operand => operand.location.offset.toNat

end Subgraph

namespace Model

/-- Names are not empty and vendors not zero; no name and no vendor is declared twice. -/
def checkVendors (seen : List VendorEntry) : List VendorEntry → Result Unit
  | [] => pure ()
  | entry :: rest =>
    if entry.name.isEmpty || entry.vendor == 0 then throw (ModelFault.emptyEntry entry).error
    else if seen.any (fun other => other.name == entry.name || other.vendor == entry.vendor) then
      throw (ModelFault.repeatedEntry entry).error
    else checkVendors (entry :: seen) rest

/-- The references between subgraphs. Main is node 0, and the referenced subgraph with an index is the next node;
each operand that stands for a subgraph makes an edge, if the model has that subgraph. -/
def referenceGraph (model : Model) : Digraph :=
  let nodes := List.finRange (model.referenced.length + 1)
  ⟨_, (nodes.zip (model.subgraphs.map Subgraph.references)).flatMap fun (source, references) =>
    references.filterMap fun index => (nodes[index + 1]?).map fun target => (source, target)⟩

def isAcyclic (model : Model) : Bool := !model.referenceGraph.isCyclic

end Model

/-- The oldest version with the features a model uses beside its operands and operations. -/
def Model.baseVersion (model : Model) : Version :=
  let vendors := if model.vendors.isEmpty then Version.v1_0 else .v1_2
  let relaxed := if model.relaxFloat32 then Version.v1_1 else .v1_0
  let referenced := if model.referenced.isEmpty then Version.v1_0 else .v1_3
  max (max vendors relaxed) referenced

/-- All rules of a model. How cycles are found is left to `isCyclic`. -/
def Model.validateWith (isCyclic : Digraph → Bool) (model : Model) : Result Version := do
  Model.checkVendors [] model.vendors
  let version ← newestVersion (Subgraph.check model) model.baseVersion model.subgraphs
  if isCyclic model.referenceGraph then throw ModelFault.cyclicReferences.error
  pure version

instance : Validate Model := ⟨Model.validateWith Digraph.isCyclic⟩

end NeuralDevice
