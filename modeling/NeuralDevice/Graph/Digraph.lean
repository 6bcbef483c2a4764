/-! Directed graphs, and the search for cycles in them. -/

namespace NeuralDevice

/-- A graph with the nodes below `size`. There may be several edges from one node to another. -/
structure Digraph where
  size : Nat
  edges : List (Fin size × Fin size)
  deriving DecidableEq, Repr

namespace Digraph

def Adj (graph : Digraph) (source target : Fin graph.size) : Prop := (source, target) ∈ graph.edges

variable (graph : Digraph)

/-- Those of the nodes that have an edge to one of them. -/
def leading (nodes : List (Fin graph.size)) : List (Fin graph.size) :=
  nodes.filter fun node => graph.edges.any fun edge => edge.1 == node && nodes.contains edge.2

/-- What is left of the nodes after dropping, again and again, those without an edge to one left. -/
def survivors : Nat → List (Fin graph.size) → List (Fin graph.size)
  | 0, nodes => nodes
  | rounds + 1, nodes => survivors rounds (graph.leading nodes)

/-- Whether some nodes are never dropped: those on cycles, and those that lead to them. -/
def isCyclic : Bool := !(graph.survivors graph.size (List.finRange graph.size)).isEmpty

end Digraph

end NeuralDevice
