import Mathlib.Data.List.Perm.Subperm
import Mathlib.Logic.Relation
import NeuralDevice.Validation.Model

/-!
Cycles of directed graphs. Dropping nodes without an edge to one left finds every cycle, so there is a way to decide
whether a graph has one; and all ways to decide it agree.
-/

namespace NeuralDevice

open Relation

section Chains

variable {α : Type} {related : α → α → Prop}

theorem nodup_of_isChain (forward : ∀ value, ¬TransGen related value value) {path : List α}
    (chain : path.IsChain related) : path.Nodup := by
  have ordered : path.Pairwise (TransGen related) :=
    (chain.imp fun _ _ => TransGen.single).pairwise
  refine ordered.imp fun {first second} before same => ?_
  rw [same] at before
  exact forward second before

theorem exists_related_of_isChain {start : α} {path : List α} (chain : (start :: path).IsChain related) :
    ∀ value ∈ path, ∃ earlier, related earlier value := by
  induction path generalizing start with
  | nil => nofun
  | cons next rest ih =>
    obtain ⟨step, later⟩ := List.isChain_cons_cons.mp chain
    intro value member
    rcases List.mem_cons.mp member with rfl | after
    · exact ⟨start, step⟩
    · exact ih later value after

end Chains

namespace Digraph

/-- Some node leads back to itself. -/
def HasCycle (graph : Digraph) : Prop := ∃ node, TransGen graph.Adj node node

/-- Whether a graph has a cycle is what `isCyclic` tells. -/
def DecidesCycles (isCyclic : Digraph → Bool) : Prop := ∀ graph, isCyclic graph = true ↔ graph.HasCycle

variable {graph : Digraph} {node source target : Fin graph.size} {nodes : List (Fin graph.size)} {rounds : Nat}

private theorem mem_leading :
    node ∈ graph.leading nodes ↔ node ∈ nodes ∧ ∃ target ∈ nodes, graph.Adj node target := by
  simp only [leading, List.mem_filter, List.any_eq_true, Bool.and_eq_true, beq_iff_eq, List.contains_iff_mem]
  refine and_congr_right fun _ => ?_
  constructor
  · intro found
    obtain ⟨⟨_, target⟩, listed, rfl, member⟩ := found
    exact ⟨target, member, listed⟩
  · intro found
    obtain ⟨target, member, adjacent⟩ := found
    exact ⟨(node, target), adjacent, rfl, member⟩

private theorem survivors_succ :
    graph.survivors (rounds + 1) nodes = graph.leading (graph.survivors rounds nodes) := by
  induction rounds generalizing nodes with
  | zero => rfl
  | succ rounds ih =>
    rw [survivors, ih]
    rfl

/-- What is left after some rounds starts a chain of as many edges among the given nodes. -/
private theorem exists_isChain_of_mem_survivors (left : node ∈ graph.survivors rounds nodes) :
    ∃ path, path.length = rounds ∧ node :: path ⊆ nodes ∧ (node :: path).IsChain graph.Adj := by
  induction rounds generalizing node with
  | zero => exact ⟨[], rfl, by simpa [survivors] using left, .singleton node⟩
  | succ rounds ih =>
    rw [survivors_succ, mem_leading] at left
    obtain ⟨own, target, member, adjacent⟩ := left
    obtain ⟨_, -, given, -⟩ := ih own
    obtain ⟨path, length, others, chain⟩ := ih member
    refine ⟨target :: path, congrArg (· + 1) length, ?_, List.isChain_cons_cons.mpr ⟨adjacent, chain⟩⟩
    exact List.cons_subset.mpr ⟨given List.mem_cons_self, others⟩

private theorem mem_survivors_of_cycle (cycle : TransGen graph.Adj node node) :
    node ∈ graph.survivors rounds (List.finRange graph.size) := by
  induction rounds generalizing node with
  | zero => exact List.mem_finRange node
  | succ rounds ih =>
    obtain ⟨next, adjacent, back⟩ := TransGen.head'_iff.mp cycle
    rw [survivors_succ, mem_leading]
    exact ⟨ih cycle, next, ih (TransGen.tail' back adjacent), adjacent⟩

theorem decidesCycles_isCyclic : DecidesCycles isCyclic := by
  intro graph
  constructor
  · intro some
    by_contra forward
    have found : graph.survivors graph.size (List.finRange graph.size) ≠ [] := by simpa [isCyclic] using some
    obtain ⟨node, left⟩ := List.exists_mem_of_ne_nil _ found
    obtain ⟨path, length, -, chain⟩ := exists_isChain_of_mem_survivors left
    have distinct : (node :: path).Nodup := nodup_of_isChain (not_exists.mp forward) chain
    -- More nodes than there are would have to differ.
    have few := (distinct.subperm fun other _ => List.mem_finRange other).length_le
    rw [List.length_cons, length, List.length_finRange] at few
    exact Nat.not_succ_le_self _ few
  · intro cyclic
    obtain ⟨node, cycle⟩ := cyclic
    have left : node ∈ graph.survivors graph.size (List.finRange graph.size) := mem_survivors_of_cycle cycle
    simpa [isCyclic] using List.ne_nil_of_mem left

theorem DecidesCycles.eq {isCyclic other : Digraph → Bool} (decides : DecidesCycles isCyclic)
    (decides' : DecidesCycles other) : isCyclic = other :=
  funext fun graph => Bool.eq_iff_iff.mpr ((decides graph).trans (decides' graph).symm)

end Digraph

end NeuralDevice
