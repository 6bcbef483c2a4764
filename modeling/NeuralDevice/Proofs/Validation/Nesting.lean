import NeuralDevice.Proofs.Validation.Cycle
import NeuralDevice.Proofs.Validation.Model

/-!
References between subgraphs. Subgraphs are numbered as they stand in a model: main is 0, and the referenced
subgraph with an index is the next number. Main statement: a model is valid exactly if the rest of it is and no
subgraph leads back to itself, and then every subgraph unfolds to a finite nesting.
-/

namespace NeuralDevice

open Relation Result

private theorem exists_mapM_eq_some {α β ι : Type} {good : ι → Prop} {step : ι → α → Option β} {sources : List α}
    (each : ∀ source ∈ sources, ∃ value, ∀ setting, good setting → step setting source = some value) :
    ∃ values, ∀ setting, good setting → sources.mapM (step setting) = some values := by
  induction sources with
  | nil => exact ⟨[], fun _ _ => rfl⟩
  | cons source rest ih =>
    rw [List.forall_mem_cons] at each
    obtain ⟨value, head⟩ := each.1
    obtain ⟨values, tail⟩ := ih each.2
    refine ⟨value :: values, fun setting fits => ?_⟩
    rw [List.mapM_cons, head setting fits, tail setting fits]
    rfl

/-- A subgraph with what its operands stand for, unfolded in turn. -/
inductive Nesting where
  | node (subgraph : Subgraph) (parts : List Nesting)

namespace Model

/-- The subgraph numbered `source` has an operand that stands for the one numbered `target`. -/
def Refers (model : Model) (source target : Nat) : Prop :=
  ∃ subgraph, model.subgraphs[source]? = some subgraph ∧ ∃ operand ∈ subgraph.operands,
    operand.lifetime = .subgraph ∧ target = operand.location.offset.toNat + 1

/-- No subgraph leads back to itself. -/
def HasNoCycle (model : Model) : Prop := ∀ number, ¬TransGen model.Refers number number

/-- All that validation asks of a model beside the absence of cycles. -/
structure PassesBesideCycles (model : Model) : Prop where
  vendors : checkVendors [] model.vendors = .ok ()
  subgraphs : ∀ subgraph ∈ model.subgraphs, ∃ version, subgraph.check model = .ok version

/-- Unfolds the references of a subgraph; at most `levels` subgraphs stand inside each other. -/
def nesting? (model : Model) : Nat → Nat → Option Nesting
  | 0, _ => none
  | levels + 1, number =>
    match model.subgraphs[number]? with
    | none => none
    | some subgraph =>
      (subgraph.references.mapM fun index => nesting? model levels (index + 1)).map (.node subgraph)

variable {model : Model} {source target number index rounds levels : Nat} {subgraphs : List Nat}

theorem refers_iff :
    model.Refers source target ↔
      ∃ subgraph, model.subgraphs[source]? = some subgraph ∧
        ∃ index ∈ subgraph.references, target = index + 1 := by
  simp [Refers, Subgraph.references, and_assoc]

theorem Refers.source_lt (refers : model.Refers source target) : source < model.subgraphs.length := by
  obtain ⟨subgraph, found, -⟩ := refers
  exact (List.getElem?_eq_some_iff.mp found).1

theorem Refers.target_ne_zero (refers : model.Refers source target) : target ≠ 0 := by
  obtain ⟨_, -, _, -, -, rfl⟩ := refers
  exact Nat.succ_ne_zero _

private theorem getElem?_finRange {count position : Nat} {node : Fin count} :
    (List.finRange count)[position]? = some node ↔ position = node := by
  rw [List.getElem?_eq_some_iff]
  constructor
  · intro there
    obtain ⟨inside, rfl⟩ := there
    rw [List.getElem_finRange]
    rfl
  · rintro rfl
    exact ⟨by simp, by simp⟩

theorem adj_referenceGraph_iff {source target : Fin (model.referenced.length + 1)} :
    model.referenceGraph.Adj source target ↔ model.Refers source target := by
  have listed (references : List Nat) :
      (source, references) ∈ (List.finRange _).zip (model.subgraphs.map Subgraph.references) ↔
        (model.subgraphs[source.val]?).map Subgraph.references = some references := by
    simp only [List.mem_iff_getElem?, List.getElem?_zip_eq_some, getElem?_finRange, exists_eq_left, List.getElem?_map]
  unfold Digraph.Adj referenceGraph
  simp only [List.mem_flatMap, List.mem_filterMap, Option.map_eq_some_iff, Prod.mk.injEq, Prod.exists, refers_iff]
  constructor
  · intro edge
    obtain ⟨_, references, member, index, referred, _, found, rfl, rfl⟩ := edge
    obtain ⟨subgraph, there, rfl⟩ := Option.map_eq_some_iff.mp ((listed references).mp member)
    exact ⟨subgraph, there, index, referred, (getElem?_finRange.mp found).symm⟩
  · intro refers
    obtain ⟨subgraph, there, index, referred, same⟩ := refers
    have member := (listed subgraph.references).mpr (Option.map_eq_some_iff.mpr ⟨subgraph, there, rfl⟩)
    exact ⟨source, _, member, index, referred, target, getElem?_finRange.mpr same.symm, rfl, rfl⟩

private theorem hasCycle_referenceGraph_iff : model.referenceGraph.HasCycle ↔ ¬model.HasNoCycle := by
  rw [HasNoCycle, not_forall_not]
  constructor
  · intro cyclic
    obtain ⟨node, cycle⟩ := cyclic
    exact ⟨node, cycle.lift Fin.val fun _ _ => adj_referenceGraph_iff.mp⟩
  · intro cyclic
    obtain ⟨number, cycle⟩ := cyclic
    -- Whatever a path to a subgraph on a cycle passes is a subgraph of the model, since it refers to the next one.
    have path {first last : Nat} (way : TransGen model.Refers first last) (inside : last < model.subgraphs.length) :
        ∃ there : first < model.subgraphs.length,
          TransGen model.referenceGraph.Adj ⟨first, there⟩ ⟨last, inside⟩ := by
      induction way using TransGen.head_induction_on with
      | single refers => exact ⟨refers.source_lt, .single (adj_referenceGraph_iff.mpr refers)⟩
      | head refers _ ih =>
        obtain ⟨there, rest⟩ := ih
        exact ⟨refers.source_lt, .head (adj_referenceGraph_iff.mpr refers) rest⟩
    obtain ⟨_, refers, -⟩ := TransGen.head'_iff.mp cycle
    exact ⟨⟨number, refers.source_lt⟩, (path cycle refers.source_lt).2⟩

/-- Each reference of a model leads to a subgraph it has. -/
def IsClosed (model : Model) : Prop :=
  ∀ source target, model.Refers source target → target < model.subgraphs.length

theorem IsValid.isClosed (valid : model.IsValid) : model.IsClosed := by
  intro source target refers
  obtain ⟨subgraph, found, operand, member, alive, rfl⟩ := refers
  have located := ((valid.subgraphs subgraph (List.mem_of_getElem? found)).operands operand member).location
  unfold Operand.HasValidLocation at located
  rw [alive] at located
  exact Nat.succ_lt_succ located.2.2

theorem IsClosed.length_le (closed : model.IsClosed) (forward : model.HasNoCycle) {path : List Nat}
    (chain : (number :: path).IsChain model.Refers) : path.length ≤ model.referenced.length := by
  have distinct : path.Nodup := (nodup_of_isChain forward chain).of_cons
  have there : path ⊆ (List.range model.referenced.length).map (· + 1) := by
    intro target member
    obtain ⟨source, refers⟩ := exists_related_of_isChain chain target member
    obtain ⟨index, rfl⟩ := Nat.exists_eq_succ_of_ne_zero refers.target_ne_zero
    have inside : index < model.referenced.length := Nat.lt_of_succ_lt_succ (closed _ _ refers)
    exact List.mem_map.mpr ⟨index, List.mem_range.mpr inside, rfl⟩
  simpa using (distinct.subperm there).length_le

/-- A subgraph that starts no chain of `levels` references unfolds to one nesting of as many levels. -/
private theorem IsClosed.exists_nesting (closed : model.IsClosed) (inside : number < model.subgraphs.length)
    (bounded : ∀ path, (number :: path).IsChain model.Refers → path.length < levels) :
    ∃ nesting, ∀ more, levels ≤ more → model.nesting? more number = some nesting := by
  induction levels generalizing number with
  | zero => exact absurd (bounded [] (.singleton number)) (Nat.not_lt_zero _)
  | succ levels ih =>
    have found : model.subgraphs[number]? = some model.subgraphs[number] :=
      List.getElem?_eq_getElem inside
    have parts : ∀ index ∈ model.subgraphs[number].references, ∃ nesting, ∀ more, levels ≤ more →
        model.nesting? more (index + 1) = some nesting := by
      intro index referred
      have refers : model.Refers number (index + 1) := refers_iff.mpr ⟨_, found, index, referred, rfl⟩
      refine ih (closed _ _ refers) fun path chain => ?_
      exact Nat.lt_of_succ_lt_succ (bounded (_ :: path) (List.isChain_cons_cons.mpr ⟨refers, chain⟩))
    obtain ⟨nestings, all⟩ := exists_mapM_eq_some parts
    refine ⟨.node model.subgraphs[number] nestings, fun more enough => ?_⟩
    obtain ⟨more, rfl⟩ := Nat.exists_eq_succ_of_ne_zero (Nat.ne_zero_of_lt enough)
    simp only [nesting?, found, all more (Nat.le_of_succ_le_succ enough), Option.map_some]

theorem isAcyclic_iff : model.isAcyclic = true ↔ model.HasNoCycle := by
  rw [isAcyclic, Bool.not_eq_true', ← Bool.not_eq_true, Digraph.decidesCycles_isCyclic, hasCycle_referenceGraph_iff,
    not_not]

private theorem exists_validate_iff_passesBesideCycles :
    (∃ version, validate model = .ok version) ↔ model.PassesBesideCycles ∧ model.HasNoCycle := by
  rw [checks.passes_iff, ← isAcyclic_iff]
  constructor
  · intro valid
    refine ⟨⟨valid.vendors, fun subgraph member => ?_⟩, valid.acyclic⟩
    exact (Subgraph.checks model).passes_iff.mpr (valid.subgraphs subgraph member)
  · intro passed
    rcases passed with ⟨others, acyclic⟩
    refine ⟨others.vendors, fun subgraph member => ?_, acyclic⟩
    exact (Subgraph.checks model).passes_iff.mp (others.subgraphs subgraph member)

private theorem validateWith_eq_validate {isCyclic : Digraph → Bool} (decides : Digraph.DecidesCycles isCyclic)
    (model : Model) : model.validateWith isCyclic = validate model := by
  rw [validate_eq_validateWith, decides.eq Digraph.decidesCycles_isCyclic]

/-- However cycles are found, a model that passes everything else is valid exactly if no subgraph leads back to
itself. Main is never referred to, and each subgraph of a valid model unfolds to one finite nesting: no more
references follow each other than there are referenced subgraphs, so further levels change nothing. -/
theorem references_end {isCyclic : Digraph → Bool} (decides : Digraph.DecidesCycles isCyclic) (model : Model) :
    (model.PassesBesideCycles → ((∃ version, model.validateWith isCyclic = .ok version) ↔ model.HasNoCycle)) ∧
    (∀ source, ¬model.Refers source 0) ∧
    ∀ version, model.validateWith isCyclic = .ok version → ∀ start < model.subgraphs.length,
      (∀ path, (start :: path).IsChain model.Refers → path.length ≤ model.referenced.length) ∧
      ∃ nesting, ∀ levels, model.referenced.length < levels → model.nesting? levels start = some nesting := by
  rw [validateWith_eq_validate decides]
  refine ⟨fun others => ?_, fun source refers => refers.target_ne_zero rfl, ?_⟩
  · rw [exists_validate_iff_passesBesideCycles, and_iff_right others]
  · intro version validated start inside
    have valid := (validate_eq_ok_iff.mp validated).1
    have forward := isAcyclic_iff.mp valid.acyclic
    have bounded : ∀ path, (start :: path).IsChain model.Refers → path.length ≤ model.referenced.length :=
      fun _ chain => valid.isClosed.length_le forward chain
    exact ⟨bounded, valid.isClosed.exists_nesting inside fun path chain => Nat.lt_succ_of_le (bounded path chain)⟩

/-- A subgraph of operands that stand for the referenced subgraphs with these indexes. -/
def standingFor (indexes : List UInt32) : Subgraph :=
  ⟨indexes.map fun index => ⟨.builtin .subgraph, [], .zero, 0, .subgraph, .inPool 0 index 0, .none⟩, [], [], []⟩

/-- A model of subgraphs that only stand for others. -/
def ofReferences (main : List UInt32) (referenced : List (List UInt32)) : Model :=
  ⟨standingFor main, referenced.map standingFor, [], [], false, []⟩

theorem passesBesideCycles_ofReferences {main : List UInt32} {referenced : List (List UInt32)}
    (inside : ∀ indexes ∈ main :: referenced, ∀ index ∈ indexes, index.toNat < referenced.length) :
    (ofReferences main referenced).PassesBesideCycles := by
  have all : (ofReferences main referenced).subgraphs = (main :: referenced).map standingFor := rfl
  refine ⟨rfl, fun subgraph member => (Subgraph.checks _).passes_iff.mpr ?_⟩
  rw [all] at member
  obtain ⟨indexes, present, rfl⟩ := List.mem_map.mp member
  have lists : ∀ lifetime, lifetime ≠ .subgraph → (standingFor indexes).Lists lifetime [] := by
    intro lifetime other
    have none : (standingFor indexes).countLifetime lifetime = 0 := by
      simp [Subgraph.countLifetime, standingFor, List.countP_eq_zero, Ne.symm other]
    exact ⟨nofun, .nil, none⟩
  refine ⟨fun operand made => ?_, nofun, lists _ nofun, lists _ nofun⟩
  obtain ⟨index, listed, rfl⟩ := List.mem_map.mp made
  have there : index.toNat < (ofReferences main referenced).referenced.length := by
    simpa [ofReferences] using inside indexes present index listed
  exact ⟨.inr rfl, rfl, nofun, rfl, rfl, there⟩

/-- One subgraph is reached on several ways, and one is not reached at all. -/
def layered : Model := ofReferences [0, 0, 1] [[1], [], [1]]

/-- Two subgraphs that main does not reach stand for each other. -/
def looped : Model := ofReferences [] [[1], [0]]

theorem layered_ends :
    Digraph.DecidesCycles Digraph.isCyclic ∧
      layered.PassesBesideCycles ∧ layered.validateWith Digraph.isCyclic = .ok .v1_3 ∧ layered.HasNoCycle ∧
      (∃ nesting, ∀ levels, 3 < levels → layered.nesting? levels 0 = some nesting) ∧
      looped.PassesBesideCycles ∧ ¬∃ version, looped.validateWith Digraph.isCyclic = .ok version := by
  have decides := Digraph.decidesCycles_isCyclic
  have layeredPasses : layered.PassesBesideCycles := passesBesideCycles_ofReferences (by simp)
  have loopedPasses : looped.PassesBesideCycles := passesBesideCycles_ofReferences (by simp)
  have cycle : TransGen looped.Refers 1 1 := by
    have forth : looped.Refers 1 2 := refers_iff.mpr ⟨_, rfl, 1, by decide, rfl⟩
    have back : looped.Refers 2 1 := refers_iff.mpr ⟨_, rfl, 0, by decide, rfl⟩
    exact .tail (.single forth) back
  have valid : layered.validateWith Digraph.isCyclic = .ok .v1_3 := rfl
  have forward : layered.HasNoCycle := ((references_end decides layered).1 layeredPasses).mp ⟨_, valid⟩
  refine ⟨decides, layeredPasses, valid, forward, ?_, loopedPasses, ?_⟩
  · exact ((references_end decides layered).2.2 .v1_3 valid 0 (by decide)).2
  · intro validated
    exact ((references_end decides looped).1 loopedPasses).mp validated 1 cycle

end Model

end NeuralDevice
