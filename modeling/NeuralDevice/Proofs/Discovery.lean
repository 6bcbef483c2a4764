import NeuralDevice.Discovery
import NeuralDevice.Proofs.Validation.Basic

/-!
Which devices discovery finds. Every name that a provider lists is visited once, newest provider first; a name is
passed over exactly if an earlier visit made its device, so each device is the first that could be made.
-/

namespace NeuralDevice

variable {ω δ : Type}

/-! The order of the providers. -/

namespace Provider

/-- What providers are sorted by. -/
def isNotOlder (first second : Provider ω δ) : Bool := second.version ≤ first.version

theorem isNotOlder_trans (first second third : Provider ω δ) (newer : first.isNotOlder second)
    (older : second.isNotOlder third) : first.isNotOlder third :=
  decide_eq_true (Nat.le_trans (of_decide_eq_true older) (of_decide_eq_true newer))

theorem isNotOlder_total (first second : Provider ω δ) :
    first.isNotOlder second || second.isNotOlder first := by
  rcases Nat.le_total second.version.rank first.version.rank with older | newer
  · rw [show first.isNotOlder second = true from decide_eq_true older, Bool.true_or]
  · rw [show second.isNotOlder first = true from decide_eq_true newer, Bool.or_true]

end Provider

theorem newestFirst_perm (providers : List (Provider ω δ)) : (newestFirst providers).Perm providers :=
  List.mergeSort_perm _ _

private theorem pairwise_newestFirst (providers : List (Provider ω δ)) :
    (newestFirst providers).Pairwise fun first second => second.version ≤ first.version :=
  (List.pairwise_mergeSort Provider.isNotOlder_trans Provider.isNotOlder_total providers).imp
    of_decide_eq_true

private theorem filter_newestFirst (providers : List (Provider ω δ)) (version : Version) :
    (newestFirst providers).filter (fun provider => provider.version = version) =
      providers.filter fun provider => provider.version = version := by
  let same (provider : Provider ω δ) : Bool := provider.version = version
  have alike : (providers.filter same).Pairwise fun first second => first.isNotOlder second := by
    refine List.pairwise_of_forall_mem_list fun first one second other => decide_eq_true ?_
    have here : first.version = version := of_decide_eq_true (List.mem_filter.mp one).2
    have there : second.version = version := of_decide_eq_true (List.mem_filter.mp other).2
    rw [here, there]
    exact Version.le_refl version
  have kept : (providers.filter same).Sublist (newestFirst providers) :=
    List.sublist_mergeSort Provider.isNotOlder_trans Provider.isNotOlder_total alike List.filter_sublist
  have filtered := kept.filter same
  rw [List.filter_filter] at filtered
  simp only [Bool.and_self] at filtered
  exact (filtered.eq_of_length ((newestFirst_perm providers).filter same).length_eq.symm).symm

/-! What is called, and in which order. -/

/-- A name that a provider listed: what the provider answered for it, or nothing if it was passed over. -/
structure Visit (ω δ : Type) where
  provider : Provider ω δ
  name : String
  answer : Option (Result δ)

namespace Visit

/-- The device that the visit made. -/
def device? (visit : Visit ω δ) : Option δ := visit.answer.bind Except.toOption

def isMade (visit : Visit ω δ) : Bool := visit.device?.isSome

/-- The provider was asked in vain. -/
def HasFailed (visit : Visit ω δ) : Prop := ∃ error, visit.answer = some (.error error)

private theorem hasFailed_of_asked {visit : Visit ω δ} (asked : visit.answer ≠ none)
    (unmade : ¬visit.isMade = true) : visit.HasFailed := by
  obtain ⟨provider, name, answer⟩ := visit
  cases answer with
  | none => exact absurd rfl asked
  | some result =>
    cases result with
    | error error => exact ⟨error, rfl⟩
    | ok device => exact absurd rfl unmade

end Visit

/-- The visits to names of one provider, in order. Only a provider that is asked changes the state. -/
inductive Visits (provider : Provider ω δ) : List String → ω → List (Visit ω δ) → ω → Prop
  | nil (state : ω) : Visits provider [] state [] state
  | passed {name : String} {names : List String} {visits : List (Visit ω δ)} {before after : ω}
    (rest : Visits provider names before visits after) :
    Visits provider (name :: names) before (⟨provider, name, none⟩ :: visits) after
  | asked {name : String} {names : List String} {visits : List (Visit ω δ)} {result : Result δ}
    {before middle after : ω} (answered : (provider.getDevice name).apply before = (result, middle))
    (rest : Visits provider names middle visits after) :
    Visits provider (name :: names) before (⟨provider, name, some result⟩ :: visits) after

/-- The visits to all names of all providers, each provider listing its names when its turn comes. -/
inductive Tours : List (Provider ω δ) → ω → List (Visit ω δ) → ω → Prop
  | nil (state : ω) : Tours [] state [] state
  | cons {provider : Provider ω δ} {providers : List (Provider ω δ)} {names : List String}
    {visits others : List (Visit ω δ)} {before listed middle after : ω}
    (lists : provider.instanceNames.run before = (names, listed))
    (first : Visits provider names listed visits middle) (rest : Tours providers middle others after) :
    Tours (provider :: providers) before (visits ++ others) after

/-- A visit made the device of the name. -/
def IsTaken (visits : List (Visit ω δ)) (name : String) : Prop :=
  ∃ visit ∈ visits, visit.name = name ∧ visit.isMade = true

/-- A name is passed over exactly if it was taken before. -/
def PassesTaken (visits : List (Visit ω δ)) : Prop :=
  ∀ earlier visit later, visits = earlier ++ visit :: later →
    (visit.answer = none ↔ IsTaken earlier visit.name)

theorem PassesTaken.snoc {visits : List (Visit ω δ)} {visit : Visit ω δ} (passes : PassesTaken visits)
    (last : visit.answer = none ↔ IsTaken visits visit.name) : PassesTaken (visits ++ [visit]) := by
  intro earlier other later same
  rcases List.eq_nil_or_concat later with rfl | ⟨between, final, rfl⟩
  · obtain ⟨rfl, one⟩ := List.append_inj' same rfl
    cases one
    exact last
  · rw [List.concat_eq_append, ← List.cons_append, ← List.append_assoc] at same
    obtain ⟨here, -⟩ := List.append_inj' same rfl
    exact passes earlier other between here

/-- What was found by the visits so far. -/
structure Found.IsOf (found : Found δ) (visits : List (Visit ω δ)) : Prop where
  devices : found.devices = visits.filterMap Visit.device?
  names : ∀ name, name ∈ found.names ↔ IsTaken visits name
  passes : PassesTaken visits

theorem isTaken_snoc {visits : List (Visit ω δ)} {visit : Visit ω δ} {name : String} :
    IsTaken (visits ++ [visit]) name ↔ IsTaken visits name ∨ visit.name = name ∧ visit.isMade = true := by
  simp [IsTaken, or_and_right, exists_or]

namespace Found

variable {found : Found δ} {visits : List (Visit ω δ)} {name : String}

private theorem isOf_empty : (Found.empty : Found δ).IsOf ([] : List (Visit ω δ)) where
  devices := rfl
  names name := iff_of_false nofun (by rintro ⟨visit, ⟨⟩, -⟩)
  passes earlier visit later split := by simp at split

/-- What is found once a provider has answered for a name. -/
def record (found : Found δ) (name : String) : Result δ → Found δ
  | .ok device => ⟨name :: found.names, found.devices ++ [device]⟩
  | .error _ => found

private theorem run_visitName_of_mem (taken : name ∈ found.names) (provider : Provider ω δ) (before : ω) :
    (visitName provider found name).run before = (found, before) := by
  simp only [visitName, List.contains_iff_mem, taken, if_true]
  rfl

private theorem run_visitName_of_not_mem (free : name ∉ found.names) {provider : Provider ω δ} {before after : ω}
    {result : Result δ}
    (answered : (provider.getDevice name).apply before = (result, after)) :
    (visitName provider found name).run before = (found.record name result, after) := by
  simp only [visitName, List.contains_iff_mem, free, if_false, StateT.run_bind]
  rw [show (ExceptT.run (provider.getDevice name)).run before = (result, after) from answered]
  cases result <;> rfl

theorem IsOf.passed (held : found.IsOf visits) (taken : name ∈ found.names) (provider : Provider ω δ) :
    found.IsOf (visits ++ [⟨provider, name, none⟩]) where
  devices := by
    rw [held.devices, List.filterMap_append]
    simp [Visit.device?]
  names other := by
    rw [held.names, isTaken_snoc]
    simp [Visit.isMade, Visit.device?]
  passes := held.passes.snoc (iff_of_true rfl ((held.names name).mp taken))

theorem IsOf.asked (held : found.IsOf visits) (free : name ∉ found.names) (provider : Provider ω δ)
    (result : Result δ) :
    (found.record name result).IsOf (visits ++ [⟨provider, name, some result⟩]) where
  devices := by
    rw [List.filterMap_append, ← held.devices]
    cases result <;> simp [record, Visit.device?, Except.toOption]
  names other := by
    rw [isTaken_snoc, ← held.names]
    cases result with
    | ok device => simp [record, Visit.isMade, Visit.device?, Except.toOption, or_comm, eq_comm]
    | error error => simp [record, Visit.isMade, Visit.device?, Except.toOption]
  passes := held.passes.snoc (iff_of_false nofun fun taken => free ((held.names name).mpr taken))

private theorem IsOf.visitNames (held : found.IsOf visits) (provider : Provider ω δ) (names : List String)
    (before : ω) :
    ∃ later others after, (names.foldlM (visitName provider) found).run before = (later, after) ∧
      Visits provider names before others after ∧ later.IsOf (visits ++ others) := by
  induction names generalizing found visits before with
  | nil => exact ⟨found, [], before, rfl, .nil before, by rwa [List.append_nil]⟩
  | cons name names ih =>
    by_cases taken : name ∈ found.names
    · obtain ⟨later, others, after, ran, toured, whole⟩ := ih (held.passed taken provider) before
      refine ⟨later, _, after, ?_, .passed toured, ?_⟩
      · rw [List.foldlM_cons, StateT.run_bind, run_visitName_of_mem taken]
        exact ran
      · rwa [List.append_assoc] at whole
    · rcases answered : (provider.getDevice name).apply before with ⟨result, middle⟩
      obtain ⟨later, others, after, ran, toured, whole⟩ := ih (held.asked taken provider result) middle
      refine ⟨later, _, after, ?_, .asked answered toured, ?_⟩
      · rw [List.foldlM_cons, StateT.run_bind, run_visitName_of_not_mem taken answered]
        exact ran
      · rwa [List.append_assoc] at whole

private theorem IsOf.visitAll (held : found.IsOf visits) (providers : List (Provider ω δ)) (before : ω) :
    ∃ later others after, (providers.foldlM visit found).run before = (later, after) ∧
      Tours providers before others after ∧ later.IsOf (visits ++ others) := by
  induction providers generalizing found visits before with
  | nil => exact ⟨found, [], before, rfl, .nil before, by rwa [List.append_nil]⟩
  | cons provider providers ih =>
    rcases lists : provider.instanceNames.run before with ⟨names, listed⟩
    obtain ⟨here, first, middle, ran, toured, part⟩ := held.visitNames provider names listed
    obtain ⟨later, others, after, rest, tours, whole⟩ := ih part middle
    refine ⟨later, first ++ others, after, ?_, .cons lists toured tours, ?_⟩
    · rw [List.foldlM_cons, StateT.run_bind, visit, StateT.run_bind, lists]
      simp only [bind, ran, rest]
    · rwa [List.append_assoc] at whole

end Found

/-! What follows for a name. -/

namespace PassesTaken

variable {visits earlier later : List (Visit ω δ)} {visit first last : Visit ω δ}

private theorem isTaken_append {others : List (Visit ω δ)} {name : String} (taken : IsTaken earlier name) :
    IsTaken (earlier ++ others) name := by
  obtain ⟨visit, member, made⟩ := taken
  exact ⟨visit, List.mem_append_left _ member, made⟩

theorem hasFailed_of_not_isTaken (passes : PassesTaken visits) (member : visit ∈ visits)
    (free : ¬IsTaken visits visit.name) : visit.HasFailed := by
  obtain ⟨earlier, later, rfl⟩ := List.append_of_mem member
  refine Visit.hasFailed_of_asked (fun passed => free ?_) fun made => free ⟨visit, member, rfl, made⟩
  exact isTaken_append ((passes earlier visit later rfl).mp passed)

private theorem of_append {others : List (Visit ω δ)} (passes : PassesTaken (visits ++ others)) :
    PassesTaken visits := by
  rintro earlier visit later rfl
  exact passes earlier visit (later ++ others) (by simp)

private theorem hasFailed_of_isMade (passes : PassesTaken (earlier ++ visit :: later)) (made : visit.isMade = true)
    (member : first ∈ earlier) (same : first.name = visit.name) : first.HasFailed := by
  refine passes.of_append.hasFailed_of_not_isTaken member fun taken => ?_
  have passed := (passes earlier visit later rfl).mpr (same ▸ taken)
  simp [Visit.isMade, Visit.device?, passed] at made

theorem answer_eq_none_of_isMade (passes : PassesTaken (earlier ++ visit :: later))
    (made : visit.isMade = true) (member : last ∈ later) (same : last.name = visit.name) :
    last.answer = none := by
  obtain ⟨between, rest, rfl⟩ := List.append_of_mem member
  refine (passes (earlier ++ visit :: between) last rest (by simp)).mpr ?_
  exact ⟨visit, by simp, same.symm, made⟩

private theorem names_nodup (passes : PassesTaken visits) : ((visits.filter Visit.isMade).map Visit.name).Nodup := by
  rw [List.Nodup, List.pairwise_map, List.pairwise_filter, List.pairwise_iff_forall_sublist]
  intro visit last inside made madeLast same
  obtain ⟨front, back, rfl, member, rest⟩ := List.cons_sublist_iff.mp inside
  obtain ⟨earlier, between, rfl⟩ := List.append_of_mem member
  rw [List.append_assoc, List.cons_append] at passes
  have passed := passes.answer_eq_none_of_isMade made
    (List.mem_append_right between (List.singleton_sublist.mp rest)) same.symm
  simp [Visit.isMade, Visit.device?, passed] at madeLast

end PassesTaken

/-- Discovery visits every listed name once, newest provider first and otherwise in the order given, and finds
the devices that these visits make, in their order. A provider is asked for a name exactly if none asked before
has made it. So a name has at most one device, from the first provider that could make it, and has none only if
every provider that lists it was asked and failed. -/
theorem getDevices_finds_first (providers : List (Provider ω δ)) (before : ω) :
    (newestFirst providers).Perm providers ∧
      (newestFirst providers).Pairwise (fun first second => second.version ≤ first.version) ∧
      (∀ version, (newestFirst providers).filter (fun provider => provider.version = version) =
        providers.filter fun provider => provider.version = version) ∧
      ∃ visits after, Tours (newestFirst providers) before visits after ∧
        (getDevices providers).run before = (visits.filterMap Visit.device?, after) ∧
        ((visits.filter Visit.isMade).map Visit.name).Nodup ∧
        ∀ earlier visit later, visits = earlier ++ visit :: later →
          (visit.answer = none ↔ IsTaken earlier visit.name) ∧
          (visit.isMade = true →
            (∀ first ∈ earlier, first.name = visit.name → first.HasFailed) ∧
            ∀ last ∈ later, last.name = visit.name → last.answer = none) ∧
          (¬IsTaken visits visit.name → visit.HasFailed) := by
  refine ⟨newestFirst_perm providers, pairwise_newestFirst providers, filter_newestFirst providers, ?_⟩
  obtain ⟨found, visits, after, ran, tours, whole⟩ :=
    Found.isOf_empty.visitAll (newestFirst providers) before
  rw [List.nil_append] at whole
  refine ⟨visits, after, tours, ?_, whole.passes.names_nodup, ?_⟩
  · rw [getDevices, StateT.run_bind]
    simp only [bind, ran, ← whole.devices]
    rfl
  · rintro earlier visit later rfl
    have passes := whole.passes
    refine ⟨passes earlier visit later rfl, fun made => ⟨?_, ?_⟩, ?_⟩
    · exact fun first member same => passes.hasFailed_of_isMade made member same
    · exact fun last member same => passes.answer_eq_none_of_isMade made member same
    · exact passes.hasFailed_of_not_isTaken (by simp)

end NeuralDevice
