import Mathlib.Data.List.Nodup
import Mathlib.Logic.Function.Basic
import NeuralDevice.Proofs.Recovery.Stages

/-!
Protected calls of many callers on one handle, their steps interleaved in any order. Every endpoint that was
made is bound or was found dead: a step gives the bound endpoint up only after some call found it dead.
-/

namespace NeuralDevice

/-- Whether the answer to a call says that the endpoint is dead. -/
def Result.isDead {α : Type} : Result α → Bool
  | .ok _ => false
  | .error error => error.isDeadObject

/-- What factories made and how endpoints answered, latest first. -/
structure Chronicle (ε α : Type) where
  made : List (Result ε)
  calls : List (ε × Result α)

namespace Chronicle

variable {ε α : Type}

/-- A factory that makes what is offered and takes note of it. -/
def factory (offer : Result ε) : Factory ε (Chronicle ε α) := fun _ =>
  Action.ofStep fun chronicle => (offer, { chronicle with made := offer :: chronicle.made })

/-- A call that is answered and taken note of. -/
def call (reply : ε → Result α) (endpoint : ε) : Action (Chronicle ε α) α :=
  Action.ofStep fun chronicle =>
    (reply endpoint, { chronicle with calls := (endpoint, reply endpoint) :: chronicle.calls })

def endpoints (chronicle : Chronicle ε α) : List ε := chronicle.made.filterMap Except.toOption

def failures (chronicle : Chronicle ε α) : Nat :=
  chronicle.made.countP fun result => result.toOption.isNone

/-- Whether some call found the endpoint dead. -/
def FoundDead (chronicle : Chronicle ε α) (endpoint : ε) : Prop :=
  ∃ reply, (endpoint, reply) ∈ chronicle.calls ∧ Result.isDead reply = true

/-- The identities of the endpoints that were found dead. -/
def deadIdentities [Identified ε] (chronicle : Chronicle ε α) : List Nat :=
  ((chronicle.calls.filter fun entry => Result.isDead entry.2).map
    fun entry => Identified.identity entry.1).eraseDups

end Chronicle

/-- A step of one caller: what would be made for it, and how each endpoint would answer it. -/
structure Move (ε α : Type) where
  caller : Nat
  offer : Result ε
  reply : ε → Result α

/-- A handle and the protected calls on it, each made by a caller of its own. -/
structure Callers (ε α : Type) where
  held : Held ε (Chronicle ε α)
  stage : Nat → Stage ε α

namespace Callers

variable {ε α : Type} [Identified ε]

/-- One caller takes its next step. -/
def step (blocking : Nat → Bool) (callers : Callers ε α) (move : Move ε α) : Callers ε α :=
  let (stage, held) := Stage.advance (Chronicle.factory move.offer) (blocking move.caller)
    (Chronicle.call move.reply) (callers.stage move.caller, callers.held)
  ⟨held, Function.update callers.stage move.caller stage⟩

/-- All calls are still to be made, on a new handle: one without an endpoint, or one that was bound at once. -/
structure Begins (callers : Callers ε α) : Prop where
  stage : ∀ caller, callers.stage caller = .entering
  held : callers.held = (.unbound, ⟨[], []⟩) ∨
    ∃ offer blocking binding chronicle,
      (Binding.create (Chronicle.factory offer) blocking).apply ⟨[], []⟩ = (.ok binding, chronicle) ∧
        callers.held = (binding, chronicle)

end Callers

/-- What is made is told apart from everything made before. -/
def Move.IsFresh {ε α : Type} [Identified ε] (move : Move ε α) (chronicle : Chronicle ε α) : Prop :=
  ∀ endpoint, move.offer = .ok endpoint →
    ∀ other ∈ chronicle.endpoints, Identified.identity other ≠ Identified.identity endpoint

/-- The endpoint that was bound before and is not bound after. -/
def Binding.lost? {ε : Type} [Identified ε] (before after : Binding ε) : Option ε :=
  before.current?.filter fun endpoint =>
    after.current?.all fun current => Identified.identity current ≠ Identified.identity endpoint

/-- Steps of callers in any order, with the endpoints that the handle lost meanwhile. -/
inductive Run {ε α : Type} [Identified ε] (blocking : Nat → Bool) (start : Callers ε α) :
    List (Move ε α) → List ε → Callers ε α → Prop
  | nil : Run blocking start [] [] start
  | snoc {moves : List (Move ε α)} {lost : List ε} {before : Callers ε α} (move : Move ε α)
    (ran : Run blocking start moves lost before) (fresh : move.IsFresh before.held.2) :
    Run blocking start (moves ++ [move])
      (lost ++ (before.held.1.lost? (before.step blocking move).held.1).toList)
      (before.step blocking move)

/-! What a step does to the handle, for each stage. -/

namespace Stage

variable {ε α : Type} {offer : Result ε} {blocking : Bool} {reply : ε → Result α}
  {binding : Binding ε} {chronicle : Chronicle ε α}

def rebound (offer : Result ε) (chronicle : Chronicle ε α) : Held ε (Chronicle ε α) :=
  (Held.bindingOf offer, { chronicle with made := offer :: chronicle.made })

def answered (endpoint : ε) (reply : Result α) (held : Held ε (Chronicle ε α)) :
    Held ε (Chronicle ε α) :=
  (held.1, { held.2 with calls := (endpoint, reply) :: held.2.calls })

theorem apply_rebind_factory :
    (Held.rebind (Chronicle.factory offer) blocking).apply (binding, chronicle) =
      (offer, rebound offer chronicle) :=
  Held.apply_rebind binding

variable [Identified ε]

private theorem advance_entering_bound (endpoint : ε) :
    advance (Chronicle.factory offer) blocking (Chronicle.call reply)
      (.entering, (.bound endpoint, chronicle)) = (.calling endpoint, (.bound endpoint, chronicle)) :=
  rfl

theorem advance_entering_of_none (free : binding.current? = none) :
    advance (Chronicle.factory offer) blocking (Chronicle.call reply) (.entering, (binding, chronicle)) =
      (afterBinding .calling offer, rebound offer chronicle) := by
  simp only [advance, Held.apply_getOrCreate_of_none free, apply_rebind_factory]

theorem advance_calling (endpoint : ε) (held : Held ε (Chronicle ε α)) :
    advance (Chronicle.factory offer) blocking (Chronicle.call reply) (.calling endpoint, held) =
      (afterCall (fun _ => .recovering endpoint) (reply endpoint),
        answered endpoint (reply endpoint) held) :=
  rfl

theorem advance_recovering_of_other {current failing : ε}
    (other : Identified.identity current ≠ Identified.identity failing) :
    advance (Chronicle.factory offer) blocking (Chronicle.call reply)
      (.recovering failing, (.bound current, chronicle)) =
      (.retrying current, (.bound current, chronicle)) := by
  simp only [advance, Held.apply_recover_of_other other, afterBinding]

theorem advance_recovering_of_same {failing : ε}
    (same : ∀ current, binding = .bound current →
      Identified.identity current = Identified.identity failing) :
    advance (Chronicle.factory offer) blocking (Chronicle.call reply)
      (.recovering failing, (binding, chronicle)) =
      (afterBinding .retrying offer, rebound offer chronicle) := by
  simp only [advance, Held.apply_recover_of_same same, apply_rebind_factory]

theorem advance_retrying (recovered : ε) (held : Held ε (Chronicle ε α)) :
    advance (Chronicle.factory offer) blocking (Chronicle.call reply) (.retrying recovered, held) =
      (afterCall (.marking recovered) (reply recovered), answered recovered (reply recovered) held) :=
  rfl

theorem advance_marking (failing : ε) (error : Error) (held : Held ε (Chronicle ε α)) :
    advance (Chronicle.factory offer) blocking (Chronicle.call reply) (.marking failing error, held) =
      (.finished (.error error), (held.1.markDead failing, held.2)) :=
  rfl

end Stage

/-! Which endpoints are known where. -/

section Soundness

variable {ε α : Type}

/-- The endpoints that a stage holds were made, and those it gives up were found dead. -/
def Stage.IsKnown (chronicle : Chronicle ε α) : Stage ε α → Prop
  | .entering | .finished _ => True
  | .calling endpoint | .retrying endpoint => endpoint ∈ chronicle.endpoints
  | .recovering failing | .marking failing _ => chronicle.FoundDead failing

namespace Stage

variable {offer : Result ε} {chronicle : Chronicle ε α}

theorem isKnown_afterBinding {next : ε → Stage ε α}
    (known : ∀ endpoint, offer = .ok endpoint → (next endpoint).IsKnown chronicle) :
    (afterBinding next offer).IsKnown chronicle := by
  cases offer with
  | ok endpoint => exact known endpoint rfl
  | error error => trivial

theorem isKnown_afterCall {otherwise : Error → Stage ε α} {answer : Result α}
    (known : ∀ error, Result.isDead answer = true → (otherwise error).IsKnown chronicle) :
    (afterCall otherwise answer).IsKnown chronicle := by
  cases answer with
  | ok value => trivial
  | error error =>
    by_cases dead : error.isDeadObject = true
    · simpa [afterCall, dead] using known error dead
    · simp [afterCall, dead, IsKnown]

end Stage

/-- What a step may do to the handle: an endpoint is given up only after some call found it dead. -/
inductive Effect [Identified ε] (offer : Result ε) (before : Held ε (Chronicle ε α)) :
    Held ε (Chronicle ε α) → Prop
  | none : Effect offer before before
  | answered {endpoint : ε} (reply : Result α) (made : endpoint ∈ before.2.endpoints) :
    Effect offer before (Stage.answered endpoint reply before)
  | rebound (dead : ∀ current, before.1 = .bound current → before.2.FoundDead current) :
    Effect offer before (Stage.rebound offer before.2)
  | marked {failing : ε} (dead : before.2.FoundDead failing) :
    Effect offer before (before.1.markDead failing, before.2)

theorem Stage.mem_endpoints_rebound {offer : Result ε} {chronicle : Chronicle ε α} {endpoint : ε} :
    endpoint ∈ (rebound offer chronicle).2.endpoints ↔
      offer = .ok endpoint ∨ endpoint ∈ chronicle.endpoints := by
  cases offer with
  | ok other => simp [rebound, Chronicle.endpoints, Except.toOption, eq_comm]
  | error error => simp [rebound, Chronicle.endpoints, Except.toOption]

theorem Stage.foundDead_answered {held : Held ε (Chronicle ε α)} {called endpoint : ε} {reply : Result α} :
    (answered called reply held).2.FoundDead endpoint ↔
      (endpoint = called ∧ Result.isDead reply = true) ∨ held.2.FoundDead endpoint := by
  simp [answered, Chronicle.FoundDead, or_and_right, exists_or, and_assoc]

variable [Identified ε]

theorem Binding.markDead_eq_bound_iff {binding : Binding ε} {failing endpoint : ε} :
    binding.markDead failing = .bound endpoint ↔
      binding = .bound endpoint ∧ Identified.identity endpoint ≠ Identified.identity failing := by
  cases binding with
  | unbound | dead => simp [markDead]
  | bound current =>
    unfold markDead
    by_cases same : Identified.identity current = Identified.identity failing
    · simp only [same, if_true, reduceCtorEq, false_iff, not_and, bound.injEq]
      rintro rfl
      simp [same]
    · simp only [same, if_false, bound.injEq]
      exact ⟨fun found => ⟨found, found ▸ same⟩, fun found => found.1⟩

/-- Endpoints are told apart, and every one that was made is either bound or was found dead. -/
structure Held.IsSound (held : Held ε (Chronicle ε α)) : Prop where
  distinct : (held.2.endpoints.map Identified.identity).Nodup
  bound : ∀ endpoint, held.1 = .bound endpoint → endpoint ∈ held.2.endpoints
  called : ∀ entry ∈ held.2.calls, entry.1 ∈ held.2.endpoints
  spent : ∀ endpoint ∈ held.2.endpoints, held.1 = .bound endpoint ∨ held.2.FoundDead endpoint

namespace Held.IsSound

variable {held : Held ε (Chronicle ε α)}

private theorem eq_of_identity (sound : IsSound held) {first second : ε} (one : first ∈ held.2.endpoints)
    (two : second ∈ held.2.endpoints) (same : Identified.identity first = Identified.identity second) :
    first = second :=
  List.inj_on_of_nodup_map sound.distinct one two same

theorem mem_of_foundDead (sound : IsSound held) {endpoint : ε} (dead : held.2.FoundDead endpoint) :
    endpoint ∈ held.2.endpoints := by
  obtain ⟨reply, called, -⟩ := dead
  exact sound.called _ called

theorem foundDead_of_identity (sound : IsSound held) {current failing : ε} (bound : held.1 = .bound current)
    (dead : held.2.FoundDead failing) (same : Identified.identity current = Identified.identity failing) :
    held.2.FoundDead current := by
  rw [sound.eq_of_identity (sound.bound current bound) (sound.mem_of_foundDead dead) same]
  exact dead

end Held.IsSound

namespace Effect

variable {offer : Result ε} {before after : Held ε (Chronicle ε α)}

theorem mem_endpoints (effect : Effect offer before after) {endpoint : ε}
    (made : endpoint ∈ before.2.endpoints) : endpoint ∈ after.2.endpoints := by
  cases effect with
  | none => exact made
  | answered => exact made
  | rebound => exact Stage.mem_endpoints_rebound.mpr (.inr made)
  | marked => exact made

theorem foundDead (effect : Effect offer before after) {endpoint : ε}
    (dead : before.2.FoundDead endpoint) : after.2.FoundDead endpoint := by
  cases effect with
  | none => exact dead
  | answered => exact Stage.foundDead_answered.mpr (.inr dead)
  | rebound => exact dead
  | marked => exact dead

private theorem isKnown (effect : Effect offer before after) {stage : Stage ε α} (known : stage.IsKnown before.2) :
    stage.IsKnown after.2 := by
  cases stage with
  | entering => trivial
  | finished => trivial
  | calling => exact effect.mem_endpoints known
  | retrying => exact effect.mem_endpoints known
  | recovering => exact effect.foundDead known
  | marking => exact effect.foundDead known

theorem isSound (effect : Effect offer before after) (sound : Held.IsSound before)
    (fresh : ∀ endpoint, offer = .ok endpoint →
      ∀ other ∈ before.2.endpoints, Identified.identity other ≠ Identified.identity endpoint) :
    Held.IsSound after := by
  cases effect with
  | none => exact sound
  | answered reply made =>
    refine ⟨sound.distinct, sound.bound, List.forall_mem_cons.mpr ⟨made, sound.called⟩, ?_⟩
    intro endpoint listed
    exact (sound.spent endpoint listed).imp_right fun dead => Stage.foundDead_answered.mpr (.inr dead)
  | rebound dead =>
    constructor
    · cases offer with
      | error error => exact sound.distinct
      | ok endpoint =>
        refine List.nodup_cons.mpr ⟨fun listed => ?_, sound.distinct⟩
        obtain ⟨other, made, same⟩ := List.mem_map.mp listed
        exact fresh endpoint rfl other made same
    · intro endpoint bound
      refine Stage.mem_endpoints_rebound.mpr (.inl ?_)
      cases offer with
      | error error => cases bound
      | ok other => cases bound; rfl
    · intro entry called
      exact Stage.mem_endpoints_rebound.mpr (.inr (sound.called entry called))
    · intro endpoint listed
      rcases Stage.mem_endpoints_rebound.mp listed with rfl | made
      · exact .inl rfl
      · exact .inr ((sound.spent endpoint made).elim (dead endpoint) id)
  | @marked failing dead =>
    refine ⟨sound.distinct, fun endpoint bound => ?_, sound.called, fun endpoint made => ?_⟩
    · exact sound.bound endpoint (Binding.markDead_eq_bound_iff.mp bound).1
    · rcases sound.spent endpoint made with bound | spent
      · by_cases same : Identified.identity endpoint = Identified.identity failing
        · exact .inr (sound.foundDead_of_identity bound dead same)
        · exact .inl (Binding.markDead_eq_bound_iff.mpr ⟨bound, same⟩)
      · exact .inr spent

theorem foundDead_of_lost (effect : Effect offer before after) (sound : Held.IsSound before) {endpoint : ε}
    (bound : before.1 = .bound endpoint) (given : after.1 ≠ .bound endpoint) :
    before.2.FoundDead endpoint := by
  cases effect with
  | none => exact absurd bound given
  | answered => exact absurd bound given
  | rebound dead => exact dead endpoint bound
  | @marked failing dead =>
    by_cases same : Identified.identity endpoint = Identified.identity failing
    · exact sound.foundDead_of_identity bound dead same
    · exact absurd (Binding.markDead_eq_bound_iff.mpr ⟨bound, same⟩) given

end Effect

namespace Stage

variable {offer : Result ε} {blocking : Bool} {reply : ε → Result α} {chronicle : Chronicle ε α}

theorem advance_effect (offer : Result ε) (blocking : Bool) (reply : ε → Result α) {stage : Stage ε α}
    {held : Held ε (Chronicle ε α)} (sound : Held.IsSound held) (known : stage.IsKnown held.2) :
    Effect offer held
        (advance (Chronicle.factory offer) blocking (Chronicle.call reply) (stage, held)).2 ∧
      (advance (Chronicle.factory offer) blocking (Chronicle.call reply) (stage, held)).1.IsKnown
        (advance (Chronicle.factory offer) blocking (Chronicle.call reply) (stage, held)).2.2 := by
  rcases held with ⟨binding, chronicle⟩
  cases stage with
  | entering =>
    cases bound : binding.current? with
    | none =>
      rw [advance_entering_of_none bound]
      refine ⟨.rebound fun current found => ?_, isKnown_afterBinding fun endpoint offered => ?_⟩
      · cases found
        cases bound
      · exact mem_endpoints_rebound.mpr (.inl offered)
    | some endpoint =>
      cases binding with
      | unbound | dead => cases bound
      | bound current =>
        rw [advance_entering_bound]
        exact ⟨.none, sound.bound current rfl⟩
  | calling endpoint =>
    rw [advance_calling]
    refine ⟨.answered _ known, isKnown_afterCall fun _ dead => ?_⟩
    exact foundDead_answered.mpr (.inl ⟨rfl, dead⟩)
  | recovering failing =>
    by_cases same : ∀ current, binding = .bound current →
        Identified.identity current = Identified.identity failing
    · rw [advance_recovering_of_same same]
      refine ⟨.rebound fun current bound => ?_, isKnown_afterBinding fun endpoint offered => ?_⟩
      · exact sound.foundDead_of_identity bound known (same current bound)
      · exact mem_endpoints_rebound.mpr (.inl offered)
    · obtain ⟨current, rfl, other⟩ : ∃ current, binding = .bound current ∧
          Identified.identity current ≠ Identified.identity failing := by
        simpa using same
      rw [advance_recovering_of_other other]
      exact ⟨.none, sound.bound current rfl⟩
  | retrying recovered =>
    rw [advance_retrying]
    refine ⟨.answered _ known, isKnown_afterCall fun _ dead => ?_⟩
    exact foundDead_answered.mpr (.inl ⟨rfl, dead⟩)
  | marking failing error =>
    rw [advance_marking]
    exact ⟨.marked known, trivial⟩
  | finished result => exact ⟨.none, trivial⟩

end Stage

namespace Callers

/-- The handle is sound, and the callers know what they deal with. -/
structure IsSound (callers : Callers ε α) : Prop where
  held : Held.IsSound callers.held
  known : ∀ caller, (callers.stage caller).IsKnown callers.held.2

variable (blocking : Nat → Bool) {callers : Callers ε α} (move : Move ε α)

theorem step_effect (sound : callers.IsSound) :
    Effect move.offer callers.held (callers.step blocking move).held :=
  (Stage.advance_effect move.offer _ move.reply sound.held (sound.known move.caller)).1

theorem IsSound.step (sound : callers.IsSound) (fresh : move.IsFresh callers.held.2) :
    (callers.step blocking move).IsSound := by
  have effect := step_effect blocking move sound
  refine ⟨effect.isSound sound.held fresh, fun caller => ?_⟩
  by_cases own : caller = move.caller
  · subst own
    simpa [Callers.step] using (Stage.advance_effect move.offer (blocking move.caller) move.reply sound.held
      (sound.known move.caller)).2
  · have unmoved : (callers.step blocking move).stage caller = callers.stage caller :=
      Function.update_of_ne own _ _
    rw [unmoved]
    exact effect.isKnown (sound.known caller)

theorem Begins.isSound (begins : callers.Begins) : callers.IsSound := by
  have held : Held.IsSound callers.held := by
    rcases begins.held with new | ⟨offer, wait, binding, chronicle, created, new⟩
    · rw [new]
      exact ⟨List.nodup_nil, nofun, nofun, nofun⟩
    · rw [new]
      cases offer with
      | error error => cases created
      | ok endpoint =>
        cases created
        refine ⟨List.nodup_singleton _, fun other bound => ?_, nofun, fun other made => .inl ?_⟩
        · cases bound
          exact List.mem_singleton_self _
        · rw [List.mem_singleton.mp made]
  refine ⟨held, fun caller => ?_⟩
  rw [begins.stage caller]
  trivial

end Callers

end Soundness

end NeuralDevice
