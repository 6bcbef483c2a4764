import Mathlib.Data.List.Perm.Subperm
import NeuralDevice.Proofs.Recovery.Concurrency

/-!
How often endpoints are replaced. The handle loses an endpoint only after some call found it dead, and never the
same one twice, so there are no more endpoints than deaths and one. Callers that fail together against one
endpoint share its replacement.
-/

namespace NeuralDevice

variable {ε α : Type} [Identified ε]

/-! Lost endpoints. -/

theorem Binding.lost?_eq_some_iff {before after : Binding ε} {endpoint : ε} :
    before.lost? after = some endpoint ↔ before = .bound endpoint ∧
      ∀ current, after = .bound current → Identified.identity current ≠ Identified.identity endpoint := by
  have held : before.current? = some endpoint ↔ before = .bound endpoint := by
    cases before <;> simp [current?]
  have other : (after.current?.all fun current =>
        decide (Identified.identity current ≠ Identified.identity endpoint)) = true ↔
      ∀ current, after = .bound current → Identified.identity current ≠ Identified.identity endpoint := by
    cases after <;> simp [current?]
  rw [lost?, Option.filter_eq_some_iff, held, other]

/-- What is known of the endpoints that the handle lost. -/
structure Callers.Remembers (callers : Callers ε α) (lost : List ε) : Prop where
  distinct : (lost.map Identified.identity).Nodup
  dead : ∀ endpoint ∈ lost, callers.held.2.FoundDead endpoint
  gone : ∀ endpoint ∈ lost, ∀ current, callers.held.1 = .bound current →
    Identified.identity current ≠ Identified.identity endpoint

/-- An endpoint that is not bound is never bound again. -/
theorem Effect.gone {offer : Result ε} {before after : Held ε (Chronicle ε α)}
    (effect : Effect offer before after)
    (fresh : ∀ made, offer = .ok made →
      ∀ other ∈ before.2.endpoints, Identified.identity other ≠ Identified.identity made)
    {endpoint : ε} (made : endpoint ∈ before.2.endpoints)
    (gone : ∀ current, before.1 = .bound current →
      Identified.identity current ≠ Identified.identity endpoint) :
    ∀ current, after.1 = .bound current →
      Identified.identity current ≠ Identified.identity endpoint := by
  intro current bound
  cases effect with
  | none => exact gone current bound
  | answered => exact gone current bound
  | rebound =>
    cases offer with
    | error error => cases bound
    | ok other =>
      cases bound
      exact (fresh current rfl endpoint made).symm
  | marked => exact gone current (Binding.markDead_eq_bound_iff.mp bound).1

namespace Callers

variable {blocking : Nat → Bool} {callers : Callers ε α} {move : Move ε α} {lost : List ε}

theorem Remembers.step (remembered : callers.Remembers lost) (sound : callers.IsSound)
    (fresh : move.IsFresh callers.held.2) :
    (callers.step blocking move).Remembers
      (lost ++ (callers.held.1.lost? (callers.step blocking move).held.1).toList) := by
  have effect := step_effect blocking move sound
  have old : ∀ endpoint ∈ lost, ∀ current, (callers.step blocking move).held.1 = .bound current →
      Identified.identity current ≠ Identified.identity endpoint := fun endpoint member =>
    effect.gone fresh (sound.held.mem_of_foundDead (remembered.dead endpoint member))
      (remembered.gone endpoint member)
  cases given : callers.held.1.lost? (callers.step blocking move).held.1 with
  | none =>
    rw [Option.toList_none, List.append_nil]
    exact ⟨remembered.distinct, fun endpoint member => effect.foundDead (remembered.dead endpoint member), old⟩
  | some endpoint =>
    obtain ⟨bound, unbound⟩ := Binding.lost?_eq_some_iff.mp given
    have dead : callers.held.2.FoundDead endpoint :=
      effect.foundDead_of_lost sound.held bound fun still => unbound endpoint still rfl
    have new : ∀ other ∈ lost, Identified.identity other ≠ Identified.identity endpoint :=
      fun other member => (remembered.gone other member endpoint bound).symm
    rw [Option.toList_some]
    refine ⟨?_, List.forall_mem_append.mpr ⟨?_, ?_⟩, List.forall_mem_append.mpr ⟨old, ?_⟩⟩
    · rw [List.map_append, List.nodup_append]
      refine ⟨remembered.distinct, List.nodup_singleton _, fun identity listed other own => ?_⟩
      obtain ⟨first, member, rfl⟩ := List.mem_map.mp listed
      rw [List.map_singleton, List.mem_singleton] at own
      exact own ▸ new first member
    · exact fun other member => effect.foundDead (remembered.dead other member)
    · simpa using effect.foundDead dead
    · simpa using unbound

end Callers

theorem Run.invariant {blocking : Nat → Bool} {start after : Callers ε α} {moves : List (Move ε α)}
    {lost : List ε} (ran : Run blocking start moves lost after) (sound : start.IsSound) :
    after.IsSound ∧ after.Remembers lost := by
  induction ran with
  | nil => exact ⟨sound, List.nodup_nil, nofun, nofun⟩
  | snoc move ran fresh ih => exact ⟨ih.1.step _ move fresh, ih.2.step ih.1 fresh⟩

/-! Counting. -/

namespace Chronicle

omit [Identified ε] in
private theorem length_made (chronicle : Chronicle ε α) :
    chronicle.made.length = chronicle.endpoints.length + chronicle.failures := by
  unfold endpoints failures
  induction chronicle.made with
  | nil => rfl
  | cons result rest ih =>
    cases result with
    | ok endpoint =>
      have made : Except.toOption (.ok endpoint : Result ε) = some endpoint := rfl
      simp only [List.filterMap_cons_some made, List.length_cons, List.countP_cons, made, Option.isNone_some,
        Bool.false_eq_true, if_false, ih]
      omega
    | error error =>
      have missed : Except.toOption (.error error : Result ε) = none := rfl
      simp only [List.filterMap_cons_none missed, List.length_cons, List.countP_cons, missed,
        Option.isNone_none, if_true, ih]
      omega

private theorem mem_deadIdentities {chronicle : Chronicle ε α} {endpoint : ε} (dead : chronicle.FoundDead endpoint) :
    Identified.identity endpoint ∈ chronicle.deadIdentities := by
  obtain ⟨reply, called, isDead⟩ := dead
  refine List.mem_eraseDups.mpr (List.mem_map.mpr ⟨(endpoint, reply), ?_, rfl⟩)
  exact List.mem_filter.mpr ⟨called, isDead⟩

end Chronicle

private theorem Held.IsSound.length_endpoints_le {held : Held ε (Chronicle ε α)} (sound : IsSound held) :
    held.2.endpoints.length ≤ 1 + held.2.deadIdentities.length := by
  have covered : held.2.endpoints.map Identified.identity ⊆
      held.1.current?.toList.map Identified.identity ++ held.2.deadIdentities := by
    intro identity listed
    obtain ⟨endpoint, made, rfl⟩ := List.mem_map.mp listed
    rcases sound.spent endpoint made with bound | dead
    · refine List.mem_append_left _ (List.mem_map_of_mem ?_)
      rw [bound]
      exact List.mem_singleton_self _
    · exact List.mem_append_right _ (Chronicle.mem_deadIdentities dead)
  have counted := (List.Nodup.subperm sound.distinct covered).length_le
  have one : held.1.current?.toList.length ≤ 1 := by
    cases held.1.current? <;> simp
  simp only [List.length_map, List.length_append] at counted
  omega

/-! Progress. -/

/-- How many steps of a protected call are done at least. -/
def Stage.rank : Stage ε α → Nat
  | .entering => 0
  | .calling _ => 1
  | .recovering _ => 2
  | .retrying _ => 3
  | .marking _ _ => 4
  | .finished _ => 5

namespace Stage

variable {least : Nat}

omit [Identified ε] in
private theorem exists_of_rank {stage : Stage ε α} (last : 5 ≤ stage.rank) : ∃ result, stage = .finished result := by
  cases stage with
  | finished result => exact ⟨result, rfl⟩
  | entering | calling | recovering | retrying | marking => exact absurd last (by simp [rank])

omit [Identified ε] in
theorem rank_afterBinding {next : ε → Stage ε α} (small : least ≤ 5)
    (each : ∀ endpoint, least ≤ (next endpoint).rank) (offer : Result ε) :
    least ≤ (afterBinding next offer).rank := by
  cases offer with
  | ok endpoint => exact each endpoint
  | error error => exact small

omit [Identified ε] in
theorem rank_afterCall {otherwise : Error → Stage ε α} (small : least ≤ 5)
    (each : ∀ error, least ≤ (otherwise error).rank) (reply : Result α) :
    least ≤ (afterCall otherwise reply).rank := by
  cases reply with
  | ok value => exact small
  | error error =>
    by_cases dead : error.isDeadObject = true
    · simpa [afterCall, dead] using each error
    · simpa [afterCall, dead, rank] using small

private theorem rank_advance (factory : Factory ε (Chronicle ε α)) (blocking : Bool)
    (call : ε → Action (Chronicle ε α) α) (stage : Stage ε α) (held : Held ε (Chronicle ε α)) :
    min 5 (stage.rank + 1) ≤ (advance factory blocking call (stage, held)).1.rank := by
  have small := Nat.min_le_left 5 (stage.rank + 1)
  cases stage with
  | entering =>
    exact rank_afterBinding small (fun endpoint => show _ ≤ (calling endpoint).rank from by simp [rank]) _
  | calling endpoint =>
    exact rank_afterCall small (fun _ => show _ ≤ (recovering endpoint).rank from by simp [rank]) _
  | recovering failing =>
    exact rank_afterBinding small (fun endpoint => show _ ≤ (retrying endpoint).rank from by simp [rank]) _
  | retrying recovered =>
    exact rank_afterCall small (fun error => show _ ≤ (marking recovered error).rank from by simp [rank]) _
  | marking failing error => exact small
  | finished result => exact small

end Stage

private theorem Run.rank_le {blocking : Nat → Bool} {start after : Callers ε α} {moves : List (Move ε α)}
    {lost : List ε} (ran : Run blocking start moves lost after) (caller : Nat) :
    min 5 (moves.countP fun move => move.caller = caller) ≤ (after.stage caller).rank := by
  induction ran with
  | nil => exact Nat.zero_le _
  | @snoc moves lost before move ran fresh ih =>
    rw [List.countP_append, List.countP_singleton]
    by_cases own : move.caller = caller
    · have advanced := Stage.rank_advance (Chronicle.factory move.offer) (blocking move.caller)
        (Chronicle.call move.reply) (before.stage move.caller) before.held
      have stepped : (before.step blocking move).stage caller =
          (Stage.advance (Chronicle.factory move.offer) (blocking move.caller) (Chronicle.call move.reply)
            (before.stage move.caller, before.held)).1 := by
        subst own
        exact Function.update_self _ _ _
      rw [stepped]
      subst own
      simp only [decide_true, if_true]
      omega
    · have unmoved : (before.step blocking move).stage caller = before.stage caller :=
        Function.update_of_ne (Ne.symm own) _ _
      rw [unmoved]
      simpa [own] using ih

/-! One death, one replacement. -/

/-- The endpoint `dying` is dead, a new one is to be had, and new ones answer. -/
structure Move.Follows (known : List ε) (dying : ε) (answer : Nat → ε → Result α) (move : Move ε α) :
    Prop where
  makes : ∃ replacement, move.offer = .ok replacement
  dead : Result.isDead (move.reply dying) = true
  works : ∀ endpoint, endpoint ∉ known → move.reply endpoint = answer move.caller endpoint

/-- The handle, before and after one call of the factory replaced the endpoint `dying`. -/
inductive Held.Replaces (base : Chronicle ε α) (dying : ε) : Option ε → Held ε (Chronicle ε α) → Prop
  | failing {binding : Binding ε} {chronicle : Chronicle ε α} (made : chronicle.made = base.made)
    (bound : ∀ current, binding = .bound current → current = dying) :
    Replaces base dying none (binding, chronicle)
  | replaced {replacement : ε} {chronicle : Chronicle ε α}
    (made : chronicle.made = .ok replacement :: base.made) (alive : ¬ chronicle.FoundDead replacement) :
    Replaces base dying (some replacement) (.bound replacement, chronicle)

/-- A caller on its way from `dying` to the answer of the replacement. -/
def Stage.IsServed (dying : ε) (answer : ε → Result α) (replacement : Option ε) : Stage ε α → Prop
  | .entering => True
  | .calling endpoint => endpoint = dying ∨ replacement = some endpoint
  | .recovering failing => failing = dying
  | .retrying recovered => replacement = some recovered
  | .marking _ _ => False
  | .finished result => ∃ endpoint, replacement = some endpoint ∧ result = answer endpoint

omit [Identified ε] in
private theorem Stage.IsServed.mono {dying : ε} {answer : ε → Result α} {before after : Option ε} {stage : Stage ε α}
    (served : stage.IsServed dying answer before)
    (kept : ∀ endpoint, before = some endpoint → after = some endpoint) :
    stage.IsServed dying answer after := by
  cases stage with
  | entering => trivial
  | calling endpoint => exact served.imp_right (kept endpoint)
  | recovering => exact served
  | retrying recovered => exact kept recovered served
  | marking => exact served.elim
  | finished result =>
    obtain ⟨endpoint, found, answered⟩ := served
    exact ⟨endpoint, kept endpoint found, answered⟩

omit [Identified ε] in
theorem Stage.afterCall_of_isDead (otherwise : Error → Stage ε α) {answer : Result α}
    (dead : Result.isDead answer = true) : ∃ error, afterCall otherwise answer = otherwise error := by
  cases answer with
  | ok value => cases dead
  | error error => exact ⟨error, if_pos dead⟩

omit [Identified ε] in
theorem Stage.afterCall_of_alive {otherwise : Error → Stage ε α} {answer : Result α}
    (alive : Result.isDead answer = false) : afterCall otherwise answer = .finished answer := by
  cases answer with
  | ok value => rfl
  | error error => exact if_neg (by simpa [Result.isDead] using alive)

section Replacement

variable {base : Chronicle ε α} {dying : ε} {answer : Nat → ε → Result α} {move : Move ε α}
  {binding : Binding ε} {chronicle : Chronicle ε α} {replacement : ε} {stage : Stage ε α}

private theorem Chronicle.not_mem_of_made (distinct : (chronicle.endpoints.map Identified.identity).Nodup)
    (made : chronicle.made = .ok replacement :: base.made) : replacement ∉ base.endpoints := by
  have listed : chronicle.endpoints = replacement :: base.endpoints := by
    rw [endpoints, made]
    rfl
  rw [listed, List.map_cons, List.nodup_cons] at distinct
  exact fun old => distinct.1 (List.mem_map_of_mem old)

/-- What a step does for a caller that is served, while the handle gets from one endpoint to the next. -/
structure Stage.Serves (base : Chronicle ε α) (dying : ε) (answer : ε → Result α) (before : Option ε)
    (stage : Stage ε α) (after : Option ε) (point : Stage ε α × Held ε (Chronicle ε α)) : Prop where
  kept : ∀ endpoint, before = some endpoint → after = some endpoint
  replaces : Held.Replaces base dying after point.2
  served : stage.IsServed dying answer before → point.1.IsServed dying answer after

theorem Held.Replaces.rebound (made : chronicle.made = base.made) (sound : Held.IsSound (binding, chronicle))
    (fresh : ∀ other ∈ chronicle.endpoints, Identified.identity other ≠ Identified.identity replacement) :
    Held.Replaces base dying (some replacement) (Stage.rebound (.ok replacement) chronicle) := by
  refine .replaced ?_ fun dead => ?_
  · rw [made]
  · exact fresh replacement (sound.mem_of_foundDead dead) rfl

private theorem Stage.serves_of_failing (made : chronicle.made = base.made)
    (bound : ∀ current, binding = .bound current → current = dying)
    (sound : Held.IsSound (binding, chronicle)) (fresh : move.IsFresh chronicle)
    (follows : move.Follows base.endpoints dying answer) (blocking : Bool) (stage : Stage ε α) :
    ∃ after, stage.Serves base dying (answer move.caller) none after
      (advance (Chronicle.factory move.offer) blocking (Chronicle.call move.reply)
        (stage, (binding, chronicle))) := by
  obtain ⟨replacement, offered⟩ := follows.makes
  have replaced : Held.Replaces base dying (some replacement) (rebound (.ok replacement) chronicle) :=
    .rebound made sound (fresh replacement offered)
  cases stage with
  | entering =>
    cases held : binding.current? with
    | none =>
      rw [advance_entering_of_none held, offered]
      exact ⟨some replacement, nofun, replaced, fun _ => .inr rfl⟩
    | some endpoint =>
      cases binding with
      | unbound | dead => cases held
      | bound current => exact ⟨none, nofun, .failing made bound, fun _ => .inl (bound current rfl)⟩
  | calling endpoint =>
    refine ⟨none, nofun, .failing made bound, fun served => ?_⟩
    obtain rfl : endpoint = dying := served.resolve_right nofun
    obtain ⟨error, found⟩ := afterCall_of_isDead (fun _ => .recovering endpoint) follows.dead
    rw [advance_calling, found]
    rfl
  | recovering failing =>
    by_cases same : ∀ current, binding = .bound current →
        Identified.identity current = Identified.identity failing
    · rw [advance_recovering_of_same same, offered]
      exact ⟨some replacement, nofun, replaced, fun _ => rfl⟩
    · obtain ⟨current, rfl, other⟩ : ∃ current, binding = .bound current ∧
          Identified.identity current ≠ Identified.identity failing := by
        simpa using same
      rw [advance_recovering_of_other other]
      refine ⟨none, nofun, .failing made bound, fun served => absurd ?_ other⟩
      rw [bound current rfl, show failing = dying from served]
  | retrying recovered => exact ⟨none, nofun, .failing made bound, nofun⟩
  | marking failing error =>
    refine ⟨none, nofun, .failing made fun current still => ?_, nofun⟩
    exact bound current (Binding.markDead_eq_bound_iff.mp still).1
  | finished result => exact ⟨none, nofun, .failing made bound, id⟩

private theorem Stage.serves_of_replaced (made : chronicle.made = .ok replacement :: base.made)
    (alive : ¬ chronicle.FoundDead replacement) (sound : Held.IsSound (.bound replacement, chronicle))
    (known : stage.IsKnown chronicle) (follows : move.Follows base.endpoints dying answer)
    (answers : ∀ caller endpoint, Result.isDead (answer caller endpoint) = false) (blocking : Bool) :
    stage.Serves base dying (answer move.caller) (some replacement) (some replacement)
      (advance (Chronicle.factory move.offer) blocking (Chronicle.call move.reply)
        (stage, (.bound replacement, chronicle))) := by
  have replied : move.reply replacement = answer move.caller replacement :=
    follows.works replacement (Chronicle.not_mem_of_made sound.distinct made)
  have living : Result.isDead (move.reply replacement) = false := replied ▸ answers _ _
  have called (endpoint : ε) : Held.Replaces base dying (some replacement)
      (answered endpoint (move.reply endpoint) (.bound replacement, chronicle)) := by
    refine .replaced made fun dead => ?_
    rcases foundDead_answered.mp dead with ⟨rfl, found⟩ | found
    · exact absurd (living.symm.trans found) nofun
    · exact alive found
  have other {failing : ε} (dead : chronicle.FoundDead failing) :
      Identified.identity replacement ≠ Identified.identity failing := fun same =>
    alive (sound.foundDead_of_identity rfl dead same)
  cases stage with
  | entering => exact ⟨fun _ => id, .replaced made alive, fun _ => .inr rfl⟩
  | calling endpoint =>
    rw [advance_calling]
    refine ⟨fun _ => id, called endpoint, fun served => ?_⟩
    rcases served with rfl | found
    · obtain ⟨error, found⟩ := afterCall_of_isDead (fun _ => .recovering endpoint) follows.dead
      rw [found]
      rfl
    · cases found
      rw [afterCall_of_alive living]
      exact ⟨replacement, rfl, replied⟩
  | recovering failing =>
    rw [advance_recovering_of_other (other known)]
    exact ⟨fun _ => id, .replaced made alive, fun _ => rfl⟩
  | retrying recovered =>
    rw [advance_retrying]
    refine ⟨fun _ => id, called recovered, fun served => ?_⟩
    cases served
    rw [afterCall_of_alive living]
    exact ⟨replacement, rfl, replied⟩
  | marking failing error =>
    rw [advance_marking, Binding.markDead_eq_bound_iff.mpr ⟨rfl, other known⟩]
    exact ⟨fun _ => id, .replaced made alive, nofun⟩
  | finished result => exact ⟨fun _ => id, .replaced made alive, id⟩

private theorem Callers.step_serves {callers : Callers ε α} {before : Option ε} (blocking : Nat → Bool)
    (sound : callers.IsSound) (replaces : Held.Replaces base dying before callers.held)
    (fresh : move.IsFresh callers.held.2) (follows : move.Follows base.endpoints dying answer)
    (answers : ∀ caller endpoint, Result.isDead (answer caller endpoint) = false) :
    ∃ after, Held.Replaces base dying after (callers.step blocking move).held ∧
      ∀ caller, (callers.stage caller).IsServed dying (answer caller) before →
        ((callers.step blocking move).stage caller).IsServed dying (answer caller) after := by
  obtain ⟨after, serves⟩ : ∃ after, (callers.stage move.caller).Serves base dying (answer move.caller) before
      after (Stage.advance (Chronicle.factory move.offer) (blocking move.caller) (Chronicle.call move.reply)
        (callers.stage move.caller, callers.held)) := by
    rcases callers with ⟨held, stage⟩
    cases replaces with
    | failing made bound =>
      exact Stage.serves_of_failing made bound sound.held fresh follows _ _
    | replaced made alive =>
      exact ⟨_, Stage.serves_of_replaced made alive sound.held (sound.known move.caller) follows answers _⟩
  refine ⟨after, serves.replaces, fun caller served => ?_⟩
  by_cases own : caller = move.caller
  · subst own
    simpa [step] using serves.served served
  · have unmoved : (callers.step blocking move).stage caller = callers.stage caller :=
      Function.update_of_ne own _ _
    rw [unmoved]
    exact served.mono serves.kept

/-- Callers that run into one dead endpoint are all led to the one replacement. -/
theorem Run.serves {blocking : Nat → Bool} {before after : Callers ε α} {moves : List (Move ε α)}
    {lost : List ε} (ran : Run blocking before moves lost after) (sound : before.IsSound)
    (bound : before.held.1 = .bound dying)
    (follows : ∀ move ∈ moves, move.Follows before.held.2.endpoints dying answer)
    (answers : ∀ caller endpoint, Result.isDead (answer caller endpoint) = false) :
    ∃ replacement, Held.Replaces before.held.2 dying replacement after.held ∧
      ∀ caller, (before.stage caller).IsServed dying (answer caller) none →
        (after.stage caller).IsServed dying (answer caller) replacement := by
  induction ran with
  | nil =>
    refine ⟨none, .failing rfl fun current held => ?_, fun _ => id⟩
    rw [bound] at held
    cases held
    rfl
  | @snoc moves lost middle move ran fresh ih =>
    obtain ⟨replacement, replaces, served⟩ :=
      ih fun earlier member => follows earlier (List.mem_append_left _ member)
    obtain ⟨after, later, still⟩ := Callers.step_serves blocking (ran.invariant sound).1 replaces fresh
      (follows move (List.mem_append_right _ (List.mem_singleton_self move))) answers
    exact ⟨after, later, fun caller own => still caller (served caller own)⟩

omit [Identified ε] in
private theorem Held.Replaces.made_eq {held : Held ε (Chronicle ε α)} {replacement : Option ε}
    (replaces : Held.Replaces base dying replacement held) :
    held.2.made = replacement.toList.map Except.ok ++ base.made := by
  cases replaces with
  | failing made => exact made
  | replaced made => exact made

end Replacement

/-- However the steps of protected calls interleave: a step takes the bound endpoint away only after a call
found it dead; no endpoint is lost twice; the factory is asked once, once more for every endpoint found dead and
once more for every time it failed. Callers of one dead endpoint share one replacement and its answers. -/
theorem reconnects_follow_deaths {blocking : Nat → Bool} {start after : Callers ε α} {moves : List (Move ε α)}
    {lost : List ε} (begins : start.Begins) (ran : Run blocking start moves lost after) :
    (∀ (move : Move ε α) (endpoint : ε),
        after.held.1.lost? (after.step blocking move).held.1 = some endpoint →
          after.held.2.FoundDead endpoint) ∧
      (lost.map Identified.identity).Nodup ∧
      after.held.2.made.length ≤ 1 + after.held.2.deadIdentities.length + after.held.2.failures ∧
      ∀ (dying : ε) (answer : Nat → ε → Result α) (more : List (Move ε α)) (gone : List ε)
        (final : Callers ε α),
        after.held.1 = .bound dying →
        Run blocking after more gone final →
        (∀ move ∈ more, move.Follows after.held.2.endpoints dying answer) →
        (∀ caller endpoint, Result.isDead (answer caller endpoint) = false) →
        ∃ replacement : Option ε,
          final.held.2.made = replacement.toList.map Except.ok ++ after.held.2.made ∧
            ∀ caller, after.stage caller = .entering ∨ after.stage caller = .calling dying →
              (∀ result, final.stage caller = .finished result →
                ∃ endpoint, replacement = some endpoint ∧ result = answer caller endpoint) ∧
              (5 ≤ more.countP (fun move => move.caller = caller) →
                ∃ result, final.stage caller = .finished result) := by
  obtain ⟨sound, remembered⟩ := ran.invariant begins.isSound
  refine ⟨fun move endpoint given => ?_, remembered.distinct, ?_, ?_⟩
  · obtain ⟨bound, unbound⟩ := Binding.lost?_eq_some_iff.mp given
    exact (Callers.step_effect blocking move sound).foundDead_of_lost sound.held bound
      fun still => unbound endpoint still rfl
  · have counted := after.held.2.length_made
    have known := sound.held.length_endpoints_le
    omega
  · intro dying answer more gone final bound later follows answers
    obtain ⟨replacement, replaces, served⟩ := later.serves sound bound follows answers
    refine ⟨replacement, replaces.made_eq, fun caller stands => ⟨fun result finished => ?_, fun steps => ?_⟩⟩
    · have own : (after.stage caller).IsServed dying (answer caller) none := by
        rcases stands with entering | calling
        · rw [entering]
          trivial
        · rw [calling]
          exact .inl rfl
      have led := served caller own
      rw [finished] at led
      exact led
    · have done : 5 ≤ min 5 (more.countP fun move => move.caller = caller) :=
        Nat.le_min.mpr ⟨Nat.le_refl 5, steps⟩
      exact Stage.exists_of_rank (Nat.le_trans done (later.rank_le caller))

theorem Move.IsFresh.of_offer {move : Move ε α} {endpoint : ε} {chronicle : Chronicle ε α}
    (offered : move.offer = .ok endpoint)
    (fresh : Identified.identity endpoint ∉ chronicle.endpoints.map Identified.identity) :
    move.IsFresh chronicle := by
  intro made own other listed same
  cases offered.symm.trans own
  exact fresh (same ▸ List.mem_map_of_mem listed)

/-- A step of a caller whom only the first endpoint fails. -/
def Move.afterFirst (caller offered : Nat) : Move Nat Nat :=
  ⟨caller, .ok offered, fun endpoint => if endpoint = 1 then .error (.deadObject "") else .ok endpoint⟩

private theorem Move.follows_afterFirst {known : List Nat} (first : 1 ∈ known) (caller offered : Nat) :
    (Move.afterFirst caller offered).Follows known 1 fun _ endpoint => .ok endpoint := by
  refine ⟨⟨offered, rfl⟩, rfl, fun endpoint new => if_neg ?_⟩
  rintro rfl
  exact new first

/-- Two callers find the first endpoint dead. The first to recover replaces it for both. -/
theorem two_callers_share_a_replacement :
    ∃ (lost gone : List Nat) (start after final : Callers Nat Nat),
      start.Begins ∧
        Run (fun _ => true) start [.afterFirst 0 1, .afterFirst 1 2] lost after ∧
        Run (fun _ => true) after
          [.afterFirst 0 2, .afterFirst 1 2, .afterFirst 0 2, .afterFirst 1 3, .afterFirst 0 3, .afterFirst 1 3]
          gone final ∧
        ∃ replacement, final.held.2.made = [.ok replacement, .ok 1] ∧
          final.stage 0 = .finished (.ok replacement) ∧ final.stage 1 = .finished (.ok replacement) := by
  let both (stage : Stage Nat Nat) (callers : Callers Nat Nat) :=
    Function.update (Function.update callers.stage 0 stage) 1 stage
  let death : Nat × Result Nat := (1, .error (.deadObject ""))
  let answer : Nat × Result Nat := (2, .ok 2)
  let start : Callers Nat Nat := ⟨(.unbound, ⟨[], []⟩), fun _ => .entering⟩
  let after : Callers Nat Nat := ⟨(.bound 1, ⟨[.ok 1], []⟩), both (.calling 1) start⟩
  let failed : Callers Nat Nat := ⟨(.bound 1, ⟨[.ok 1], [death, death]⟩), both (.recovering 1) after⟩
  let rebound : Callers Nat Nat := ⟨(.bound 2, ⟨[.ok 2, .ok 1], [death, death]⟩), both (.retrying 2) failed⟩
  let final : Callers Nat Nat :=
    ⟨(.bound 2, ⟨[.ok 2, .ok 1], [answer, answer, death, death]⟩), both (.finished (.ok 2)) rebound⟩
  have begins : start.Begins := ⟨fun _ => rfl, .inl rfl⟩
  have begun : Run (fun _ => true) start [] [] start := .nil
  have entered : Run (fun _ => true) start _ _ after :=
    (begun.snoc (.afterFirst 0 1) (.of_offer rfl (by decide))).snoc (.afterFirst 1 2)
      (.of_offer rfl (by decide))
  have still : Run (fun _ => true) after [] [] after := .nil
  have called : Run (fun _ => true) after _ _ failed :=
    (still.snoc (.afterFirst 0 2) (.of_offer rfl (by decide))).snoc (.afterFirst 1 2)
      (.of_offer rfl (by decide))
  have recovered : Run (fun _ => true) after _ _ rebound :=
    (called.snoc (.afterFirst 0 2) (.of_offer rfl (by decide))).snoc (.afterFirst 1 3)
      (.of_offer rfl (by decide))
  have finished : Run (fun _ => true) after _ _ final :=
    (recovered.snoc (.afterFirst 0 3) (.of_offer rfl (by decide))).snoc (.afterFirst 1 3)
      (.of_offer rfl (by decide))
  have follows : ∀ caller offered, (Move.afterFirst caller offered).Follows after.held.2.endpoints 1
      fun _ endpoint => .ok endpoint := Move.follows_afterFirst (by decide)
  obtain ⟨-, -, -, shared⟩ := reconnects_follow_deaths begins entered
  obtain ⟨replacement, made, answers⟩ := shared 1 (fun _ endpoint => .ok endpoint) _ _ final rfl finished
    (by simp only [List.nil_append, List.forall_mem_append, List.forall_mem_singleton, follows, and_self])
    fun _ _ => rfl
  have first : final.stage 0 = .finished (.ok 2) := rfl
  have second : final.stage 1 = .finished (.ok 2) := rfl
  obtain ⟨endpoint, rfl, same⟩ := (answers 0 (.inr rfl)).1 _ first
  cases same
  exact ⟨_, _, start, after, final, begins, entered, finished, 2, made, first, second⟩

end NeuralDevice
