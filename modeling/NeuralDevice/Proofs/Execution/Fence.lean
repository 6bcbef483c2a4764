import NeuralDevice.Proofs.Execution.FenceHistory

/-!
Fences in use. A handle is made by creating a fence or by copying another handle, and each creation has a fence of its
own. The first event that fires a fence decides what is read from then on through every handle that comes from its
creation, and through no other.
-/

namespace NeuralDevice

namespace FenceTable

variable {table : FenceTable} {fence other : Fence}

private theorem state_create_new (table : FenceTable) (state : FenceState) :
    (table.create state).2.state (table.create state).1 = state := by
  simp [create, FenceTable.state]

private theorem state_create_old (known : fence.number < table.states.length) (state : FenceState) :
    (table.create state).2.state fence = table.state fence := by
  simp [create, FenceTable.state, List.getElem?_append_left known]

@[simp] theorem length_fire (table : FenceTable) (fence : Fence) (next : FenceState) :
    (table.fire fence next).states.length = table.states.length := by
  unfold fire
  split
  · exact List.length_set
  · rfl

private theorem state_fire_same (known : fence.number < table.states.length) (next : FenceState) :
    (table.fire fence next).state fence = if table.state fence = .active then next else table.state fence := by
  unfold fire
  split
  · simp [FenceTable.state, known]
  · rfl

private theorem state_fire_other (apart : other ≠ fence) (next : FenceState) :
    (table.fire fence next).state other = table.state other := by
  have numbers : fence.number ≠ other.number := fun same => apart (by cases fence; cases other; simp_all)
  unfold fire
  split
  · simp [FenceTable.state, List.getElem?_set_ne numbers]
  · rfl

end FenceTable

/-- All fences, the handles that were made, and the states that were read through them. -/
structure FenceUse where
  table : FenceTable
  handles : List Fence
  seen : List FenceState

namespace FenceUse

def empty : FenceUse := ⟨.empty, [], []⟩

/-- What happens at an event. A handle that was not made yet can be used for nothing. -/
def step (use : FenceUse) (event : FenceEvent) : FenceUse :=
  match event with
  | .create state =>
    let (fence, table) := use.table.create state
    { use with table, handles := use.handles ++ [fence] }
  | .copy handle => { use with handles := use.handles ++ use.handles[handle]?.toList }
  | .signal handle => { use with table := use.handles[handle]?.elim use.table use.table.signal }
  | .signalError handle => { use with table := use.handles[handle]?.elim use.table use.table.signalError }
  | .read handle => { use with seen := use.seen ++ (use.handles[handle]?.map use.table.state).toList }
  | .wait handle timeout =>
    { use with seen := use.seen ++ (use.handles[handle]?.bind (use.table.wait · (some timeout) |>.value?)).toList }

def run (events : FenceHistory) : FenceUse := events.foldl step empty

/-- What is read through a handle. -/
def state? (use : FenceUse) (handle : Nat) : Option FenceState := use.handles[handle]?.map use.table.state

variable {use : FenceUse} {event : FenceEvent} {fence : Fence} {handle : Nat}

theorem run_concat (events : FenceHistory) (event : FenceEvent) :
    run (events ++ [event]) = (run events).step event := by
  rw [run, List.foldl_append]
  rfl

private theorem handles_prefix_step (use : FenceUse) (event : FenceEvent) :
    use.handles <+: (use.step event).handles := by
  cases event with
  | create state => exact List.prefix_append _ _
  | copy handle => exact List.prefix_append _ _
  | _ => exact List.prefix_refl _

theorem table_step_of_fires {next : FenceState} (use : FenceUse) (fires : event.fires? = some (handle, next)) :
    (use.step event).table = use.handles[handle]?.elim use.table (use.table.fire · next) := by
  cases event <;> cases fires <;> rfl

/-- Firing changes an active fence to what it asks for. -/
theorem state_step_of_fires {next : FenceState} (known : fence.number < use.table.states.length)
    (fires : event.fires? = some (handle, next)) (held : use.handles[handle]? = some fence) :
    (use.step event).table.state fence =
      if use.table.state fence = .active then next else use.table.state fence := by
  rw [table_step_of_fires use fires, held]
  exact FenceTable.state_fire_same known next

/-- An event that does not fire a fence leaves its state. -/
theorem state_step_of_not_fires (known : fence.number < use.table.states.length)
    (other : ∀ handle next, event.fires? = some (handle, next) → use.handles[handle]? ≠ some fence) :
    (use.step event).table.state fence = use.table.state fence := by
  cases asked : event.fires? with
  | none =>
    cases event with
    | create state => exact FenceTable.state_create_old known state
    | signal handle => cases asked
    | signalError handle => cases asked
    | _ => rfl
  | some pair =>
    obtain ⟨handle, next⟩ := pair
    have apart := other handle next asked
    rw [table_step_of_fires use asked]
    cases found : use.handles[handle]? with
    | none => rfl
    | some given =>
      refine FenceTable.state_fire_other (fun same => apart ?_) next
      rw [found, same]

private theorem length_states_step (use : FenceUse) (event : FenceEvent) :
    (use.step event).table.states.length = use.table.states.length + event.isCreation.toNat := by
  cases asked : event.fires? with
  | none =>
    cases event with
    | create state => simp [step, FenceTable.create, FenceEvent.isCreation]
    | signal handle => cases asked
    | signalError handle => cases asked
    | _ => rfl
  | some pair =>
    obtain ⟨handle, next⟩ := pair
    have kept : event.isCreation = false := by cases event <;> cases asked <;> rfl
    rw [table_step_of_fires use asked, kept]
    cases use.handles[handle]? with
    | none => rfl
    | some given => exact FenceTable.length_fire _ _ _

open FenceHistory

/-- The fence of the creation at a place. -/
def fenceOf (events : FenceHistory) (creation : Nat) : Fence := ⟨fences (events.take creation)⟩

/-- Handles and fences are as the history says. -/
structure IsTracked (events : FenceHistory) (use : FenceUse) : Prop where
  handles : use.handles.length = FenceHistory.handles events
  fences : use.table.states.length = FenceHistory.fences events
  traced : ∀ handle, handle < FenceHistory.handles events → ∃ creation, ComesFrom events handle creation
  held : ∀ handle creation, ComesFrom events handle creation → use.handles[handle]? = some (fenceOf events creation)
  decided : ∀ creation state, events[creation]? = some (.create state) →
    Decides events creation (use.table.state (fenceOf events creation))

variable {events : FenceHistory} {creation : Nat}

private theorem isTracked_empty : IsTracked [] empty where
  handles := rfl
  fences := rfl
  traced _ none := absurd none (Nat.not_lt_zero _)
  held _ _ origin := absurd origin.lt (Nat.not_lt_zero _)
  decided := nofun

theorem fences_of_create {state : FenceState} (there : events[creation]? = some (.create state)) :
    FenceHistory.fences (events.take creation) < FenceHistory.fences events := by
  have longer : FenceHistory.fences (events.take (creation + 1)) ≤ FenceHistory.fences events :=
    (List.take_sublist _ _).countP_le
  rw [List.take_add_one, there, Option.toList_some, fences_concat] at longer
  exact longer

theorem fenceOf_append (there : events[creation]? = some event) (later : FenceHistory) :
    fenceOf (events ++ later) creation = fenceOf events creation := by
  rw [fenceOf, fenceOf, take_append_of_event there]

theorem fenceOf_length (events later : FenceHistory) :
    fenceOf (events ++ later) events.length = ⟨FenceHistory.fences events⟩ := by
  rw [fenceOf, List.take_left]

theorem fenceOf_ne_of_lt {first second : Nat} {state : FenceState}
    (there : events[first]? = some (.create state)) (before : first < second) :
    fenceOf events first ≠ fenceOf events second := by
  intro same
  have earlier : (events.take second)[first]? = some (.create state) := by
    rw [List.getElem?_take_of_lt before, there]
  have fewer := fences_of_create earlier
  rw [List.take_take, Nat.min_eq_left (Nat.le_of_lt before)] at fewer
  exact Nat.ne_of_lt fewer (congrArg Fence.number same)

theorem fenceOf_injective {first second : Nat} {state other : FenceState}
    (one : events[first]? = some (.create state)) (two : events[second]? = some (.create other))
    (same : fenceOf events first = fenceOf events second) : first = second := by
  rcases Nat.lt_trichotomy first second with before | equal | after
  · exact absurd same (fenceOf_ne_of_lt one before)
  · exact equal
  · exact absurd same.symm (fenceOf_ne_of_lt two after)

namespace IsTracked

theorem known (tracked : IsTracked events use) {state : FenceState}
    (there : events[creation]? = some (.create state)) :
    (fenceOf events creation).number < use.table.states.length := by
  rw [tracked.fences]
  exact fences_of_create there

theorem comesFrom (tracked : IsTracked events use) {state : FenceState}
    (there : events[creation]? = some (.create state))
    (held : use.handles[handle]? = some (fenceOf events creation)) : ComesFrom events handle creation := by
  obtain ⟨inside, -⟩ := List.getElem?_eq_some_iff.mp held
  obtain ⟨other, origin⟩ := tracked.traced handle (tracked.handles ▸ inside)
  obtain ⟨created, elsewhere⟩ := origin.exists_create
  have same := Option.some.inj ((tracked.held handle other origin).symm.trans held)
  exact fenceOf_injective elsewhere there same ▸ origin

private theorem step_handles (tracked : IsTracked events use) (event : FenceEvent) :
    (use.step event).handles.length = FenceHistory.handles (events ++ [event]) := by
  rw [handles_concat, ← tracked.handles]
  cases event with
  | create state => simp [FenceUse.step, FenceEvent.handlesAfter]
  | copy source =>
    by_cases inside : source < use.handles.length
    · simp [FenceUse.step, FenceEvent.handlesAfter, inside]
    · simp [FenceUse.step, FenceEvent.handlesAfter, inside]
  | _ => rfl

private theorem step_traced (tracked : IsTracked events use) (event : FenceEvent)
    (known : handle < FenceHistory.handles (events ++ [event])) :
    ∃ creation, ComesFrom (events ++ [event]) handle creation := by
  rw [handles_concat] at known
  by_cases old : handle < FenceHistory.handles events
  · obtain ⟨creation, origin⟩ := tracked.traced handle old
    exact ⟨creation, origin.append [event]⟩
  · cases event with
    | create state =>
      have last : handle = FenceHistory.handles events := by
        rw [FenceEvent.handlesAfter] at known
        omega
      exact ⟨events.length, comesFrom_concat_iff.mpr (.inr ⟨last, .inl ⟨⟨state, rfl⟩, rfl⟩⟩)⟩
    | copy source =>
      rw [FenceEvent.handlesAfter] at known
      split at known
      · rename_i inside
        obtain ⟨creation, origin⟩ := tracked.traced source inside
        exact ⟨creation, comesFrom_concat_iff.mpr (.inr ⟨by omega, .inr ⟨source, rfl, origin⟩⟩)⟩
      · exact absurd known old
    | _ => exact absurd known old

private theorem step_held (tracked : IsTracked events use) (event : FenceEvent)
    (origin : ComesFrom (events ++ [event]) handle creation) :
    (use.step event).handles[handle]? = some (fenceOf (events ++ [event]) creation) := by
  rcases comesFrom_concat_iff.mp origin with old | ⟨rfl, ⟨⟨state, rfl⟩, rfl⟩ | ⟨source, rfl, old⟩⟩
  · have held := tracked.held handle creation old
    obtain ⟨_, there⟩ := old.exists_create
    obtain ⟨inside, -⟩ := List.getElem?_eq_some_iff.mp held
    rw [fenceOf_append there, ← held]
    obtain ⟨added, grown⟩ := handles_prefix_step use event
    rw [← grown, List.getElem?_append_left inside]
  · rw [fenceOf_length, ← tracked.fences, ← tracked.handles]
    exact List.getElem?_concat_length
  · obtain ⟨_, there⟩ := old.exists_create
    rw [fenceOf_append there, ← tracked.handles]
    simp only [FenceUse.step, tracked.held source creation old, Option.toList_some]
    exact List.getElem?_concat_length

private theorem step_decided (tracked : IsTracked events use) (event : FenceEvent) {state : FenceState}
    (there : (events ++ [event])[creation]? = some (.create state)) :
    Decides (events ++ [event]) creation
      ((use.step event).table.state (fenceOf (events ++ [event]) creation)) := by
  rcases getElem?_concat_eq_some_iff.mp there with earlier | ⟨rfl, rfl⟩
  · have decided := tracked.decided creation state earlier
    have known := tracked.known earlier
    rw [fenceOf_append earlier]
    by_cases fired : ∃ handle next, event.fires? = some (handle, next) ∧ ComesFrom events handle creation
    · obtain ⟨handle, next, fires, origin⟩ := fired
      rw [state_step_of_fires known fires (tracked.held handle creation origin)]
      split
      · rename_i active
        rw [active] at decided
        exact decided.fire fires origin
      · rename_i settled
        exact decided.concat (.inl settled)
    · have nobody : ∀ handle next, event.fires? = some (handle, next) → ¬ComesFrom events handle creation :=
        fun handle next fires origin => fired ⟨handle, next, fires, origin⟩
      rw [state_step_of_not_fires known fun handle next fires held =>
        nobody handle next fires (tracked.comesFrom earlier held)]
      exact decided.concat (.inr nobody)
  · rw [fenceOf_length, ← tracked.fences]
    have new : (use.step (.create state)).table.state ⟨use.table.states.length⟩ = state :=
      FenceTable.state_create_new use.table state
    rw [new]
    exact decides_create events state

protected theorem step (tracked : IsTracked events use) (event : FenceEvent) :
    IsTracked (events ++ [event]) (use.step event) where
  handles := tracked.step_handles event
  fences := by rw [length_states_step, fences_concat, tracked.fences]
  traced _ known := tracked.step_traced event known
  held _ _ origin := tracked.step_held event origin
  decided _ _ there := tracked.step_decided event there

end IsTracked

theorem isTracked_run (events : FenceHistory) : IsTracked events (run events) := by
  induction events using List.reverseRecOn with
  | nil => exact isTracked_empty
  | append_singleton events event ih =>
    rw [run_concat]
    exact ih.step event

namespace IsTracked

theorem state?_eq (tracked : IsTracked events use) (origin : ComesFrom events handle creation) :
    use.state? handle = some (use.table.state (fenceOf events creation)) := by
  rw [state?, tracked.held handle creation origin, Option.map_some]

theorem state?_step (tracked : IsTracked events use) (origin : ComesFrom events handle creation)
    (event : FenceEvent) :
    (use.step event).state? handle = some ((use.step event).table.state (fenceOf events creation)) := by
  obtain ⟨_, there⟩ := origin.exists_create
  rw [(tracked.step event).state?_eq (origin.append [event]), fenceOf_append there]

/-- What was read once a fence has fired is read after every further event. -/
private theorem state?_step_of_ne_active (tracked : IsTracked events use) (origin : ComesFrom events handle creation)
    {state : FenceState} (read : use.state? handle = some state) (settled : state ≠ .active) (event : FenceEvent) :
    (use.step event).state? handle = some state := by
  obtain ⟨_, there⟩ := origin.exists_create
  have known := tracked.known there
  rw [tracked.state?_eq origin, Option.some.injEq] at read
  rw [tracked.state?_step origin event]
  by_cases fired : ∃ source next, event.fires? = some (source, next) ∧
      use.handles[source]? = some (fenceOf events creation)
  · obtain ⟨source, next, fires, held⟩ := fired
    rw [state_step_of_fires known fires held, read, if_neg settled]
  · rw [state_step_of_not_fires known fun source next fires held => fired ⟨source, next, fires, held⟩, read]

/-- Firing a fence changes nothing for handles from other creations, and all other events change nothing at all. -/
private theorem state?_step_of_apart (tracked : IsTracked events use) (origin : ComesFrom events handle creation)
    (apart : ∀ source next, event.fires? = some (source, next) → ¬ComesFrom events source creation) :
    (use.step event).state? handle = use.state? handle := by
  obtain ⟨_, there⟩ := origin.exists_create
  rw [tracked.state?_step origin event, tracked.state?_eq origin]
  refine congrArg some (state_step_of_not_fires (tracked.known there) fun source next fires held => ?_)
  exact apart source next fires (tracked.comesFrom there held)

/-- Two handles are on one fence exactly if they come from one creation. -/
private theorem sameAs_iff (tracked : IsTracked events use) {first second : Nat} {fence other : Fence}
    (one : use.handles[first]? = some fence) (two : use.handles[second]? = some other) :
    fence.sameAs other = true ↔ ∃ creation, ComesFrom events first creation ∧ ComesFrom events second creation := by
  obtain ⟨inside, -⟩ := List.getElem?_eq_some_iff.mp one
  obtain ⟨creation, origin⟩ := tracked.traced first (tracked.handles ▸ inside)
  obtain ⟨_, there⟩ := origin.exists_create
  have given := Option.some.inj (one.symm.trans (tracked.held first creation origin))
  rw [Fence.sameAs, beq_iff_eq]
  constructor
  · intro same
    exact ⟨creation, origin, tracked.comesFrom there (by rw [two, ← same, given])⟩
  · rintro ⟨shared, origin, also⟩
    exact Option.some.inj (by rw [← one, ← two, tracked.held first shared origin, tracked.held second shared also])

private theorem comesFrom_unique (tracked : IsTracked events use) {other : Nat}
    (origin : ComesFrom events handle creation) (also : ComesFrom events handle other) : other = creation := by
  obtain ⟨_, there⟩ := origin.exists_create
  obtain ⟨_, elsewhere⟩ := also.exists_create
  exact fenceOf_injective elsewhere there
    (Option.some.inj ((tracked.held handle other also).symm.trans (tracked.held handle creation origin)))

end IsTracked

/-- What was read once a fence has fired is read ever after. -/
private theorem state?_append_of_ne_active {state : FenceState} (origin : ComesFrom events handle creation)
    (read : (run events).state? handle = some state) (settled : state ≠ .active) (later : FenceHistory) :
    (run (events ++ later)).state? handle = some state := by
  induction later using List.reverseRecOn with
  | nil => rwa [List.append_nil]
  | append_singleton later event ih =>
    rw [← List.append_assoc, run_concat]
    exact (isTracked_run (events ++ later)).state?_step_of_ne_active (origin.append later) ih settled event

/-- Whether a decision is to wait tells whether nothing has fired. -/
private theorem decides_active_iff {state : FenceState} (decided : Decides events creation state) :
    state = .active ↔
      events[creation]? = some (.create .active) ∧ ∀ place next, ¬FiresAt events creation place next := by
  constructor
  · rintro rfl
    cases decided with
    | created _ fired => exact absurd rfl fired
    | fired _ fires _ =>
      obtain ⟨_, _, -, asked, -⟩ := fires
      exact absurd rfl (FenceEvent.ne_active_of_fires asked)
    | waiting there quiet => exact ⟨there, quiet⟩
  · rintro ⟨there, quiet⟩
    cases decided with
    | created created _ => cases created.symm.trans there; rfl
    | fired _ fires _ => exact absurd fires (quiet _ _)
    | waiting => rfl

/-- How the fences of a history are shared by their handles. -/
structure AreShared (events : FenceHistory) : Prop where
  origin : ∀ handle, handle < FenceHistory.handles events → ∃! creation, ComesFrom events handle creation
  decided : ∀ handle creation, ComesFrom events handle creation →
    ∃ state, (run events).state? handle = some state ∧ Decides events creation state
  shared : ∀ first second creation, ComesFrom events first creation → ComesFrom events second creation →
    (run events).state? first = (run events).state? second
  lasting : ∀ handle state, (run events).state? handle = some state → state ≠ .active →
    ∀ later, (run (events ++ later)).state? handle = some state
  /-- Only events that fire change a state, and only for handles from the same creation. -/
  apart : ∀ event handle creation, ComesFrom events handle creation →
    (∀ source next, event.fires? = some (source, next) → ¬ComesFrom events source creation) →
      (run (events ++ [event])).state? handle = (run events).state? handle
  same : ∀ first second fence other, (run events).handles[first]? = some fence →
    (run events).handles[second]? = some other →
      (fence.sameAs other = true ↔
        ∃ creation, ComesFrom events first creation ∧ ComesFrom events second creation)
  reads : ∀ handle state, (run events).state? handle = some state →
    (run (events ++ [.read handle])).seen = (run events).seen ++ [state]
  waits : ∀ handle timeout state, (run events).state? handle = some state →
    (run (events ++ [.wait handle timeout])).seen = (run events).seen ++ [state]
  active : ∀ handle creation, ComesFrom events handle creation →
    ((run events).state? handle = some .active ↔
      events[creation]? = some (.create .active) ∧ ∀ place next, ¬FiresAt events creation place next)

/-- Whatever happens, a fence fires at most once, and all handles that come from its creation see it. -/
theorem fences_fire_once (events : FenceHistory) : AreShared events := by
  have tracked := isTracked_run events
  have decided {handle creation : Nat} (origin : ComesFrom events handle creation) :
      Decides events creation ((run events).table.state (fenceOf events creation)) := by
    obtain ⟨state, there⟩ := origin.exists_create
    exact tracked.decided creation state there
  have traced {handle : Nat} {state : FenceState} (read : (run events).state? handle = some state) :
      ∃ creation, ComesFrom events handle creation := by
    obtain ⟨fence, held, -⟩ := Option.map_eq_some_iff.mp read
    obtain ⟨inside, -⟩ := List.getElem?_eq_some_iff.mp held
    exact tracked.traced handle (tracked.handles ▸ inside)
  constructor
  case origin =>
    intro handle known
    obtain ⟨creation, origin⟩ := tracked.traced handle known
    exact ⟨creation, origin, fun other also => tracked.comesFrom_unique origin also⟩
  case decided => exact fun handle creation origin => ⟨_, tracked.state?_eq origin, decided origin⟩
  case shared =>
    intro first second creation one two
    rw [tracked.state?_eq one, tracked.state?_eq two]
  case lasting =>
    intro handle state read settled later
    obtain ⟨creation, origin⟩ := traced read
    exact state?_append_of_ne_active origin read settled later
  case apart =>
    intro event handle creation origin apart
    rw [run_concat]
    exact tracked.state?_step_of_apart origin apart
  case same => exact fun first second fence other one two => tracked.sameAs_iff one two
  case reads =>
    intro handle state read
    rw [run_concat]
    exact congrArg (fun seen => (run events).seen ++ seen.toList) read
  case waits =>
    intro handle timeout state read
    obtain ⟨fence, held, same⟩ := Option.map_eq_some_iff.mp read
    rw [run_concat]
    simp only [FenceUse.step, held, Option.bind_some, FenceTable.wait_some, Waited.value?, same, Option.toList_some]
  case active =>
    intro handle creation origin
    rw [tracked.state?_eq origin, Option.some.injEq]
    exact decides_active_iff (decided origin)

/-- A copy of a copy is fired, and the first handle reads it; the other fence is left as it was. -/
example (timeout : Duration) :
    (run [.create .active, .copy 0, .create .active, .copy 1, .signalError 3, .signal 0, .read 0,
      .wait 2 timeout]).seen = [.error, .active] := rfl

end FenceUse

end NeuralDevice
