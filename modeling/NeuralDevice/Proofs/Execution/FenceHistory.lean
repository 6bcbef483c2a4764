import Mathlib.Data.List.Induction
import NeuralDevice.Execution.Fence
import NeuralDevice.Proofs.Execution.Death

/-!
What a history of fences says: which handles come from which creation, and what the first event to fire a fence decides.
One more event gives a new handle its origin and decides at most one fence.
-/

namespace NeuralDevice

/-- What can happen to fences. Handles are named by their places among all that were made, and a wait stands where it
ends. -/
inductive FenceEvent where
  | create (state : FenceState)
  | copy (handle : Nat)
  | signal (handle : Nat)
  | signalError (handle : Nat)
  | read (handle : Nat)
  | wait (handle : Nat) (timeout : Duration)

namespace FenceEvent

/-- The handle an event fires, and the state it asks for. -/
def fires? : FenceEvent → Option (Nat × FenceState)
  | .signal handle => some (handle, .signaled)
  | .signalError handle => some (handle, .error)
  | _ => none

theorem ne_active_of_fires {event : FenceEvent} {handle : Nat} {next : FenceState}
    (fires : event.fires? = some (handle, next)) : next ≠ .active := by
  cases event <;> cases fires <;> decide

/-- How many handles there are after an event. A handle that was not made yet cannot be copied. -/
def handlesAfter (count : Nat) : FenceEvent → Nat
  | .create _ => count + 1
  | .copy source => if source < count then count + 1 else count
  | _ => count

private theorem le_handlesAfter (count : Nat) (event : FenceEvent) : count ≤ event.handlesAfter count := by
  cases event with
  | create state => exact Nat.le_succ count
  | copy source =>
    rw [handlesAfter]
    split
    · exact Nat.le_succ count
    · exact Nat.le_refl count
  | _ => exact Nat.le_refl count

def isCreation : FenceEvent → Bool
  | .create _ => true
  | _ => false

end FenceEvent

/-- Everything that happened to fences, from the first creation on. -/
abbrev FenceHistory := List FenceEvent

namespace FenceHistory

def handles (events : FenceHistory) : Nat := events.foldl FenceEvent.handlesAfter 0

def fences (events : FenceHistory) : Nat := events.countP FenceEvent.isCreation

/-- The handle comes from the creation at a place of the history, as a copy of a copy if need be. -/
inductive ComesFrom (events : FenceHistory) : Nat → Nat → Prop
  | created {creation : Nat} {state : FenceState} (there : events[creation]? = some (.create state)) :
    ComesFrom events (handles (events.take creation)) creation
  | copied {place source creation : Nat} (there : events[place]? = some (.copy source))
    (known : source < handles (events.take place)) (origin : ComesFrom events source creation) :
    ComesFrom events (handles (events.take place)) creation

/-- The event at a place fires the fence of a creation, through a handle that was made before. -/
def FiresAt (events : FenceHistory) (creation place : Nat) (next : FenceState) : Prop :=
  ∃ event handle, events[place]? = some event ∧ event.fires? = some (handle, next) ∧
    ComesFrom (events.take place) handle creation

/-- What a history decides about the fence of a creation: the state it was created in or, if that is active, the one
that the first event to fire it asks for. -/
inductive Decides (events : FenceHistory) (creation : Nat) : FenceState → Prop
  | created {state : FenceState} (there : events[creation]? = some (.create state)) (fired : state ≠ .active) :
    Decides events creation state
  | fired {place : Nat} {next : FenceState} (there : events[creation]? = some (.create .active))
    (fires : FiresAt events creation place next)
    (first : ∀ earlier state, earlier < place → ¬FiresAt events creation earlier state) :
    Decides events creation next
  | waiting (there : events[creation]? = some (.create .active))
    (quiet : ∀ place state, ¬FiresAt events creation place state) : Decides events creation .active

variable {events : FenceHistory} {event : FenceEvent} {handle creation : Nat}

theorem handles_concat (events : FenceHistory) (event : FenceEvent) :
    handles (events ++ [event]) = event.handlesAfter (handles events) := by
  rw [handles, List.foldl_append]
  rfl

theorem fences_concat (events : FenceHistory) (event : FenceEvent) :
    fences (events ++ [event]) = fences events + event.isCreation.toNat := by
  rw [fences, List.countP_append]
  cases event <;> rfl

private theorem handles_le_append (events later : FenceHistory) : handles events ≤ handles (events ++ later) := by
  induction later using List.reverseRecOn with
  | nil => exact Nat.le_of_eq (by rw [List.append_nil])
  | append_singleton later event ih =>
    rw [← List.append_assoc, handles_concat]
    exact Nat.le_trans ih (event.le_handlesAfter _)

theorem handles_take_le (events : FenceHistory) (place : Nat) : handles (events.take place) ≤ handles events := by
  have shorter := handles_le_append (events.take place) (events.drop place)
  rwa [List.take_append_drop] at shorter

/-! What happened stays where it is in a longer history, after the same events. -/

theorem event_append {place : Nat} (there : events[place]? = some event) (later : FenceHistory) :
    (events ++ later)[place]? = some event := by
  obtain ⟨inside, -⟩ := List.getElem?_eq_some_iff.mp there
  rw [List.getElem?_append_left inside, there]

theorem take_append_of_event {place : Nat} (there : events[place]? = some event) (later : FenceHistory) :
    (events ++ later).take place = events.take place := by
  obtain ⟨inside, -⟩ := List.getElem?_eq_some_iff.mp there
  exact List.take_append_of_le_length (Nat.le_of_lt inside)

theorem handles_of_event {place : Nat} (there : events[place]? = some event) :
    event.handlesAfter (handles (events.take place)) ≤ handles events := by
  have longer := handles_take_le events (place + 1)
  rwa [List.take_add_one, there, Option.toList_some, handles_concat] at longer

theorem ComesFrom.lt (origin : ComesFrom events handle creation) : handle < handles events := by
  cases origin with
  | created there => exact handles_of_event there
  | copied there known _ =>
    have made := handles_of_event there
    rwa [FenceEvent.handlesAfter, if_pos known] at made

theorem ComesFrom.exists_create (origin : ComesFrom events handle creation) :
    ∃ state, events[creation]? = some (.create state) := by
  induction origin with
  | created there => exact ⟨_, there⟩
  | copied _ _ _ ih => exact ih

theorem ComesFrom.append (origin : ComesFrom events handle creation) (later : FenceHistory) :
    ComesFrom (events ++ later) handle creation := by
  induction origin with
  | @created creation state there =>
    rw [← take_append_of_event there later]
    exact .created (event_append there later)
  | @copied place source creation there known _ ih =>
    rw [← take_append_of_event there later] at known ⊢
    exact .copied (event_append there later) known ih

theorem comesFrom_concat_iff :
    ComesFrom (events ++ [event]) handle creation ↔
      ComesFrom events handle creation ∨ handle = handles events ∧
        ((∃ state, event = .create state) ∧ creation = events.length ∨
          ∃ source, event = .copy source ∧ ComesFrom events source creation) := by
  constructor
  · intro origin
    induction origin with
    | @created creation state there =>
      rcases getElem?_concat_eq_some_iff.mp there with earlier | ⟨rfl, rfl⟩
      · rw [take_append_of_event earlier]
        exact .inl (.created earlier)
      · refine .inr ⟨?_, .inl ⟨⟨state, rfl⟩, rfl⟩⟩
        rw [List.take_left]
    | @copied place source creation there known _ ih =>
      rcases getElem?_concat_eq_some_iff.mp there with earlier | ⟨rfl, rfl⟩
      · rw [take_append_of_event earlier] at known ⊢
        have made := Nat.lt_of_lt_of_le known (handles_take_le events place)
        rcases ih with origin | ⟨rfl, -⟩
        · exact .inl (.copied earlier known origin)
        · exact absurd made (Nat.lt_irrefl _)
      · rw [List.take_left] at known ⊢
        rcases ih with origin | ⟨rfl, -⟩
        · exact .inr ⟨rfl, .inr ⟨source, rfl, origin⟩⟩
        · exact absurd known (Nat.lt_irrefl _)
  · rintro (origin | ⟨rfl, ⟨⟨state, rfl⟩, rfl⟩ | ⟨source, rfl, origin⟩⟩)
    · exact origin.append [event]
    · have last : (events ++ [.create state])[events.length]? = some (.create state) := List.getElem?_concat_length
      simpa using ComesFrom.created last
    · have last : (events ++ [.copy source])[events.length]? = some (.copy source) := List.getElem?_concat_length
      simpa using ComesFrom.copied last (by simpa using origin.lt) (origin.append [.copy source])

theorem firesAt_concat_iff {place : Nat} {next : FenceState} :
    FiresAt (events ++ [event]) creation place next ↔
      FiresAt events creation place next ∨ place = events.length ∧
        ∃ handle, event.fires? = some (handle, next) ∧ ComesFrom events handle creation := by
  unfold FiresAt
  constructor
  · rintro ⟨found, handle, there, fires, origin⟩
    rcases getElem?_concat_eq_some_iff.mp there with earlier | ⟨rfl, rfl⟩
    · rw [take_append_of_event earlier] at origin
      exact .inl ⟨found, handle, earlier, fires, origin⟩
    · rw [List.take_left] at origin
      exact .inr ⟨rfl, handle, fires, origin⟩
  · rintro (⟨found, handle, there, fires, origin⟩ | ⟨rfl, handle, fires, origin⟩)
    · refine ⟨found, handle, event_append there _, fires, ?_⟩
      rwa [take_append_of_event there]
    · refine ⟨event, handle, List.getElem?_concat_length, fires, ?_⟩
      rwa [List.take_left]

theorem FiresAt.lt {place : Nat} {next : FenceState} (fires : FiresAt events creation place next) :
    place < events.length := by
  obtain ⟨_, _, there, -⟩ := fires
  exact (List.getElem?_eq_some_iff.mp there).1

/-- What was decided stays decided, and an active fence stays active as long as nothing fires it. -/
theorem Decides.concat {state : FenceState} (decided : Decides events creation state)
    (still : state ≠ .active ∨ ∀ handle next, event.fires? = some (handle, next) → ¬ComesFrom events handle creation) :
    Decides (events ++ [event]) creation state := by
  cases decided with
  | created there fired => exact .created (event_append there _) fired
  | fired there fires first =>
    refine .fired (event_append there _) (firesAt_concat_iff.mpr (.inl fires)) fun earlier state before again => ?_
    rcases firesAt_concat_iff.mp again with old | ⟨rfl, -⟩
    · exact first earlier state before old
    · exact Nat.lt_asymm before fires.lt
  | waiting there quiet =>
    refine .waiting (event_append there _) fun place state again => ?_
    rcases firesAt_concat_iff.mp again with old | ⟨-, handle, fires, origin⟩
    · exact quiet place state old
    · rcases still with active | nobody
      · exact active rfl
      · exact nobody handle state fires origin

theorem Decides.fire {next : FenceState} (decided : Decides events creation .active)
    (fires : event.fires? = some (handle, next)) (origin : ComesFrom events handle creation) :
    Decides (events ++ [event]) creation next := by
  cases decided with
  | created _ fired => exact absurd rfl fired
  | fired _ fires _ =>
    obtain ⟨_, _, -, active, -⟩ := fires
    exact absurd rfl (FenceEvent.ne_active_of_fires active)
  | waiting there quiet =>
    refine .fired (event_append there _)
      (firesAt_concat_iff.mpr (.inr ⟨rfl, handle, fires, origin⟩)) fun earlier state before again => ?_
    rcases firesAt_concat_iff.mp again with old | ⟨rfl, -⟩
    · exact quiet earlier state old
    · exact Nat.lt_irrefl _ before

theorem decides_create (events : FenceHistory) (state : FenceState) :
    Decides (events ++ [.create state]) events.length state := by
  have there : (events ++ [.create state])[events.length]? = some (.create state) := List.getElem?_concat_length
  by_cases active : state = .active
  · subst active
    refine .waiting there fun place next fires => ?_
    obtain ⟨event, handle, found, asked, origin⟩ := fires
    obtain ⟨made, earlier⟩ := origin.exists_create
    obtain ⟨inside, -⟩ := List.getElem?_eq_some_iff.mp earlier
    obtain ⟨before, -⟩ := List.getElem?_eq_some_iff.mp found
    simp at inside before
    omega
  · exact .created there active

end FenceHistory

end NeuralDevice
