import NeuralDevice.Execution.Death

/-!
Everything that can happen to the watch on an endpoint, in any order. A registration is told of a death once: at once
when the endpoint was dead before, and otherwise when it dies while the registration and its callback are there.
-/

namespace NeuralDevice

variable {κ : Type}

/-- What can happen to a watch. Registrations are named by their places among all that were made. -/
inductive WatchEvent (κ : Type) where
  | protect (callback : κ)
  | drop (registration : Nat)
  | release (callback : κ)
  | die

/-- A monitor and what those who use it hold: the registrations it gave out, the callbacks that are gone, and the
callbacks that were told. -/
structure Watch (κ : Type) where
  monitor : Monitor κ
  registrations : List (Option Nat)
  released : List κ
  told : List κ

/-- One more value is found at the end, and the earlier ones where they were. -/
theorem getElem?_concat_eq_some_iff {α : Type} {values : List α} {last found : α} {place : Nat} :
    (values ++ [last])[place]? = some found ↔ values[place]? = some found ∨ place = values.length ∧ last = found := by
  grind

/-- A history that an event comes first in: what is sought is that event, or lies in the rest. -/
theorem exists_split_cons_iff {sought event : WatchEvent κ} {rest : List (WatchEvent κ)}
    {property : List (WatchEvent κ) → List (WatchEvent κ) → Prop} :
    (∃ before after, event :: rest = before ++ sought :: after ∧ property before after) ↔
      (event = sought ∧ property [] rest) ∨
        ∃ before after, rest = before ++ sought :: after ∧ property (event :: before) after := by
  constructor
  · rintro ⟨before, after, split, holds⟩
    cases before with
    | nil =>
      obtain ⟨rfl, rfl⟩ := List.cons.inj split
      exact .inl ⟨rfl, holds⟩
    | cons first before =>
      obtain ⟨rfl, rfl⟩ := List.cons.inj split
      exact .inr ⟨before, after, rfl, holds⟩
  · rintro (⟨rfl, holds⟩ | ⟨before, after, rfl, holds⟩)
    · exact ⟨[], rest, rfl, holds⟩
    · exact ⟨event :: before, after, rfl, holds⟩

namespace Monitor

@[simp] theorem hasDied_protect (monitor : Monitor κ) (waiter : κ) :
    (monitor.protect waiter).2.hasDied = monitor.hasDied := by
  unfold protect
  split <;> rfl

@[simp] theorem hasDied_drop (monitor : Monitor κ) (registration : Option Nat) :
    (monitor.drop registration).hasDied = monitor.hasDied := by
  cases registration <;> rfl

@[simp] theorem nextNumber_drop (monitor : Monitor κ) (registration : Option Nat) :
    (monitor.drop registration).nextNumber = monitor.nextNumber := by
  cases registration <;> rfl

end Monitor

namespace Watch

/-- The endpoint dies before the registration is dropped and before its callback is gone. -/
def DiesWhile (number : Nat) (callback : κ) (events : List (WatchEvent κ)) : Prop :=
  ∃ before after, events = before ++ .die :: after ∧ .drop number ∉ before ∧ .release callback ∉ before

private theorem diesWhile_cons {event : WatchEvent κ} {rest : List (WatchEvent κ)} {number : Nat} {callback : κ} :
    DiesWhile number callback (event :: rest) ↔
      event = .die ∨ event ≠ .drop number ∧ event ≠ .release callback ∧ DiesWhile number callback rest := by
  unfold DiesWhile
  rw [exists_split_cons_iff]
  grind

/-- Every registration has the number of its place, and those that wait were given out and wait once. -/
structure IsSound (watch : Watch κ) : Prop where
  next : watch.monitor.hasDied = false → watch.monitor.nextNumber = watch.registrations.length
  named : ∀ number given : Nat, watch.registrations[number]? = some (some given) → given = number
  registered : ∀ entry ∈ watch.monitor.pending, watch.registrations[entry.1]? = some (some entry.1)
  distinct : (watch.monitor.pending.map (·.1)).Nodup
  ended : watch.monitor.hasDied = true → watch.monitor.pending = []

theorem IsSound.below {watch : Watch κ} (sound : watch.IsSound) :
    ∀ entry ∈ watch.monitor.pending, entry.1 < watch.registrations.length := fun entry member =>
  (List.getElem?_eq_some_iff.mp (sound.registered entry member)).1

def empty : Watch κ := ⟨.new, [], [], []⟩

theorem isSound_empty : (empty : Watch κ).IsSound where
  next _ := rfl
  named := nofun
  registered := nofun
  distinct := List.nodup_nil
  ended _ := rfl

variable [DecidableEq κ]

/-- A callback that is gone can be protected no more. -/
def step (watch : Watch κ) : WatchEvent κ → Watch κ
  | .protect callback =>
    if callback ∈ watch.released then watch
    else
      let (registration, monitor) := watch.monitor.protect callback
      { watch with
        monitor
        registrations := watch.registrations ++ [registration]
        told := watch.told ++ if registration.isNone then [callback] else [] }
  | .drop number => { watch with monitor := watch.monitor.drop watch.registrations[number]?.join }
  | .release callback => { watch with released := callback :: watch.released }
  | .die =>
    let (told, monitor) := watch.monitor.serviceDied fun callback => callback ∉ watch.released
    { watch with monitor, told := watch.told ++ told }

def run (events : List (WatchEvent κ)) : Watch κ := events.foldl step empty

/-- A registration is made, of a callback that is there. Its fate is told by whether the endpoint had died and by what
happens afterwards. -/
def Registers (watch : Watch κ) (events : List (WatchEvent κ)) (number : Nat) (callback : κ)
    (fate : Bool → List (WatchEvent κ) → Prop) : Prop :=
  ∃ before after, events = before ++ .protect callback :: after ∧ callback ∉ (before.foldl step watch).released ∧
    (before.foldl step watch).registrations.length = number ∧ fate (before.foldl step watch).monitor.hasDied after

/-- The registrations that an event tells of a death, with their callbacks. -/
def notices (watch : Watch κ) : WatchEvent κ → List (Nat × κ)
  | .protect callback =>
    if callback ∉ watch.released ∧ watch.monitor.hasDied then [(watch.registrations.length, callback)] else []
  | .die => watch.monitor.pending.filter fun (_, callback) => callback ∉ watch.released
  | _ => []

def allNotices (watch : Watch κ) : List (WatchEvent κ) → List (Nat × κ)
  | [] => []
  | event :: rest => watch.notices event ++ (watch.step event).allNotices rest

variable {watch : Watch κ} {event : WatchEvent κ} {callback : κ} {number : Nat}
  {fate : Bool → List (WatchEvent κ) → Prop}

section Steps

theorem step_protect_released (gone : callback ∈ watch.released) : watch.step (.protect callback) = watch := by
  simp only [step, gone, if_true]

theorem step_protect_dead (there : callback ∉ watch.released) (dead : watch.monitor.hasDied = true) :
    watch.step (.protect callback) = { watch with
      registrations := watch.registrations ++ [none], told := watch.told ++ [callback] } := by
  simp only [step, there, Monitor.protect, dead, if_false, if_true, Option.isNone_none]

theorem step_protect_alive (sound : watch.IsSound) (there : callback ∉ watch.released)
    (alive : watch.monitor.hasDied = false) :
    watch.step (.protect callback) = { watch with
      monitor := ⟨false, watch.registrations.length + 1,
        watch.monitor.pending ++ [(watch.registrations.length, callback)]⟩
      registrations := watch.registrations ++ [some watch.registrations.length] } := by
  simp [step, there, Monitor.protect, alive, sound.next alive]

/-- Dropping a registration removes its own entry and no other. -/
theorem IsSound.pending_drop (sound : watch.IsSound) (number : Nat) :
    (watch.step (.drop number)).monitor.pending = watch.monitor.pending.filter (·.1 != number) := by
  cases found : watch.registrations[number]?.join with
  | none =>
    have others : ∀ entry ∈ watch.monitor.pending, (entry.1 != number) = true := by
      intro entry member
      rw [bne_iff_ne]
      rintro rfl
      simp [sound.registered entry member] at found
    simp only [step, found, Monitor.drop]
    exact (List.filter_eq_self.mpr others).symm
  | some given =>
    have same := sound.named number given (Option.join_eq_some_iff.mp found)
    simp only [step, found, Monitor.drop, same]

theorem mem_pending_step_iff (sound : watch.IsSound) (event : WatchEvent κ) :
    (number, callback) ∈ (watch.step event).monitor.pending ↔
      ((number, callback) ∈ watch.monitor.pending ∧ event ≠ .die ∧ event ≠ .drop number) ∨
        event = .protect callback ∧ callback ∉ watch.released ∧ watch.registrations.length = number ∧
          watch.monitor.hasDied = false := by
  cases event with
  | protect other =>
    by_cases gone : other ∈ watch.released
    · rw [step_protect_released gone]
      grind
    cases died : watch.monitor.hasDied with
    | true =>
      rw [step_protect_dead gone died]
      simp [sound.ended died]
    | false =>
      rw [step_protect_alive sound gone died, List.mem_append]
      grind
  | drop other =>
    rw [sound.pending_drop other]
    grind
  | release other => simp [step]
  | die => simp [step, Monitor.serviceDied]

theorem mem_notices_iff :
    (number, callback) ∈ watch.notices event ↔
      (event = .die ∧ (number, callback) ∈ watch.monitor.pending ∧ callback ∉ watch.released) ∨
        event = .protect callback ∧ callback ∉ watch.released ∧ watch.registrations.length = number ∧
          watch.monitor.hasDied = true := by
  cases event <;> grind [notices]

theorem mem_released_step_iff :
    callback ∈ (watch.step event).released ↔ callback ∈ watch.released ∨ event = .release callback := by
  cases event with
  | protect other =>
    simp only [step]
    split <;> simp
  | release other => simp [step, or_comm, eq_comm]
  | _ => simp [step]

private theorem hasDied_step_iff :
    (watch.step event).monitor.hasDied = true ↔ watch.monitor.hasDied = true ∨ event = .die := by
  cases event with
  | protect other =>
    simp only [step]
    split <;> simp
  | die => simp [step, Monitor.serviceDied]
  | _ => simp [step]

private theorem length_registrations_le_step :
    watch.registrations.length ≤ (watch.step event).registrations.length := by
  cases event with
  | protect other =>
    simp only [step]
    split <;> simp
  | _ => exact Nat.le_refl _

private theorem told_step (watch : Watch κ) (event : WatchEvent κ) :
    (watch.step event).told = watch.told ++ (watch.notices event).map (·.2) := by
  cases event with
  | protect other =>
    by_cases gone : other ∈ watch.released
    · simp [step, notices, gone]
    · cases died : watch.monitor.hasDied <;> simp [step, notices, gone, Monitor.protect, died]
  | die =>
    simp only [step, notices, Monitor.serviceDied, List.filter_map]
    rfl
  | _ => simp [step, notices]

end Steps

section Soundness

theorem IsSound.protect (sound : watch.IsSound) (callback : κ) : (watch.step (.protect callback)).IsSound := by
  by_cases gone : callback ∈ watch.released
  · rwa [step_protect_released gone]
  have named : ∀ registration : Option Nat, registration = none ∨ registration = some watch.registrations.length →
      ∀ number given : Nat, (watch.registrations ++ [registration])[number]? = some (some given) →
        given = number := by
    intro registration fresh number given found
    rcases getElem?_concat_eq_some_iff.mp found with earlier | ⟨rfl, rfl⟩
    · exact sound.named number given earlier
    · simpa using fresh
  cases died : watch.monitor.hasDied with
  | true =>
    rw [step_protect_dead gone died]
    have nobody := sound.ended died
    exact ⟨by simp [died], named none (.inl rfl), by simp [nobody], by simp [nobody], fun _ => nobody⟩
  | false =>
    rw [step_protect_alive sound gone died]
    refine ⟨by simp, named _ (.inr rfl), fun entry member => ?_, ?_, nofun⟩
    · rcases List.mem_append.mp member with earlier | added
      · exact getElem?_concat_eq_some_iff.mpr (.inl (sound.registered entry earlier))
      · rw [List.mem_singleton.mp added]
        exact List.getElem?_concat_length
    · rw [List.map_append, List.nodup_append]
      refine ⟨sound.distinct, by simp, fun first member second added => ?_⟩
      obtain ⟨entry, earlier, rfl⟩ := List.mem_map.mp member
      rw [List.mem_singleton.mp added]
      exact Nat.ne_of_lt (sound.below entry earlier)

theorem IsSound.drop (sound : watch.IsSound) (number : Nat) : (watch.step (.drop number)).IsSound := by
  have pending := sound.pending_drop number
  refine ⟨fun alive => ?_, sound.named, fun entry member => ?_, ?_, fun dead => ?_⟩
  · simp only [Watch.step, Monitor.hasDied_drop, Monitor.nextNumber_drop] at alive ⊢
    exact sound.next alive
  · rw [pending] at member
    exact sound.registered entry (List.mem_filter.mp member).1
  · rw [pending]
    exact (List.filter_sublist.map _).nodup sound.distinct
  · simp only [Watch.step, Monitor.hasDied_drop] at dead
    rw [pending, sound.ended dead, List.filter_nil]

theorem IsSound.step (sound : watch.IsSound) (event : WatchEvent κ) : (watch.step event).IsSound := by
  cases event with
  | protect callback => exact sound.protect callback
  | drop number => exact sound.drop number
  | release callback => exact ⟨sound.next, sound.named, sound.registered, sound.distinct, sound.ended⟩
  | die => exact ⟨nofun, sound.named, nofun, List.nodup_nil, fun _ => rfl⟩

end Soundness

section Runs

theorem registers_cons {rest : List (WatchEvent κ)} :
    watch.Registers (event :: rest) number callback fate ↔
      (event = .protect callback ∧ callback ∉ watch.released ∧ watch.registrations.length = number ∧
        fate watch.monitor.hasDied rest) ∨
      (watch.step event).Registers rest number callback fate := by
  unfold Registers
  exact exists_split_cons_iff

/-- A run tells those that wait if the endpoint dies in time, and those of its own registrations that are due. -/
theorem mem_allNotices_iff (sound : watch.IsSound) (events : List (WatchEvent κ)) :
    (number, callback) ∈ watch.allNotices events ↔
      (((number, callback) ∈ watch.monitor.pending ∧ callback ∉ watch.released) ∧ DiesWhile number callback events) ∨
        watch.Registers events number callback fun died after => died = true ∨ DiesWhile number callback after := by
  induction events generalizing watch with
  | nil => simp [allNotices, DiesWhile, Registers]
  | cons event rest ih =>
    rw [allNotices, List.mem_append, ih (sound.step event), registers_cons, diesWhile_cons, mem_notices_iff,
      mem_pending_step_iff sound, mem_released_step_iff]
    grind

/-- Those that wait after a run waited before it or are its own, and nothing ended them. -/
private theorem mem_pending_foldl_iff (sound : watch.IsSound) (events : List (WatchEvent κ)) :
    (number, callback) ∈ (events.foldl step watch).monitor.pending ↔
      ((number, callback) ∈ watch.monitor.pending ∧ .die ∉ events ∧ .drop number ∉ events) ∨
        watch.Registers events number callback fun died after =>
          died = false ∧ .die ∉ after ∧ .drop number ∉ after := by
  induction events generalizing watch with
  | nil => simp [Registers]
  | cons event rest ih =>
    rw [List.foldl_cons, ih (sound.step event), registers_cons, mem_pending_step_iff sound]
    grind

private theorem length_registrations_le_foldl (watch : Watch κ) (events : List (WatchEvent κ)) :
    watch.registrations.length ≤ (events.foldl step watch).registrations.length := by
  induction events generalizing watch with
  | nil => exact Nat.le_refl _
  | cons event rest ih => exact Nat.le_trans length_registrations_le_step (ih (watch.step event))

private theorem waiting_or_later (sound : watch.IsSound) {events : List (WatchEvent κ)} {notice : Nat × κ}
    (member : notice ∈ watch.allNotices events) :
    notice ∈ watch.monitor.pending ∨ watch.registrations.length ≤ notice.1 := by
  rcases (mem_allNotices_iff sound events).mp member with ⟨waits, -⟩ | ⟨before, -, -, -, place, -⟩
  · exact .inl waits.1
  · exact .inr (place ▸ length_registrations_le_foldl watch before)

/-- Whoever is told has registered, and afterwards nobody waits. -/
private theorem notices_over (sound : watch.IsSound) {notice : Nat × κ} (member : notice ∈ watch.notices event) :
    (watch.step event).monitor.pending = [] ∧ notice.1 < (watch.step event).registrations.length := by
  rcases mem_notices_iff.mp member with ⟨rfl, waits, -⟩ | ⟨rfl, there, place, dead⟩
  · exact ⟨rfl, sound.below notice waits⟩
  · rw [step_protect_dead there dead, ← place]
    exact ⟨sound.ended dead, by simp⟩

private theorem nodup_notices (sound : watch.IsSound) (event : WatchEvent κ) :
    ((watch.notices event).map (·.1)).Nodup := by
  cases event with
  | protect callback =>
    simp only [notices]
    split <;> simp
  | die => exact (List.filter_sublist.map _).nodup sound.distinct
  | _ => exact List.nodup_nil

private theorem nodup_allNotices (sound : watch.IsSound) (events : List (WatchEvent κ)) :
    ((watch.allNotices events).map (·.1)).Nodup := by
  induction events generalizing watch with
  | nil => exact List.nodup_nil
  | cons event rest ih =>
    rw [allNotices, List.map_append, List.nodup_append]
    refine ⟨nodup_notices sound event, ih (sound.step event), ?_⟩
    intro first isTold second isLater
    obtain ⟨notice, now, rfl⟩ := List.mem_map.mp isTold
    obtain ⟨other, after, rfl⟩ := List.mem_map.mp isLater
    obtain ⟨nobody, registered⟩ := notices_over sound now
    rcases waiting_or_later (sound.step event) after with waiting | beyond
    · rw [nobody] at waiting
      cases waiting
    · exact Nat.ne_of_lt (Nat.lt_of_lt_of_le registered beyond)

private theorem told_foldl (watch : Watch κ) (events : List (WatchEvent κ)) :
    (events.foldl step watch).told = watch.told ++ (watch.allNotices events).map (·.2) := by
  induction events generalizing watch with
  | nil => simp [allNotices]
  | cons event rest ih => rw [List.foldl_cons, ih, told_step, allNotices, List.map_append, List.append_assoc]

private theorem mem_released_foldl_iff {events : List (WatchEvent κ)} :
    callback ∈ (events.foldl step watch).released ↔ callback ∈ watch.released ∨ .release callback ∈ events := by
  induction events generalizing watch with
  | nil => simp
  | cons event rest ih => rw [List.foldl_cons, ih, mem_released_step_iff, List.mem_cons, or_assoc, eq_comm]

private theorem hasDied_foldl_iff {events : List (WatchEvent κ)} :
    (events.foldl step watch).monitor.hasDied = true ↔ watch.monitor.hasDied = true ∨ .die ∈ events := by
  induction events generalizing watch with
  | nil => simp
  | cons event rest ih => rw [List.foldl_cons, ih, hasDied_step_iff, List.mem_cons, or_assoc, eq_comm (a := event)]

theorem IsSound.foldl (sound : watch.IsSound) (events : List (WatchEvent κ)) :
    (events.foldl Watch.step watch).IsSound := by
  induction events generalizing watch with
  | nil => exact sound
  | cons event rest ih => exact ih (sound.step event)

end Runs

/-- Who is told of a death in the course of events, and who waits for one afterwards. -/
structure IsFair (events : List (WatchEvent κ)) : Prop where
  /-- What is told are notices to registrations, one at most to each, and one to each that is due. -/
  once : ∃ notices : List (Nat × κ), (run events).told = notices.map (·.2) ∧ (notices.map (·.1)).Nodup ∧
    ∀ number callback, (number, callback) ∈ notices ↔
      empty.Registers events number callback fun died after => died = true ∨ DiesWhile number callback after
  atOnce : ∀ callback, .die ∈ events → .release callback ∉ events →
    (run (events ++ [.protect callback])).told = (run events).told ++ [callback]
  waits : ∀ number callback, (number, callback) ∈ (run events).monitor.pending ↔
    empty.Registers events number callback fun died after => died = false ∧ .die ∉ after ∧ .drop number ∉ after
  apart : ∀ number, (run (events ++ [.drop number])).monitor.pending =
    (run events).monitor.pending.filter (·.1 != number)
  gone : ∀ callback, callback ∈ (run events).released ↔ .release callback ∈ events
  dead : (run events).monitor.hasDied = true ↔ .die ∈ events
  ended : .die ∈ events → (run events).monitor.pending = []

/-- Whatever happens, a registration is told of a death once if it is due, and otherwise never. -/
theorem deaths_are_told_once (events : List (WatchEvent κ)) : IsFair events := by
  have sound : (run events).IsSound := isSound_empty.foldl events
  have after : ∀ event, run (events ++ [event]) = (run events).step event := by
    intro event
    rw [run, List.foldl_append]
    rfl
  have gone : ∀ callback, callback ∈ (run events).released ↔ .release callback ∈ events := by
    intro callback
    rw [run, mem_released_foldl_iff]
    simp [empty]
  have dead : (run events).monitor.hasDied = true ↔ .die ∈ events := by
    rw [run, hasDied_foldl_iff]
    simp [empty, Monitor.new]
  refine ⟨⟨empty.allNotices events, ?_, nodup_allNotices isSound_empty events, ?_⟩, ?_, ?_, ?_, gone, dead, ?_⟩
  · rw [run, told_foldl]
    rfl
  · intro number callback
    rw [mem_allNotices_iff isSound_empty]
    simp [empty, Monitor.new]
  · intro callback died there
    rw [after, step_protect_dead (mt (gone callback).mp there) (dead.mpr died)]
  · intro number callback
    rw [run, mem_pending_foldl_iff isSound_empty]
    simp [empty, Monitor.new]
  · intro number
    rw [after, sound.pending_drop]
  · exact fun died => sound.ended (dead.mpr died)

/-- A callback that is registered twice and dropped once is told once, and a second death tells nobody. -/
example : (run [.protect 'a', .protect 'a', .drop 0, .die, .die, .protect 'b']).told = ['a', 'b'] := by decide

end Watch

end NeuralDevice
