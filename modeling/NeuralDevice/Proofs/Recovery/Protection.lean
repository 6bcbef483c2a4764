import NeuralDevice.Proofs.Recovery.Concurrency

/-!
What comes of a protected call that nothing interrupts. What factories made and endpoints answered is recorded
beside the state, in order. The record alone says what the caller gets and what the handle is bound to afterwards.
-/

namespace NeuralDevice

open NeuralDevice.Action

variable {ε ω α β : Type}

/-- Something that a handle asks for, with what came of it. -/
inductive Event (ε α : Type) where
  | made (offer : Result ε)
  | called (endpoint : ε) (reply : Result α)

namespace Event

/-- What a factory made, if the event is that it was asked. -/
def offer? : Event ε α → Option (Result ε)
  | .made offer => some offer
  | .called _ _ => none

end Event

namespace Action

/-- The action, with what came of it recorded as an event. -/
def recording {τ : Type} (event : Result β → τ) (action : Action ω β) : Action (List τ × ω) β :=
  ofStep fun (events, state) =>
    let (result, later) := action.apply state
    (result, (events ++ [event result], later))

theorem apply_recording {τ : Type} (event : Result β → τ) {action : Action ω β} {before after : ω}
    {result : Result β} (done : action.apply before = (result, after)) (events : List τ) :
    (action.recording event).apply (events, before) = (result, (events ++ [event result], after)) := by
  simp only [recording, apply_ofStep, done]

/-- `recorded` does what `plain` does on a handle, and the events it adds to the record are those that `allowed`
lets lead to the result and to what is bound afterwards. -/
def Records (allowed : Binding ε → List (Event ε α) → Result β → Binding ε → Prop)
    (plain : Action (Held ε ω) β) (recorded : Action (Held ε (List (Event ε α) × ω)) β) : Prop :=
  ∀ before events state, ∃ more result after later,
    plain.apply (before, state) = (result, (after, later)) ∧
      recorded.apply (before, (events, state)) = (result, (after, (events ++ more, later))) ∧
      allowed before more result after

end Action

def Factory.recorded (factory : Factory ε ω) : Factory ε (List (Event ε α) × ω) :=
  fun blocking => (factory blocking).recording .made

def recordedCall (call : ε → Action ω α) (endpoint : ε) : Action (List (Event ε α) × ω) α :=
  (call endpoint).recording (.called endpoint)

/-- What asking a handle for an endpoint leads to: the bound one is given, and only without it a factory is asked. -/
inductive Obtains : Binding ε → List (Event ε α) → Result ε → Binding ε → Prop
  | bound (endpoint : ε) : Obtains (.bound endpoint) [] (.ok endpoint) (.bound endpoint)
  | made {before : Binding ε} (free : before.current? = none) (offer : Result ε) :
    Obtains before [.made offer] offer (Held.bindingOf offer)

/-- What a protected call leads to. Without an endpoint nothing is called. An endpoint that is not found dead is the
only one called. One that is found dead is to be replaced, and only its replacement is called after it. -/
inductive Protection (before : Binding ε) : List (Event ε α) → Result α → Binding ε → Prop
  | unobtained {events : List (Event ε α)} {after : Binding ε} {error : Error}
    (obtains : Obtains before events (.error error) after) :
    Protection before events (.error error) .unbound
  | answered {events : List (Event ε α)} {after : Binding ε} {endpoint : ε} {reply : Result α}
    (obtains : Obtains before events (.ok endpoint) after) (alive : Result.isDead reply = false) :
    Protection before (events ++ [.called endpoint reply]) reply (.bound endpoint)
  | unrecovered {events : List (Event ε α)} {after : Binding ε} {endpoint : ε} {reply : Result α}
    (obtains : Obtains before events (.ok endpoint) after) (dead : Result.isDead reply = true) (error : Error) :
    Protection before (events ++ [.called endpoint reply, .made (.error error)]) (.error error) .unbound
  | retried {events : List (Event ε α)} {after : Binding ε} {endpoint : ε} {reply : Result α}
    (obtains : Obtains before events (.ok endpoint) after) (dead : Result.isDead reply = true) (recovered : ε)
    (last : Result α) :
    Protection before (events ++ [.called endpoint reply, .made (.ok recovered), .called recovered last]) last
      (if Result.isDead last then .dead else .bound recovered)

private theorem Obtains.after_eq {before after : Binding ε} {events : List (Event ε α)} {found : Result ε}
    (obtains : Obtains before events found after) : after = Held.bindingOf found := by
  cases obtains with
  | bound endpoint => rfl
  | made free offer => rfl

theorem Obtains.length_offers_le {before after : Binding ε} {events : List (Event ε α)} {found : Result ε}
    (obtains : Obtains before events found after) : (events.filterMap Event.offer?).length ≤ 1 := by
  cases obtains with
  | bound endpoint => exact Nat.zero_le 1
  | made free offer => exact Nat.le_refl 1

theorem Protection.length_offers_le {before after : Binding ε} {events : List (Event ε α)} {result : Result α}
    (protection : Protection before events result after) : (events.filterMap Event.offer?).length ≤ 2 := by
  cases protection with
  | unobtained obtains => exact Nat.le_succ_of_le obtains.length_offers_le
  | answered obtains alive =>
    rw [List.filterMap_append, List.length_append]
    exact Nat.le_succ_of_le obtains.length_offers_le
  | unrecovered obtains dead error =>
    rw [List.filterMap_append, List.length_append]
    exact Nat.succ_le_succ obtains.length_offers_le
  | retried obtains dead recovered last =>
    rw [List.filterMap_append, List.length_append]
    exact Nat.succ_le_succ obtains.length_offers_le

namespace Held

variable {factory : Factory ε ω} {blocking : Bool} {state later : ω}

theorem getOrCreate_records (factory : Factory ε ω) (blocking : Bool) :
    Records (α := α) Obtains (getOrCreate factory blocking) (getOrCreate factory.recorded blocking) := by
  intro before events state
  cases held : before.current? with
  | some endpoint =>
    cases before with
    | unbound | dead => cases held
    | bound current =>
      refine ⟨[], .ok current, .bound current, state, rfl, ?_, .bound current⟩
      rw [List.append_nil]
      rfl
  | none =>
    rcases made : (factory blocking).apply state with ⟨offer, later⟩
    have noted : (factory.recorded blocking).apply (events, state) =
        (offer, (events ++ [.made (α := α) offer], later)) := apply_recording _ made events
    refine ⟨[.made offer], offer, bindingOf offer, later, ?_, ?_, .made held offer⟩
    · rw [apply_getOrCreate_of_none held, apply_rebind, made]
    · rw [apply_getOrCreate_of_none held, apply_rebind, noted]

variable [Identified ε] {call : ε → Action ω α} {binding : Binding ε} {endpoint : ε} {reply : Result α}

theorem apply_recover_bound {offer : Result ε} (made : (factory blocking).apply state = (offer, later)) :
    (recover factory endpoint blocking).apply (.bound endpoint, state) = (offer, (bindingOf offer, later)) := by
  have same : ∀ current, Binding.bound endpoint = .bound current →
      Identified.identity current = Identified.identity endpoint := by
    rintro current ⟨⟩
    rfl
  rw [apply_recover_of_same same, apply_rebind, made]

private theorem apply_retry (replied : (call endpoint).apply state = (reply, later)) :
    (retry endpoint call).apply (binding, state) =
      (reply, (if Result.isDead reply then binding.markDead endpoint else binding, later)) := by
  rw [retry, apply_bind_ok (apply_attempt _ _), apply_onSecond, replied]
  cases reply with
  | ok value => rfl
  | error error => cases dead : error.isDeadObject <;> simp only [Result.isDead, dead] <;> rfl

section Protecting

variable {held : Held ε ω}
  (entered : (getOrCreate factory blocking).apply held = (.ok endpoint, (.bound endpoint, state)))
  (replied : (call endpoint).apply state = (reply, later))

include entered replied

theorem apply_protect_of_alive (alive : Result.isDead reply = false) :
    (protect factory blocking call).apply held = (reply, (.bound endpoint, later)) := by
  rw [protect, apply_bind_ok entered, apply_bind_ok (apply_attempt _ _), apply_onSecond, replied]
  cases reply with
  | ok value => rfl
  | error error =>
    have other : error.isDeadObject = false := alive
    simp only [other]
    rfl

variable (dead : Result.isDead reply = true)

include dead

theorem apply_protect_of_dead :
    (protect factory blocking call).apply held =
      (recover factory endpoint blocking >>= fun recovered => retry recovered call).apply
        (.bound endpoint, later) := by
  rw [protect, apply_bind_ok entered, apply_bind_ok (apply_attempt _ _), apply_onSecond, replied]
  cases reply with
  | ok value => cases dead
  | error error =>
    have found : error.isDeadObject = true := dead
    simp only [found]
    rfl

variable {after final : ω}

theorem apply_protect_of_unrecovered {error : Error}
    (made : (factory blocking).apply later = (.error error, after)) :
    (protect factory blocking call).apply held = (.error error, (.unbound, after)) := by
  rw [apply_protect_of_dead entered replied dead]
  exact apply_bind_error (apply_recover_bound made)

theorem apply_protect_of_recovered {recovered : ε} {last : Result α}
    (made : (factory blocking).apply later = (.ok recovered, after))
    (again : (call recovered).apply after = (last, final)) :
    (protect factory blocking call).apply held =
      (last, (if Result.isDead last then .dead else .bound recovered, final)) := by
  have given : (Binding.bound recovered).markDead recovered = .dead := if_pos rfl
  rw [apply_protect_of_dead entered replied dead, apply_bind_ok (apply_recover_bound made), bindingOf,
    apply_retry again, given]

end Protecting

private theorem protect_records (factory : Factory ε ω) (blocking : Bool) (call : ε → Action ω α) :
    Records Protection (protect factory blocking call)
      (protect factory.recorded blocking (recordedCall call)) := by
  intro before events state
  obtain ⟨first, found, bound, middle, plain, recorded, obtains⟩ :=
    getOrCreate_records (α := α) factory blocking before events state
  obtain rfl := obtains.after_eq
  cases found with
  | error error =>
    exact ⟨first, .error error, .unbound, middle, apply_bind_error plain, apply_bind_error recorded,
      .unobtained obtains⟩
  | ok endpoint =>
    rcases replied : (call endpoint).apply middle with ⟨reply, later⟩
    have noted := apply_recording (Event.called endpoint) replied (events ++ first)
    cases vital : Result.isDead reply with
    | false =>
      refine ⟨_, reply, .bound endpoint, later, apply_protect_of_alive plain replied vital, ?_,
        .answered obtains vital⟩
      rw [← List.append_assoc]
      exact apply_protect_of_alive recorded noted vital
    | true =>
      rcases made : (factory blocking).apply later with ⟨offer, after⟩
      have offered := apply_recording (Event.made (α := α)) made
        (events ++ first ++ [.called endpoint reply])
      cases offer with
      | error error =>
        refine ⟨_, .error error, .unbound, after, apply_protect_of_unrecovered plain replied vital made, ?_,
          .unrecovered obtains vital error⟩
        rw [apply_protect_of_unrecovered recorded noted vital offered]
        simp only [List.append_assoc, List.cons_append, List.nil_append]
      | ok recovered =>
        rcases again : (call recovered).apply after with ⟨last, final⟩
        have answered := apply_recording (Event.called recovered) again
          (events ++ first ++ [.called endpoint reply] ++ [.made (.ok recovered)])
        refine ⟨_, last, _, final, apply_protect_of_recovered plain replied vital made again, ?_,
          .retried obtains vital recovered last⟩
        rw [apply_protect_of_recovered recorded noted vital offered answered]
        simp only [List.append_assoc, List.cons_append, List.nil_append]

end Held

/-- A protected call is what `Protection` says, whatever is bound, whatever factories make and whatever endpoints
answer, and a factory is asked at most twice for it. Afterwards, as ever, asking for the endpoint is what `Obtains`
says: a factory is asked exactly if none is bound. -/
theorem protected_calls_follow_outcomes [Identified ε] (factory : Factory ε ω) (blocking : Bool)
    (call : ε → Action ω α) :
    Records Protection (Held.protect factory blocking call)
        (Held.protect factory.recorded blocking (recordedCall call)) ∧
      (∀ (before after : Binding ε) (events : List (Event ε α)) (result : Result α),
        Protection before events result after → (events.filterMap Event.offer?).length ≤ 2) ∧
      Records (α := α) Obtains (Held.getOrCreate factory blocking)
        (Held.getOrCreate factory.recorded blocking) :=
  ⟨Held.protect_records factory blocking call, fun _ _ _ _ => Protection.length_offers_le,
    Held.getOrCreate_records factory blocking⟩

def numbered : Factory Nat Nat := fun _ => .ofStep fun next => (.ok next, next + 1)

/-- A call that all endpoints but the first answer. -/
def answeredAfterFirst (endpoint : Nat) : Action Nat Nat :=
  .ofStep fun next => (if endpoint = 0 then .error (.deadObject "") else .ok endpoint, next)

/-- The first endpoint dies, and the second one answers. -/
theorem second_endpoint_answers :
    Protection .unbound
      [.made (.ok 0), .called 0 (.error (.deadObject "")), .made (.ok 1), .called 1 (.ok 1)] (.ok 1)
      (.bound 1) := by
  obtain ⟨protects, _⟩ := protected_calls_follow_outcomes numbered true answeredAfterFirst
  obtain ⟨more, result, after, later, _, recorded, protection⟩ := protects .unbound [] 0
  cases recorded
  exact protection

end NeuralDevice
