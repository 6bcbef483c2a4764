import Mathlib.Computability.Language
import NeuralDevice.Proofs.Recovery.Stages

/-!
What a protected call asks of others. Errands are noted beside the state, and noting them changes nothing else.
The notes of a call are a word of a language, so how often something is asked for is read off that language.
-/

namespace NeuralDevice

variable {τ ι ε ω ω' α β : Type}

/-- The words of one errand that is given by any index. -/
def oneOf (errand : ι → τ) : Language τ := {word | ∃ index, word = [errand index]}

namespace Action

/-- The action, noted as an errand. -/
def noting (errand : τ) (action : Action ω α) : Action (List τ × ω) α :=
  Action.ofStep fun (notes, state) =>
    let (result, later) := action.apply state
    (result, (notes ++ [errand], later))

/-- `noted` does what `plain` does and notes a word of `errands`; `place` puts notes beside a state. -/
def Notes (place : List τ → ω → ω') (errands : Language τ) (plain : Action ω α) (noted : Action ω' α) : Prop :=
  ∀ notes state, ∃ word ∈ errands,
    noted.apply (place notes state) = ((plain.apply state).1, place (notes ++ word) (plain.apply state).2)

/-- Notes beside the second part of a state. -/
def within (place : List τ → ω → ω') (notes : List τ) (state : β × ω) : β × ω' :=
  (state.1, place notes state.2)

variable {place : List τ → ω → ω'} {errands others : Language τ} {plain : Action ω α} {noted : Action ω' α}

theorem notes_noting (errand : ι → τ) (index : ι) (action : Action ω α) :
    Notes Prod.mk (oneOf errand) action (action.noting (errand index)) :=
  fun _ _ => ⟨[errand index], ⟨index, rfl⟩, rfl⟩

theorem Notes.orNothing (done : Notes place errands plain noted) : Notes place (1 + errands) plain noted := by
  intro notes state
  obtain ⟨word, member, ran⟩ := done notes state
  exact ⟨word, .inr member, ran⟩

theorem notes_nothing (ran : ∀ notes state, noted.apply (place notes state) =
    ((plain.apply state).1, place notes (plain.apply state).2)) : Notes place (1 + errands) plain noted := by
  intro notes state
  exact ⟨[], .inl rfl, by rw [List.append_nil, ran]⟩

theorem Notes.onSecond (done : Notes place errands plain noted) :
    Notes (within place) errands (plain.onSecond : Action (β × ω) α) noted.onSecond := by
  intro notes state
  obtain ⟨word, member, ran⟩ := done notes state.2
  refine ⟨word, member, ?_⟩
  rw [apply_onSecond, within, ran]
  rfl

theorem Notes.attempt (done : Notes place errands plain noted) :
    Notes place errands plain.attempt noted.attempt := by
  intro notes state
  obtain ⟨word, member, ran⟩ := done notes state
  refine ⟨word, member, ?_⟩
  rw [apply_attempt, apply_attempt, ran]

theorem Notes.bind {next : α → Action ω β} {next' : α → Action ω' β} (first : Notes place errands plain noted)
    (each : ∀ value, Notes place (1 + others) (next value) (next' value)) :
    Notes place (errands * (1 + others)) (plain >>= next) (noted >>= next') := by
  intro notes state
  obtain ⟨word, member, ran⟩ := first notes state
  rcases done : plain.apply state with ⟨error | value, middle⟩
  · rw [done] at ran
    refine ⟨word ++ [], Language.append_mem_mul member (.inl rfl), ?_⟩
    rw [apply_bind_error ran, apply_bind_error done, List.append_nil]
  · rw [done] at ran
    obtain ⟨more, listed, followed⟩ := each value (notes ++ word) middle
    refine ⟨word ++ more, Language.append_mem_mul member listed, ?_⟩
    rw [apply_bind_ok ran, apply_bind_ok done, followed, List.append_assoc]

end Action

/-- Every word holds at most `bound` of the errands that are counted. -/
def AtMost (bound : Nat) (counted : τ → Bool) (errands : Language τ) : Prop :=
  ∀ word ∈ errands, word.countP counted ≤ bound

section Counting

variable {counted : τ → Bool} {errands others : Language τ} {bound bound' : Nat}

theorem atMost_oneOf {errand : ι → τ} (each : ∀ index, counted (errand index) = true → 1 ≤ bound) :
    AtMost bound counted (oneOf errand) := by
  rintro _ ⟨index, rfl⟩
  cases found : counted (errand index) with
  | true => simpa [found] using each index found
  | false => simp [found]

theorem AtMost.orNothing (within : AtMost bound counted errands) : AtMost bound counted (1 + errands) := by
  rintro word (rfl | member)
  · exact Nat.zero_le bound
  · exact within word member

theorem AtMost.mul (first : AtMost bound counted errands) (second : AtMost bound' counted others) :
    AtMost (bound + bound') counted (errands * others) := by
  rintro _ ⟨word, member, more, listed, rfl⟩
  show (word ++ more).countP counted ≤ bound + bound'
  rw [List.countP_append]
  exact Nat.add_le_add (first word member) (second more listed)

end Counting

open NeuralDevice.Action

namespace Held

/-- What a protected call asks for: an endpoint, if none is bound; a call of it; and if it is dead another endpoint,
if none is bound by now, and one more call. -/
def protecting (made called : Language τ) : Language τ :=
  (1 + made) * (1 + called * (1 + (1 + made) * (1 + called)))

theorem nil_mem_protecting {made called : Language τ} : [] ∈ protecting made called :=
  ⟨[], .inl rfl, [], .inl rfl, rfl⟩

/-- Each of the two endpoints costs what making one costs, and each of the two calls what a call costs. -/
theorem atMost_protecting {counted : τ → Bool} {made called : Language τ} {bound bound' : Nat}
    (makes : AtMost bound counted made) (calls : AtMost bound' counted called) :
    AtMost (bound + (bound' + (bound + bound'))) counted (protecting made called) := by
  have second : AtMost (bound + bound') counted ((1 + made) * (1 + called)) :=
    makes.orNothing.mul calls.orNothing
  have first : AtMost (bound' + (bound + bound')) counted (called * (1 + (1 + made) * (1 + called))) :=
    calls.mul second.orNothing
  exact makes.orNothing.mul first.orNothing

variable {place : List τ → ω → ω'} {made called : Language τ} {blocking : Bool} {factory : Factory ε ω}
  {factory' : Factory ε ω'}

theorem apply_create (factory : Factory ε ω) (state : ω) :
    (Binding.create factory blocking).apply state =
      (((factory blocking).apply state).1.map .bound, ((factory blocking).apply state).2) := by
  unfold Binding.create
  rw [apply_ofStep]
  simp only [apply_getOrCreate_of_none (show Binding.unbound.current? = none from rfl), apply_rebind]
  cases ((factory blocking).apply state).1 <;> rfl

section Handles

variable (makes : Notes place made (factory blocking) (factory' blocking))

include makes

theorem rebind_notes : Notes (within place) made (rebind factory blocking) (rebind factory' blocking) := by
  intro notes state
  obtain ⟨word, member, ran⟩ := makes notes state.2
  refine ⟨word, member, ?_⟩
  show (rebind factory' blocking).apply (state.1, place notes state.2) = _
  rw [apply_rebind, apply_rebind, ran]
  rfl

private theorem getOrCreate_notes :
    Notes (within place) (1 + made) (getOrCreate factory blocking) (getOrCreate factory' blocking) := by
  rintro notes ⟨binding, state⟩
  cases binding with
  | bound endpoint => exact ⟨[], .inl rfl, by rw [List.append_nil]; rfl⟩
  | unbound | dead =>
    obtain ⟨word, member, ran⟩ := rebind_notes makes notes (_, state)
    exact ⟨word, .inr member, ran⟩

theorem create_notes : Notes place made (Binding.create factory blocking) (Binding.create factory' blocking) := by
  intro notes state
  obtain ⟨word, member, ran⟩ := makes notes state
  exact ⟨word, member, by rw [apply_create, apply_create, ran]⟩

variable [Identified ε]

private theorem recover_notes (failing : ε) :
    Notes (within place) (1 + made) (recover factory failing blocking) (recover factory' failing blocking) := by
  rintro notes ⟨binding, state⟩
  by_cases other : ∃ current, binding = .bound current ∧
    Identified.identity current ≠ Identified.identity failing
  · obtain ⟨current, rfl, apart⟩ := other
    refine ⟨[], .inl rfl, ?_⟩
    show (recover factory' failing blocking).apply (.bound current, place notes state) = _
    rw [apply_recover_of_other apart, apply_recover_of_other apart, List.append_nil]
    rfl
  · have same : ∀ current, binding = .bound current →
        Identified.identity current = Identified.identity failing := by
      intro current bound
      by_contra apart
      exact other ⟨current, bound, apart⟩
    obtain ⟨word, member, ran⟩ := rebind_notes makes notes (binding, state)
    refine ⟨word, .inr member, ?_⟩
    show (recover factory' failing blocking).apply (binding, place notes state) = _
    rw [apply_recover_of_same same, apply_recover_of_same same]
    exact ran

end Handles

variable [Identified ε] {call : ε → Action ω α} {call' : ε → Action ω' α}

private theorem retry_notes (calls : ∀ endpoint, Notes place called (call endpoint) (call' endpoint)) (recovered : ε) :
    Notes (within place) called (retry recovered call) (retry recovered call') := by
  have once : called = called * (1 + 0) := by rw [add_zero, mul_one]
  rw [once]
  refine (calls recovered).onSecond.attempt.bind fun reply => ?_
  cases reply with
  | ok value => exact notes_nothing fun _ _ => rfl
  | error error =>
    refine notes_nothing fun notes state => ?_
    cases dead : error.isDeadObject <;> simp only [dead] <;> rfl

/-- The notes of a protected call are what it asks for. -/
theorem protect_notes (makes : Notes place made (factory blocking) (factory' blocking))
    (calls : ∀ endpoint, Notes place called (call endpoint) (call' endpoint)) :
    Notes (within place) (protecting made called) (protect factory blocking call)
      (protect factory' blocking call') := by
  refine (getOrCreate_notes makes).bind fun endpoint => .orNothing ?_
  refine (calls endpoint).onSecond.attempt.bind fun reply => ?_
  cases reply with
  | ok value => exact notes_nothing fun _ _ => rfl
  | error error =>
    simp only [Action.throw_bind]
    split
    · exact notes_nothing fun _ _ => rfl
    · have recovers := (recover_notes makes endpoint).bind fun recovered =>
        (retry_notes calls recovered).orNothing
      exact recovers.orNothing

end Held

end NeuralDevice
