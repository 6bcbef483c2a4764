import NeuralDevice.Proofs.Recovery.Atomicity
import NeuralDevice.Proofs.Recovery.Errand
import NeuralDevice.Proofs.Relocation.Model
import NeuralDevice.Proofs.Remote.Answer
import NeuralDevice.Recovery.Device

/-!
Preparing a model anew. Whenever a model is handed to a device again, it is the copy that was taken when it was
first prepared, with the settings from then; and one use of its prepared form costs a few of these attempts only.
-/

namespace NeuralDevice

open NeuralDevice.Action

/-- What reconnecting devices are made of: how to connect to one, how to copy a model out of host memory, and how
a device prepares a kept model. -/
structure Fleet (δ π ω : Type) where
  connect : Factory δ ω
  copy : Model → Action ω Model
  prepare : δ → Repreparable → Action ω π

/-- Something that a device, a prepared model or their makers are asked for. -/
inductive Errand (δ π : Type) where
  | connect (blocking : Bool)
  | copy (model : Model)
  | prepare (device : δ) (handed : Repreparable)
  | act (prepared : π)

namespace Errand

variable {δ π : Type}

inductive Kind where
  | connection
  | copy
  | preparation
  | act
  deriving DecidableEq

def kind : Errand δ π → Kind
  | .connect _ => .connection
  | .copy _ => .copy
  | .prepare _ _ => .preparation
  | .act _ => .act

def isOf (kind : Kind) (errand : Errand δ π) : Bool := errand.kind = kind

/-- Whether something other than what was kept is handed over. -/
def strays (kept : Repreparable) : Errand δ π → Bool
  | .prepare _ handed => handed != kept
  | .connect _ | .copy _ | .act _ => false

def connecting : Language (Errand δ π) := oneOf .connect

/-- What it takes a device to prepare a kept model. -/
def preparing (kept : Repreparable) : Language (Errand δ π) := oneOf (.prepare · kept)

def acting : Language (Errand δ π) := oneOf .act

/-- What it takes to prepare a kept model on a device that is reconnected if need be. -/
def renewing (kept : Repreparable) : Language (Errand δ π) := Held.protecting connecting (preparing kept)

/-- What it takes to act on a prepared form that is renewed if need be. -/
def serving (kept : Repreparable) : Language (Errand δ π) := Held.protecting (renewing kept) acting

/-- What it takes to prepare a model for the first time. -/
def starting (kept : Repreparable) : Language (Errand δ π) := oneOf .copy * (1 + renewing kept)

/-- How many errands of a kind it takes to prepare a model for the first time. -/
def firstBudget : Kind → Nat
  | .connection => 2
  | .copy => 1
  | .preparation => 2
  | .act => 0

/-- How many errands of a kind it takes to act on a prepared form once. -/
def useBudget : Kind → Nat
  | .connection => 4
  | .copy => 0
  | .preparation => 4
  | .act => 2

/-- Only what was kept is handed over, and there are not too many errands of a kind. -/
structure AreFaithful (kept : Repreparable) (budget : Kind → Nat) (errands : List (Errand δ π)) : Prop where
  faithful : ∀ device handed, .prepare device handed ∈ errands → handed = kept
  bounded : ∀ kind, errands.countP (isOf kind) ≤ budget kind

section Bounds

/-- Preparing a model anew takes two devices at most, and each of them is asked once. -/
def renewalBudget : Kind → Nat
  | .connection | .preparation => 2
  | .copy | .act => 0

variable (kept : Repreparable)

theorem atMost_oneOf_kind {ι : Type} {own : Kind} (errand : ι → Errand δ π)
    (named : ∀ index, (errand index).kind = own) (kind : Kind) :
    AtMost (if own = kind then 1 else 0) (isOf kind) (oneOf errand) := by
  refine atMost_oneOf fun index counted => ?_
  have same : own = kind := (named index).symm.trans (of_decide_eq_true counted)
  rw [if_pos same]

theorem atMost_renewing (kind : Kind) :
    AtMost (renewalBudget kind) (isOf kind) (renewing kept : Language (Errand δ π)) := by
  have spent := Held.atMost_protecting (atMost_oneOf_kind (.connect : Bool → Errand δ π) (fun _ => rfl) kind)
    (atMost_oneOf_kind (.prepare · kept : δ → Errand δ π) (fun _ => rfl) kind)
  cases kind <;> exact spent

private theorem atMost_serving (kind : Kind) :
    AtMost (useBudget kind) (isOf kind) (serving kept : Language (Errand δ π)) := by
  have spent := Held.atMost_protecting (atMost_renewing kept kind)
    (atMost_oneOf_kind (.act : π → Errand δ π) (fun _ => rfl) kind)
  cases kind <;> exact spent

private theorem atMost_starting (kind : Kind) :
    AtMost (firstBudget kind) (isOf kind) (starting kept : Language (Errand δ π)) := by
  have spent := (atMost_oneOf_kind (.copy : Model → Errand δ π) (fun _ => rfl) kind).mul
    (atMost_renewing kept kind).orNothing
  cases kind <;> exact spent

/-! Nothing but what was kept is handed over. -/

theorem atMost_oneOf_strays {ι : Type} (errand : ι → Errand δ π)
    (own : ∀ index, (errand index).strays kept = false) : AtMost 0 (strays kept) (oneOf errand) :=
  atMost_oneOf fun index counted => absurd counted (by simp [own index])

theorem renewing_keeps : AtMost 0 (strays kept) (renewing kept : Language (Errand δ π)) :=
  Held.atMost_protecting (atMost_oneOf_strays kept .connect fun _ => rfl)
    (atMost_oneOf_strays kept (.prepare · kept) fun _ => by simp [strays])

private theorem serving_keeps : AtMost 0 (strays kept) (serving kept : Language (Errand δ π)) :=
  Held.atMost_protecting (renewing_keeps kept) (atMost_oneOf_strays kept .act fun _ => rfl)

private theorem starting_keeps : AtMost 0 (strays kept) (starting kept : Language (Errand δ π)) :=
  (atMost_oneOf_strays kept .copy fun _ => rfl).mul (renewing_keeps kept).orNothing

variable {kept} {errands : List (Errand δ π)}

theorem areFaithful_of_mem {language : Language (Errand δ π)} {budget : Kind → Nat}
    (true : AtMost 0 (strays kept) language) (spent : ∀ kind, AtMost (budget kind) (isOf kind) language)
    (member : errands ∈ language) : AreFaithful kept budget errands := by
  refine ⟨fun device handed listed => ?_, fun kind => spent kind errands member⟩
  by_contra other
  have counted : 0 < errands.countP (strays kept) :=
    List.countP_pos_iff.mpr ⟨_, listed, by simpa [strays] using other⟩
  exact absurd (true errands member) (Nat.not_le_of_lt counted)

end Bounds

end Errand

namespace Fleet

variable {δ π ω α : Type}

section Recovering

variable [Identified δ]

/-- Prepares a kept model on a device that is reconnected if need be. -/
def prepareAgain (fleet : Fleet δ π ω) (kept : Repreparable) : Factory π (Held δ ω) := fun blocking =>
  Held.protect fleet.connect blocking fun device => fleet.prepare device kept

/-- Prepares a copy of a model and keeps it. -/
def prepareModel (fleet : Fleet δ π ω) (model : Model) (settings : PreparationSettings) :
    Action (Held δ ω) (Repreparable × Binding π) := do
  let relocated ← Action.onSecond (fleet.copy model)
  let kept : Repreparable := ⟨relocated, settings⟩
  let binding ← Binding.create (fleet.prepareAgain kept) true
  pure (kept, binding)

/-- Acts on a prepared form that is renewed if need be. -/
def onPrepared [Identified π] (fleet : Fleet δ π ω) (kept : Repreparable) (act : π → Action ω α) :
    Action (Held π (Held δ ω)) α :=
  Held.protectWaiting (fleet.prepareAgain kept) fun prepared => Action.onSecond (act prepared)

end Recovering

def ofDevices {σ : Type} (devices : Factory (Device σ) (World σ)) :
    Fleet (Device σ) (PreparedModel σ) (World σ) :=
  ⟨devices, World.relocateModel, fun device kept => device.prepareModel kept.model kept.settings⟩

private theorem prepareModel_ofDevices {σ : Type} (devices : Factory (Device σ) (World σ)) :
    (ofDevices devices).prepareModel = Reconnecting.prepareModel devices := rfl

private theorem onPrepared_ofDevices {σ : Type} (devices : Factory (Device σ) (World σ)) (kept : Repreparable)
    (act : PreparedModel σ → Action (World σ) α) :
    (ofDevices devices).onPrepared kept act = Reconnecting.onPrepared devices kept act := rfl

def noted (fleet : Fleet δ π ω) : Fleet δ π (List (Errand δ π) × ω) where
  connect blocking := (fleet.connect blocking).noting (.connect blocking)
  copy model := (fleet.copy model).noting (.copy model)
  prepare device kept := (fleet.prepare device kept).noting (.prepare device kept)

variable [Identified δ] (fleet : Fleet δ π ω) (kept : Repreparable)

theorem prepareAgain_notes (blocking : Bool) :
    Notes (within Prod.mk) (Errand.renewing kept) (fleet.prepareAgain kept blocking)
      (fleet.noted.prepareAgain kept blocking) :=
  Held.protect_notes (notes_noting Errand.connect blocking _) fun device =>
    notes_noting (Errand.prepare · kept) device _

private theorem onPrepared_notes [Identified π] (act : π → Action ω α) :
    Notes (within (within Prod.mk)) (Errand.serving kept) (fleet.onPrepared kept act)
      (fleet.noted.onPrepared kept fun prepared => (act prepared).noting (.act prepared)) :=
  Held.protect_notes (fleet.prepareAgain_notes kept true) fun prepared =>
    (notes_noting Errand.act prepared _).onSecond

variable {kept}

private theorem prepareModel_notes {model : Model} {settings : PreparationSettings} {before after : Held δ ω}
    {binding : Binding π} (done : (fleet.prepareModel model settings).apply before = (.ok (kept, binding), after))
    (notes : List (Errand δ π)) :
    kept.settings = settings ∧ (∃ later, (fleet.copy model).apply before.2 = (.ok kept.model, later)) ∧
      ∃ word ∈ Errand.starting kept, (fleet.noted.prepareModel model settings).apply (within Prod.mk notes before) =
        (.ok (kept, binding), within Prod.mk (notes ++ word) after) := by
  obtain ⟨relocated, middle, copied, rest⟩ := apply_bind_eq_ok_iff.mp done
  obtain ⟨bound, last, created, ended⟩ := apply_bind_eq_ok_iff.mp rest
  cases ended
  refine ⟨rfl, ⟨middle.2, ?_⟩, ?_⟩
  · rw [apply_onSecond] at copied
    obtain ⟨relocates, rfl⟩ := Prod.mk.inj copied
    rw [← relocates]
  · have copies : Notes Prod.mk (oneOf (Errand.copy : Model → Errand δ π)) (fleet.copy model)
        (fleet.noted.copy model) := notes_noting Errand.copy model _
    have renews : Notes (within Prod.mk) (Errand.renewing ⟨relocated, settings⟩)
        (Binding.create (fleet.prepareAgain ⟨relocated, settings⟩) true)
        (Binding.create (fleet.noted.prepareAgain ⟨relocated, settings⟩) true) :=
      Held.create_notes (fleet.prepareAgain_notes _ true)
    obtain ⟨first, member, ran⟩ := copies.onSecond notes before
    obtain ⟨second, listed, followed⟩ := renews (notes ++ first) middle
    rw [copied] at ran
    rw [created] at followed
    refine ⟨first ++ second, Language.append_mem_mul member (.inr listed), ?_⟩
    rw [prepareModel, apply_bind_ok ran, apply_bind_ok followed, List.append_assoc]
    rfl

end Fleet

variable {σ : Type}

/-- A prepared form that is renewed if need be, on a device that is reconnected if need be. -/
abbrev Renewing (σ : Type) := Held (PreparedModel σ) (Reconnecting σ)

/-- What happens to a prepared form: somebody acts on it, or something else changes. Endpoints die between two acts,
others use the device, and the caller writes to its buffers. -/
inductive Turn (σ : Type) : Type 1 where
  | use {α : Type} (act : PreparedModel σ → Action (World σ) α)
  | change (next : Renewing σ → Renewing σ)

namespace Turn

variable (devices : Factory (Device σ) (World σ)) (kept : Repreparable)

def after : Turn σ → Renewing σ → Renewing σ
  | .use act, state => ((Reconnecting.onPrepared devices kept act).apply state).2
  | .change next, state => next state

def record : Turn σ → Renewing σ → List (Errand (Device σ) (PreparedModel σ)) × Renewing σ
  | .use act, state =>
    let fleet := (Fleet.ofDevices devices).noted
    let (prepared, device, errands, world) :=
      ((fleet.onPrepared kept fun prepared => (act prepared).noting (.act prepared)).apply
        (within (within Prod.mk) [] state)).2
    (errands, prepared, device, world)
  | .change next, state => ([], next state)

/-- Turns in order, with the errands of each. -/
def recordAll : List (Turn σ) → Renewing σ →
    List (List (Errand (Device σ) (PreparedModel σ))) × Renewing σ
  | [], state => ([], state)
  | turn :: rest, state =>
    let (errands, middle) := turn.record devices kept state
    let (others, last) := recordAll rest middle
    (errands :: others, last)

private theorem record_eq (turn : Turn σ) (state : Renewing σ) :
    ∃ errands ∈ Errand.serving kept, turn.record devices kept state = (errands, turn.after devices kept state) := by
  cases turn with
  | use act =>
    obtain ⟨word, member, ran⟩ := (Fleet.ofDevices devices).onPrepared_notes kept act [] state
    refine ⟨word, member, ?_⟩
    rw [record, ran, after, Fleet.onPrepared_ofDevices]
    rfl
  | change next => exact ⟨[], Held.nil_mem_protecting, rfl⟩

private theorem recordAll_eq (turns : List (Turn σ)) (state : Renewing σ) :
    (recordAll devices kept turns state).2 =
        turns.foldl (fun state turn => turn.after devices kept state) state ∧
      ∀ errands ∈ (recordAll devices kept turns state).1, errands ∈ Errand.serving kept := by
  induction turns generalizing state with
  | nil => exact ⟨rfl, nofun⟩
  | cons turn rest ih =>
    obtain ⟨errands, member, recorded⟩ := turn.record_eq devices kept state
    obtain ⟨last, others⟩ := ih (turn.after devices kept state)
    rw [recordAll, recorded, List.foldl_cons]
    exact ⟨last, List.forall_mem_cons.mpr ⟨member, others⟩⟩

end Turn

/-- A model is copied out of host memory when it is prepared first. Whatever happens afterwards, that copy with
those settings is all that is ever handed to a device, and one use takes a few errands. -/
theorem repreparation_is_faithful {devices : Factory (Device σ) (World σ)} {model : Model}
    {settings : PreparationSettings} {kept : Repreparable} {binding : Binding (PreparedModel σ)}
    {before after : Reconnecting σ}
    (prepared : (Reconnecting.prepareModel devices model settings).apply before = (.ok (kept, binding), after)) :
    (kept.settings = settings ∧ kept.model.hasNoPointerData = true ∧
      (∃ files, model.relocate before.2.host before.2.shared.files = .ok (kept.model, files)) ∧
      ∀ host store, kept.model.relocate host store = .ok (kept.model, store)) ∧
    (∃ errands, ((Fleet.ofDevices devices).noted.prepareModel model settings).apply (within Prod.mk [] before) =
        (.ok (kept, binding), within Prod.mk errands after) ∧
      Errand.AreFaithful kept Errand.firstBudget errands) ∧
    ∀ turns : List (Turn σ),
      (Turn.recordAll devices kept turns (binding, after)).2 =
          turns.foldl (fun state turn => turn.after devices kept state) (binding, after) ∧
        ∀ errands ∈ (Turn.recordAll devices kept turns (binding, after)).1,
          Errand.AreFaithful kept Errand.useBudget errands := by
  rw [← Fleet.prepareModel_ofDevices] at prepared
  obtain ⟨same, ⟨later, copied⟩, errands, member, noted⟩ :=
    (Fleet.ofDevices devices).prepareModel_notes prepared []
  obtain ⟨files, moved, -⟩ := World.apply_relocateModel_eq_ok_iff.mp copied
  obtain ⟨_, _, relocated, -⟩ := Model.isRelocated_of_relocate moved
  have bare : kept.model.hasNoPointerData = true := relocated.hasNoPointerData
  refine ⟨⟨same, bare, ⟨files, moved⟩, fun _ _ => Model.relocate_of_hasNoPointerData bare⟩,
    ⟨errands, noted, ?_⟩, fun turns => ?_⟩
  · exact Errand.areFaithful_of_mem (Errand.starting_keeps kept) (Errand.atMost_starting kept) member
  · obtain ⟨last, each⟩ := Turn.recordAll_eq devices kept turns (binding, after)
    exact ⟨last, fun errands listed =>
      Errand.areFaithful_of_mem (Errand.serving_keeps kept) (Errand.atMost_serving kept) (each errands listed)⟩

/-- A model with a constant in the caller's buffer. -/
def pointingModel : Model :=
  ⟨⟨[⟨.builtin .tensorFloat32, [3], .zero, 0, .pointer, ⟨some ⟨0, 0, 3, false⟩, 0, 0, 3⟩, .none⟩], [], [], []⟩,
    [], [], [], false, []⟩

/-- The caller executes, overwrites its buffer and executes again. -/
def scribbledTurns : List (Turn Unit) :=
  let execute : Turn Unit := .use (PreparedModel.execute · scribbledRequest ⟨.no, none, none⟩)
  [execute, .change fun (prepared, device, world) => (prepared, device, { world with host := ⟨[[9]]⟩ }), execute]

/-- Every prepared form dies when it is executed. It is renewed once in the first execution, and given up, so the
other execution starts with one more. -/
theorem dying_forms_are_prepared_faithfully :
    let devices : Factory (Device Unit) (World Unit) :=
      fun _ => Device.create "scribbler" scribblingDevice .standard
    ∃ kept binding after,
      (Reconnecting.prepareModel devices pointingModel .standard).apply (.unbound, untouchedWorld) =
        (.ok (kept, binding), after) ∧
      (Turn.recordAll devices kept scribbledTurns (binding, after)).1.map (List.map Errand.kind) =
        [[.act, .preparation, .act], [], [.preparation, .act, .preparation, .act]] ∧
      ∀ errands ∈ (Turn.recordAll devices kept scribbledTurns (binding, after)).1,
        Errand.AreFaithful kept Errand.useBudget errands := by
  intro devices
  refine ⟨_, _, _, rfl, by decide +kernel, ?_⟩
  exact ((repreparation_is_faithful (rfl : (Reconnecting.prepareModel devices pointingModel .standard).apply
    (.unbound, untouchedWorld) = _)).2.2 scribbledTurns).2

end NeuralDevice
