import NeuralDevice.Proofs.Result
import NeuralDevice.Validation.Basic

/-!
Ordinary failures. An error is ordinary if its status is a failure other than the death of an endpoint. What is
computed from steps fails ordinarily if all of its steps do.
-/

namespace NeuralDevice

variable {α β γ : Type}

/-- Whether the status is that of a failure, and not of a dead endpoint. -/
def Error.isOrdinary (error : Error) : Bool := error.status ≠ .none && error.status ≠ .deadObject

theorem Error.isDeadObject_of_isOrdinary {error : Error} (ordinary : error.isOrdinary = true) :
    error.isDeadObject = false := by
  simp only [isOrdinary, Bool.and_eq_true, decide_eq_true_eq] at ordinary
  simpa [isDeadObject] using ordinary.2

theorem Error.isOrdinary_ofStatus {status : ErrorStatus} {detail : String} :
    (ofStatus status detail).isOrdinary = true ↔ status ≠ .none ∧ status ≠ .deadObject := by
  simp [isOrdinary, status_ofStatus]

namespace Result

/-- Whether the computation ended because an endpoint died. -/
def isDeadObject : Result α → Bool
  | .ok _ => false
  | .error error => error.isDeadObject

/-- A failure of the computation is an ordinary one. -/
def FailsOrdinarily (result : Result α) : Prop :=
  ∀ error, result = .error error → error.isOrdinary = true

theorem FailsOrdinarily.isDeadObject {result : Result α} (ordinary : FailsOrdinarily result) :
    isDeadObject result = false := by
  cases result with
  | ok value => rfl
  | error error => exact Error.isDeadObject_of_isOrdinary (ordinary error rfl)

@[simp] theorem failsOrdinarily_ok (value : α) : FailsOrdinarily (.ok value) := nofun

@[simp] theorem failsOrdinarily_pure (value : α) : FailsOrdinarily (pure value) := nofun

@[simp] theorem failsOrdinarily_error {error : Error} :
    FailsOrdinarily (.error error : Result α) ↔ error.isOrdinary = true :=
  ⟨fun ordinary => ordinary error rfl, fun ordinary _ failed => Except.error.inj failed ▸ ordinary⟩

@[simp] theorem failsOrdinarily_throw {error : Error} :
    FailsOrdinarily (throw error : Result α) ↔ error.isOrdinary = true := failsOrdinarily_error

@[simp] theorem failsOrdinarily_bind {first : Result α} {next : α → Result β} :
    FailsOrdinarily (first >>= next) ↔
      FailsOrdinarily first ∧ ∀ value, first = .ok value → FailsOrdinarily (next value) := by
  cases first with
  | ok value =>
    exact ⟨fun tail => ⟨nofun, fun _ same => Except.ok.inj same ▸ tail⟩, fun parts => parts.2 value rfl⟩
  | error error =>
    exact ⟨fun head => ⟨failsOrdinarily_error.mpr (head error rfl), nofun⟩,
      fun parts => failsOrdinarily_error.mpr (failsOrdinarily_error.mp parts.1)⟩

@[simp] theorem failsOrdinarily_map {result : Result α} {change : α → β} :
    FailsOrdinarily (result.map change) ↔ FailsOrdinarily result := by
  cases result with
  | ok value => exact iff_of_true nofun nofun
  | error error => exact failsOrdinarily_error.trans failsOrdinarily_error.symm

@[simp] theorem failsOrdinarily_functorMap {result : Result α} {change : α → β} :
    FailsOrdinarily (change <$> result) ↔ FailsOrdinarily result := failsOrdinarily_map

@[simp] theorem failsOrdinarily_ite {condition : Prop} [Decidable condition] {first second : Result α} :
    FailsOrdinarily (if condition then first else second) ↔
      (condition → FailsOrdinarily first) ∧ (¬condition → FailsOrdinarily second) := by
  by_cases holds : condition <;> simp [holds]

@[simp] theorem failsOrdinarily_mapM {step : α → Result β} {sources : List α}
    (each : ∀ source ∈ sources, FailsOrdinarily (step source)) : FailsOrdinarily (sources.mapM step) := by
  induction sources with
  | nil => simp
  | cons source rest ih =>
    rw [List.forall_mem_cons] at each
    simp [List.mapM_cons, each.1, ih each.2]

@[simp] theorem failsOrdinarily_forM {step : α → Result PUnit} {sources : List α}
    (each : ∀ source ∈ sources, FailsOrdinarily (step source)) : FailsOrdinarily (forM sources step) := by
  induction sources with
  | nil => exact failsOrdinarily_pure _
  | cons source rest ih =>
    rw [List.forall_mem_cons] at each
    exact failsOrdinarily_bind.mpr ⟨each.1, fun _ _ => ih each.2⟩

@[simp] theorem failsOrdinarily_foldlM {step : β → α → Result β} {start : β} {sources : List α}
    (each : ∀ value, ∀ source ∈ sources, FailsOrdinarily (step value source)) :
    FailsOrdinarily (sources.foldlM step start) := by
  induction sources generalizing start with
  | nil => exact failsOrdinarily_pure _
  | cons source rest ih =>
    rw [List.foldlM_cons]
    refine failsOrdinarily_bind.mpr ⟨each start source List.mem_cons_self, fun value _ => ih ?_⟩
    exact fun value source member => each value source (List.mem_cons_of_mem _ member)

@[simp] theorem failsOrdinarily_mapError {result : Result α} {classify : Error → Error}
    (each : ∀ error, (classify error).isOrdinary = true) :
    FailsOrdinarily (result.mapError classify) := by
  cases result with
  | ok value => exact failsOrdinarily_ok value
  | error error => exact failsOrdinarily_error.mpr (each error)

end Result

end NeuralDevice
