import Mathlib.Algebra.Order.Ring.Nat
import Mathlib.Data.List.Forall2
import NeuralDevice.Error

/-!
What the success of a computation says about its steps: a sequence succeeds exactly when each step does, and
a list of steps succeeds exactly when each of them does in turn.
-/

namespace NeuralDevice.Result

variable {α β γ ι : Type}

theorem bind_eq_ok_iff {first : Result α} {next : α → Result β} {value : β} :
    (first >>= next) = .ok value ↔ ∃ middle, first = .ok middle ∧ next middle = .ok value := by
  cases first <;> simp [bind, Except.bind]

theorem pure_eq_ok_iff {given value : α} : (pure given : Result α) = .ok value ↔ given = value := by
  simp [pure, Except.pure]

theorem throw_ne_ok {error : Error} {value : α} : (throw error : Result α) ≠ .ok value := by
  simp [throw, throwThe, MonadExceptOf.throw]

theorem throw_bind {error : Error} {next : α → Result β} :
    ((throw error : Result α) >>= next) = throw error := rfl

theorem ok_bind {value : α} {next : α → Result β} : ((.ok value : Result α) >>= next) = next value := rfl

theorem error_bind {error : Error} {next : α → Result β} :
    ((.error error : Result α) >>= next) = .error error := rfl

theorem refuse_eq_ok_iff {bad : Prop} [Decidable bad] {error : Error} {rest : Result α} {value : α} :
    (if bad then throw error else rest) = .ok value ↔ ¬bad ∧ rest = .ok value := by
  by_cases found : bad <;> simp [found, throw_ne_ok]

/-- A check that fails without a condition lets only the condition pass. -/
theorem demand_eq_ok_iff {good : Prop} [Decidable good] {error : Error} {rest : Result α} {value : α} :
    (if good then rest else throw error) = .ok value ↔ good ∧ rest = .ok value := by
  by_cases found : good <;> simp [found, throw_ne_ok]

theorem exists_error_iff {result : Result α} :
    (∃ error, result = .error error) ↔ ¬∃ value, result = .ok value := by
  cases result <;> simp

theorem mapError_eq_ok_iff {result : Result α} {classify : Error → Error} {value : α} :
    result.mapError classify = .ok value ↔ result = .ok value := by
  cases result <;> simp [Except.mapError]

/-- Steps taken over a list succeed exactly when each step gives the value at its place. -/
theorem mapM_eq_ok_iff {step : α → Result β} {sources : List α} {values : List β} :
    sources.mapM step = .ok values ↔
      List.Forall₂ (fun source value => step source = .ok value) sources values := by
  induction sources generalizing values with
  | nil => rw [List.mapM_nil, pure_eq_ok_iff, List.forall₂_nil_left_iff, eq_comm]
  | cons source rest ih =>
    simp only [List.mapM_cons, bind_eq_ok_iff, pure_eq_ok_iff, ih, List.forall₂_cons_left_iff]
    constructor
    · intro done
      rcases done with ⟨value, head, values, tail, rfl⟩
      exact ⟨value, values, head, tail, rfl⟩
    · intro parts
      rcases parts with ⟨value, values, head, tail, rfl⟩
      exact ⟨value, head, values, tail, rfl⟩

theorem mapM_congr {first : α → Result γ} {second : β → Result γ} {sources : List α} {others : List β}
    (agree : List.Forall₂ (fun source other => first source = second other) sources others) :
    sources.mapM first = others.mapM second := by
  induction agree with
  | nil => rfl
  | cons head _ ih => rw [List.mapM_cons, List.mapM_cons, head, ih]

theorem exists_mapM_eq_ok {step : α → Result β} {sources : List α}
    (each : ∀ source ∈ sources, ∃ value, step source = .ok value) :
    ∃ values, sources.mapM step = .ok values := by
  induction sources with
  | nil => exact ⟨[], rfl⟩
  | cons source rest ih =>
    rw [List.forall_mem_cons] at each
    obtain ⟨value, head⟩ := each.1
    obtain ⟨values, tail⟩ := ih each.2
    refine ⟨value :: values, ?_⟩
    rw [List.mapM_cons, head, tail]
    rfl

/-- What stands in the second of two related lists is related to something in the first. -/
theorem exists_of_mem_forall₂ {related : α → β → Prop} {sources : List α} {values : List β}
    (done : List.Forall₂ related sources values) {value : β} (member : value ∈ values) :
    ∃ source ∈ sources, related source value := by
  induction done with
  | nil => simp at member
  | cons head _ ih =>
    rcases List.mem_cons.mp member with rfl | later
    · exact ⟨_, List.mem_cons_self, head⟩
    · obtain ⟨source, present, made⟩ := ih later
      exact ⟨source, List.mem_cons_of_mem _ present, made⟩

/-- What is paired with something stays paired with what is related to that. -/
theorem exists_of_mem_zip {related : α → β → Prop} {sources : List α} {values : List β}
    {labels : List γ} (done : List.Forall₂ related sources values) {source : α} {label : γ}
    (member : (source, label) ∈ sources.zip labels) :
    ∃ value, related source value ∧ (value, label) ∈ values.zip labels := by
  induction done generalizing labels with
  | nil => simp at member
  | cons head _ ih =>
    cases labels with
    | nil => simp at member
    | cons first labels =>
      rcases List.mem_cons.mp member with same | later
      · cases same
        exact ⟨_, head, List.mem_cons_self⟩
      · obtain ⟨value, made, present⟩ := ih later
        exact ⟨value, made, List.mem_cons_of_mem _ present⟩

theorem exists_mapM_eq_ok_iff {step : α → Result β} {sources : List α} :
    (∃ values, sources.mapM step = .ok values) ↔ ∀ source ∈ sources, ∃ value, step source = .ok value := by
  constructor
  · intro done source member
    obtain ⟨values, done⟩ := done
    obtain ⟨value, _, made⟩ := exists_of_mem_forall₂ (mapM_eq_ok_iff.mp done).flip member
    exact ⟨value, made⟩
  · exact exists_mapM_eq_ok

theorem exists_of_mem_mapM {step : α → Result β} {sources : List α} {values : List β} {value : β}
    (done : sources.mapM step = .ok values) (member : value ∈ values) :
    ∃ source ∈ sources, step source = .ok value :=
  exists_of_mem_forall₂ (mapM_eq_ok_iff.mp done) member

theorem forM_eq_ok_iff {check : α → Result Unit} {values : List α} :
    values.forM check = .ok () ↔ ∀ value ∈ values, check value = .ok () := by
  induction values with
  | nil => simp [List.forM, pure_eq_ok_iff]
  | cons value rest ih =>
    have unfolded : (value :: rest).forM check = (check value >>= fun _ => rest.forM check) := rfl
    simp only [unfolded, bind_eq_ok_iff, ih, List.mem_cons, forall_eq_or_imp]
    constructor
    · intro done
      rcases done with ⟨_, head, tail⟩
      exact ⟨head, tail⟩
    · intro parts
      rcases parts with ⟨head, tail⟩
      exact ⟨(), head, tail⟩

theorem forM_eq_error {check : α → Result Unit} {values : List α} {place : Nat} {value : α} {error : Error}
    (held : values[place]? = some value) (failed : check value = .error error)
    (passed : ∀ earlier < place, ∀ other, values[earlier]? = some other → check other = .ok ()) :
    values.forM check = .error error := by
  induction values generalizing place with
  | nil => simp at held
  | cons first rest ih =>
    have unfolded : (first :: rest).forM check = (check first >>= fun _ => rest.forM check) := rfl
    cases place with
    | zero =>
      cases held
      rw [unfolded, failed]
      rfl
    | succ place =>
      rw [unfolded, passed 0 (Nat.succ_pos place) first rfl]
      exact ih held fun earlier before => passed (earlier + 1) (Nat.succ_lt_succ before)

/-- Steps over a list that thread a state: the first, and then the others from the state it left. -/
theorem mapM_run_cons_eq_ok_iff {σ : Type} {step : α → StateT σ (Except Error) β} {source : α}
    {rest : List α} {before after : σ} {values : List β} :
    ((source :: rest).mapM step).run before = .ok (values, after) ↔
      ∃ value middle others, (step source).run before = .ok (value, middle) ∧
        (rest.mapM step).run middle = .ok (others, after) ∧ value :: others = values := by
  simp only [List.mapM_cons, StateT.run_bind, StateT.run_pure, bind_eq_ok_iff, pure_eq_ok_iff]
  constructor
  · intro done
    rcases done with ⟨⟨value, middle⟩, head, ⟨others, last⟩, tail, same⟩
    obtain ⟨listed, rfl⟩ := Prod.mk.inj same
    exact ⟨value, middle, others, head, tail, listed⟩
  · intro parts
    rcases parts with ⟨value, middle, others, head, tail, rfl⟩
    exact ⟨(value, middle), head, (others, after), tail, rfl⟩

/-- Steps over a list whose state only grows: what each step relates is still related at the end. -/
theorem mapM_run_eq_ok {σ : Type} {step : α → StateT σ (Except Error) β} {grows : σ → σ → Prop}
    {related : σ → α → β → Prop} (refl : ∀ state, grows state state)
    (trans : ∀ {first second third}, grows first second → grows second third → grows first third)
    (keeps : ∀ {before after source value}, grows before after → related before source value →
      related after source value)
    (each : ∀ {source before value after}, (step source).run before = .ok (value, after) →
      grows before after ∧ related after source value)
    {sources : List α} {before after : σ} {values : List β}
    (done : (sources.mapM step).run before = .ok (values, after)) :
    grows before after ∧ List.Forall₂ (related after) sources values := by
  induction sources generalizing before values with
  | nil =>
    obtain ⟨rfl, rfl⟩ := Prod.mk.inj (pure_eq_ok_iff.mp done)
    exact ⟨refl before, .nil⟩
  | cons source rest ih =>
    obtain ⟨value, middle, others, head, tail, rfl⟩ := mapM_run_cons_eq_ok_iff.mp done
    obtain ⟨grown, own⟩ := each head
    obtain ⟨further, all⟩ := ih tail
    exact ⟨trans grown further, .cons (keeps further own) all⟩

/-- Steps over a list that thread a state: each source is related to its value if every step relates them. -/
theorem forall₂_of_mapM_run {σ : Type} {step : α → StateT σ (Except Error) β} {related : α → β → Prop}
    (each : ∀ {source before value after}, (step source).run before = .ok (value, after) → related source value)
    {sources : List α} {before after : σ} {values : List β}
    (done : (sources.mapM step).run before = .ok (values, after)) : List.Forall₂ related sources values := by
  induction sources generalizing before values with
  | nil =>
    obtain ⟨rfl, -⟩ := Prod.mk.inj (pure_eq_ok_iff.mp done)
    exact .nil
  | cons source rest ih =>
    obtain ⟨value, middle, others, head, tail, rfl⟩ := mapM_run_cons_eq_ok_iff.mp done
    exact .cons (each head) (ih tail)

/-- Whatever `first` makes of a source, `second` turns into `returned`. -/
def Returns (first : α → Result β) (second : β → Result γ) (source : α) (returned : γ) : Prop :=
  ∀ sent, first source = .ok sent → second sent = .ok returned

/-- Each of two conversions undoes the other. -/
def Inverse (first : α → Result β) (second : β → Result α) : Prop :=
  ∀ source sent, first source = .ok sent ↔ second sent = .ok source

theorem Inverse.returns {first : α → Result β} {second : β → Result α}
    (inverse : Inverse first second) (source : α) : Returns first second source source :=
  fun sent => (inverse source sent).mp

theorem Inverse.symm {first : α → Result β} {second : β → Result α}
    (inverse : Inverse first second) : Inverse second first :=
  fun source sent => (inverse sent source).symm

/-- Converting lists in order undoes itself if converting their members does. -/
theorem Inverse.mapM {first : α → Result β} {second : β → Result α}
    (inverse : Inverse first second) :
    Inverse (List.mapM first) (List.mapM second) := by
  intro sources values
  rw [mapM_eq_ok_iff, mapM_eq_ok_iff]
  constructor
  · intro sent
    exact (sent.imp fun source value => (inverse source value).mp).flip
  · intro received
    exact (received.imp fun value source => (inverse source value).mpr).flip

theorem Returns.mapM {first : α → Result β} {second : β → Result γ} (expected : α → γ)
    {sources : List α}
    (each : ∀ source ∈ sources, Returns first second source (expected source)) :
    Returns (List.mapM first) (List.mapM second) sources (sources.map expected) := by
  intro values sent
  rw [mapM_eq_ok_iff] at sent ⊢
  rw [List.forall₂_map_right_iff]
  apply List.Forall₂.flip
  induction sent with
  | nil => exact .nil
  | cons head _ ih =>
    refine .cons (each _ List.mem_cons_self _ head) (ih ?_)
    intro source member
    exact each source (List.mem_cons_of_mem _ member)

end NeuralDevice.Result
