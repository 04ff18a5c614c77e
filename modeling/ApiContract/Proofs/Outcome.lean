import ApiContract.Error
import Mathlib.Data.List.Forall2

set_option autoImplicit false

namespace ApiContract

variable {α β : Type}

theorem bind_eq_ok {ε : Type} {step : Except ε α} {rest : α → Except ε β} {result : β} :
    step >>= rest = .ok result ↔ ∃ value, step = .ok value ∧ rest value = .ok result := by
  cases step <;> simp [bind, Except.bind]

theorem bind_eq_error {step : Except Error α} {rest : α → Except Error β} {e : Error} :
    step >>= rest = .error e ↔
      step = .error e ∨ ∃ value, step = .ok value ∧ rest value = .error e := by
  cases step <;> simp [bind, Except.bind]

theorem mapM_eq_ok_iff {step : α → Except Error β} {values : List α} {results : List β} :
    values.mapM step = .ok results ↔
      List.Forall₂ (fun value result => step value = .ok result) values results := by
  induction values generalizing results with
  | nil => simp [pure, Except.pure, eq_comm]
  | cons value rest ih =>
    simp only [List.mapM_cons, bind_eq_ok, ih, List.forall₂_cons_left_iff]
    constructor
    · rintro ⟨first, done, others, all, returned⟩
      exact ⟨first, others, done, all, (Except.ok.inj returned).symm⟩
    · rintro ⟨first, others, done, all, rfl⟩
      exact ⟨first, done, others, all, rfl⟩

theorem mapM_succeeds_iff {step : α → Except Error β} {values : List α} :
    (∃ results, values.mapM step = .ok results) ↔
      ∀ value ∈ values, ∃ result, step value = .ok result := by
  simp only [mapM_eq_ok_iff]
  induction values with
  | nil => simp
  | cons value rest ih => simp [List.forall₂_cons_left_iff, ← ih]

theorem exists_error_iff {outcome : Except Error α} :
    (∃ e, outcome = .error e) ↔ ¬∃ value, outcome = .ok value := by
  cases outcome <;> simp

/-- The step fails in this way for one of the values, and for none before it. -/
def FirstFailure (step : α → Except Error β) (values : List α) (e : Error) : Prop :=
  ∃ before value after, values = before ++ value :: after ∧
    (∀ earlier ∈ before, ∃ result, step earlier = .ok result) ∧ step value = .error e

namespace FirstFailure

variable {step : α → Except Error β} {e : Error}

@[simp] theorem nil : ¬FirstFailure step [] e := by
  simp [FirstFailure]

theorem cons_of_error {value : α} {rest : List α} {first : Error}
    (fails : step value = .error first) :
    FirstFailure step (value :: rest) e ↔ first = e := by
  constructor
  · rintro ⟨before, culprit, after, split, passed, failure⟩
    cases before with
    | nil =>
      obtain ⟨rfl, rfl⟩ := List.cons.inj split
      simpa [fails] using failure
    | cons head tail =>
      obtain ⟨rfl, rfl⟩ := List.cons.inj split
      obtain ⟨result, succeeds⟩ := passed value List.mem_cons_self
      simp [fails] at succeeds
  · rintro rfl
    exact ⟨[], value, rest, rfl, by simp, fails⟩

theorem cons_of_ok {value : α} {rest : List α} {result : β} (succeeds : step value = .ok result) :
    FirstFailure step (value :: rest) e ↔ FirstFailure step rest e := by
  constructor
  · rintro ⟨before, culprit, after, split, passed, failure⟩
    cases before with
    | nil =>
      obtain ⟨rfl, rfl⟩ := List.cons.inj split
      simp [succeeds] at failure
    | cons head tail =>
      obtain ⟨rfl, rfl⟩ := List.cons.inj split
      exact ⟨tail, culprit, after, rfl,
        fun earlier member => passed earlier (List.mem_cons_of_mem _ member), failure⟩
  · rintro ⟨before, culprit, after, rfl, passed, failure⟩
    refine ⟨value :: before, culprit, after, rfl, ?_, failure⟩
    intro earlier member
    rcases List.mem_cons.mp member with rfl | member
    · exact ⟨result, succeeds⟩
    · exact passed earlier member

theorem congr {γ : Type} {other : α → Except Error γ} {values : List α}
    (alike : ∀ value e, step value = .error e ↔ other value = .error e) :
    FirstFailure step values e ↔ FirstFailure other values e := by
  have passes (value : α) :
      (∃ result, step value = .ok result) ↔ ∃ result, other value = .ok result := by
    rw [← not_iff_not, ← exists_error_iff, ← exists_error_iff]
    exact exists_congr (alike value)
  simp only [FirstFailure, passes, alike]

end FirstFailure

theorem mapM_eq_error_iff {step : α → Except Error β} {values : List α} {e : Error} :
    values.mapM step = .error e ↔ FirstFailure step values e := by
  induction values with
  | nil => simp [pure, Except.pure]
  | cons value rest ih =>
    simp only [List.mapM_cons, bind_eq_error]
    cases done : step value with
    | error first => simp [FirstFailure.cons_of_error done]
    | ok result =>
      rw [FirstFailure.cons_of_ok done, ← ih]
      simp [pure, Except.pure]

theorem exists_firstFailure_iff {step : α → Except Error β} {values : List α} :
    (∃ e, FirstFailure step values e) ↔ ∃ value ∈ values, ∃ e, step value = .error e := by
  simp only [← mapM_eq_error_iff, exists_error_iff, mapM_succeeds_iff, not_forall, exists_prop]

end ApiContract
