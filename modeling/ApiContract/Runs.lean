set_option autoImplicit false

namespace ApiContract

variable {α : Type} [DecidableEq α]

def collapseRuns : List α → List α
  | [] => []
  | [x] => [x]
  | x :: y :: rest => if x = y then collapseRuns (y :: rest) else x :: collapseRuns (y :: rest)

@[simp] theorem collapseRuns_eq_nil {xs : List α} : collapseRuns xs = [] ↔ xs = [] := by
  induction xs using collapseRuns.induct with
  | case1 => simp [collapseRuns]
  | case2 x => simp [collapseRuns]
  | case3 x rest ih => simpa [collapseRuns] using ih
  | case4 x y rest different ih => simp [collapseRuns, different]

theorem collapseRuns_eq_singleton {xs : List α} {v : α} :
    collapseRuns xs = [v] ↔ v ∈ xs ∧ ∀ x ∈ xs, x = v := by
  induction xs using collapseRuns.induct with
  | case1 => simp [collapseRuns]
  | case2 x => simp [collapseRuns, eq_comm]
  | case3 x rest ih => simpa [collapseRuns] using ih
  | case4 x y rest different ih =>
    simp only [collapseRuns, different, if_false, List.cons.injEq, collapseRuns_eq_nil]
    constructor
    · intro h; simp at h
    · intro ⟨_, same⟩
      have hx := same x (by simp)
      have hy := same y (by simp)
      exact absurd (hx.trans hy.symm) different

theorem exists_ne_iff {xs : List α} :
    (∃ x ∈ xs, ∃ y ∈ xs, x ≠ y) ↔
      ∃ first second rest, collapseRuns xs = first :: second :: rest := by
  induction xs using collapseRuns.induct with
  | case1 => simp [collapseRuns]
  | case2 x => simp [collapseRuns]
  | case3 x rest ih => simpa [collapseRuns] using ih
  | case4 x y rest different ih =>
    have both : ∃ a ∈ x :: y :: rest, ∃ b ∈ x :: y :: rest, a ≠ b :=
      ⟨x, by simp, y, by simp, different⟩
    simp only [both, true_iff, collapseRuns, different, if_false]
    cases runs : collapseRuns (y :: rest) with
    | nil => simp at runs
    | cons second others => exact ⟨x, second, others, rfl⟩

end ApiContract
