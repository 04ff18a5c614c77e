import Mathlib.Data.List.Perm.Basic

set_option autoImplicit false

namespace ApiContract

variable {α κ : Type} [LE κ] [DecidableLE κ] [Std.IsLinearOrder κ] [DecidableEq κ] {key : α → κ}

structure OrderedBy (key : α → κ) (listed ordered : List α) : Prop where
  perm : ordered.Perm listed
  ascending : ordered.Pairwise fun a b => key a ≤ key b
  stable : ∀ k, ordered.filter (key · = k) = listed.filter (key · = k)

theorem orderedBy_mergeSort (key : α → κ) (xs : List α) :
    OrderedBy key xs (xs.mergeSort fun a b => key a ≤ key b) := by
  have trans (a b c : α) : decide (key a ≤ key b) = true → decide (key b ≤ key c) = true →
      decide (key a ≤ key c) = true := by
    simpa using Std.le_trans
  have total (a b : α) : (decide (key a ≤ key b) || decide (key b ≤ key a)) = true := by
    simpa using Std.le_total
  have perm := List.mergeSort_perm xs fun a b => decide (key a ≤ key b)
  refine ⟨perm, by simpa using List.pairwise_mergeSort trans total xs, fun k => ?_⟩
  -- What has the key `k` is in order as it stands, so that the sorted list still has it.
  have level : (xs.filter (key · = k)).Pairwise fun a b => decide (key a ≤ key b) = true := by
    refine List.pairwise_of_forall_mem_list fun a first b second => ?_
    simp only [List.mem_filter, decide_eq_true_eq] at first second
    simp [first.2, second.2, Std.le_refl]
  have kept := (List.sublist_mergeSort trans total level List.filter_sublist).filter (key · = k)
  rw [List.filter_filter] at kept
  simp only [Bool.and_self] at kept
  exact (kept.eq_of_length (perm.filter _).length_eq.symm).symm

omit [LE κ] [DecidableLE κ] [Std.IsLinearOrder κ] in
theorem mem_of_filter_eq {xs ys : List α}
    (same : ∀ k, xs.filter (key · = k) = ys.filter (key · = k)) {x : α} (listed : x ∈ xs) :
    x ∈ ys := by
  have kept : x ∈ xs.filter (key · = key x) := by simpa using listed
  rw [same] at kept
  exact List.mem_of_mem_filter kept

omit [DecidableLE κ] in
theorem eq_of_ascending_of_filter_eq {xs ys : List α}
    (ascending : xs.Pairwise fun a b => key a ≤ key b)
    (ascending' : ys.Pairwise fun a b => key a ≤ key b)
    (same : ∀ k, xs.filter (key · = k) = ys.filter (key · = k)) : xs = ys := by
  have first {z : α} {zs : List α} (ordered : (z :: zs).Pairwise fun a b => key a ≤ key b) {w : α}
      (member : w ∈ z :: zs) : key z ≤ key w := by
    rcases List.mem_cons.mp member with rfl | later
    · exact Std.le_refl _
    · exact (List.pairwise_cons.mp ordered).1 w later
  induction xs generalizing ys with
  | nil =>
    cases ys with
    | nil => rfl
    | cons y ys => simpa using mem_of_filter_eq (fun k => (same k).symm) List.mem_cons_self
  | cons x xs ih =>
    cases ys with
    | nil => simpa using mem_of_filter_eq same List.mem_cons_self
    | cons y ys =>
      have level : key x = key y := Std.le_antisymm
        (first ascending (mem_of_filter_eq (fun k => (same k).symm) List.mem_cons_self))
        (first ascending' (mem_of_filter_eq same List.mem_cons_self))
      obtain rfl : x = y := by
        have heads := same (key x)
        simp only [List.filter_cons, level, decide_true, if_true, List.cons.injEq] at heads
        exact heads.1
      rw [ih ascending.of_cons ascending'.of_cons]
      intro k
      have rest := same k
      by_cases here : key x = k <;> simpa [List.filter_cons, here] using rest

omit [DecidableLE κ] in
theorem OrderedBy.unique {listed xs ys : List α} (first : OrderedBy key listed xs)
    (second : OrderedBy key listed ys) : xs = ys :=
  eq_of_ascending_of_filter_eq first.ascending second.ascending
    fun k => (first.stable k).trans (second.stable k).symm

omit [DecidableLE κ] [Std.IsLinearOrder κ] in
theorem OrderedBy.map {β : Type} {g : β → α} {listed ordered : List β}
    (sorted : OrderedBy (key ∘ g) listed ordered) :
    OrderedBy key (listed.map g) (ordered.map g) where
  perm := sorted.perm.map g
  ascending := List.pairwise_map.mpr sorted.ascending
  stable k := by
    rw [List.filter_map, List.filter_map]
    exact congrArg (List.map g) (sorted.stable k)

omit [LE κ] [DecidableLE κ] [Std.IsLinearOrder κ] in
theorem perm_of_filter_eq {xs ys : List α}
    (same : ∀ k, xs.filter (key · = k) = ys.filter (key · = k)) : xs.Perm ys := by
  classical
  refine List.perm_iff_count.mpr fun x => ?_
  have level := congrArg (List.count x) (same (key x))
  rwa [List.count_filter (by simp), List.count_filter (by simp)] at level

theorem filter_levels (level : α → Nat) (xs : List α) (n k : Nat) :
    ((List.range n).flatMap fun j => xs.filter (level · = j)).filter (level · = k) =
      if k < n then xs.filter (level · = k) else [] := by
  induction n with
  | zero => rfl
  | succ n ih =>
    rw [List.range_succ, List.flatMap_append, List.filter_append, ih, List.flatMap_singleton,
      List.filter_filter]
    by_cases last : k = n
    · simp [last]
    · have other : xs.filter (fun x => level x = k && level x = n) = [] := by
        refine List.filter_eq_nil_iff.mpr fun x _ both => last ?_
        simp only [Bool.and_eq_true, decide_eq_true_eq] at both
        exact both.1.symm.trans both.2
      have bounds : k < n + 1 ↔ k < n := by omega
      simp only [other, List.append_nil, bounds]

-- A list is put in the order of its levels by listing one level after the other.
theorem orderedBy_levels {level : α → Nat} {xs : List α} {n : Nat}
    (bounded : ∀ x ∈ xs, level x < n) :
    OrderedBy level xs ((List.range n).flatMap fun k => xs.filter (level · = k)) := by
  have stable (k : Nat) :
      ((List.range n).flatMap fun j => xs.filter (level · = j)).filter (level · = k) =
        xs.filter (level · = k) := by
    rw [filter_levels]
    split_ifs with below
    · rfl
    · refine (List.filter_eq_nil_iff.mpr fun x listed here => below ?_).symm
      simpa using (of_decide_eq_true here) ▸ bounded x listed
  refine ⟨perm_of_filter_eq stable, List.pairwise_flatMap.mpr ⟨fun k _ => ?_, ?_⟩, stable⟩
  · refine List.pairwise_of_forall_mem_list fun x first y second => ?_
    simp_all
  · refine List.pairwise_lt_range.imp fun below x first y second => ?_
    simp only [List.mem_filter, decide_eq_true_eq] at first second
    omega

end ApiContract
