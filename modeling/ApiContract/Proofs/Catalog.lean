import ApiContract.Catalog

set_option autoImplicit false

namespace ApiContract.Catalog

theorem mem_keys {c : Catalog} {key : String} : key ∈ c.keys ↔ ∃ d, (key, d) ∈ c.entries := by
  simp [keys]

theorem lookup_of_mem {entries : List (String × TypeDefinition)}
    (ordered : entries.Pairwise (fun a b => a.1 < b.1)) {key : String} {d : TypeDefinition}
    (found : (key, d) ∈ entries) : entries.lookup key = some d := by
  induction entries with
  | nil => simp at found
  | cons e es ih =>
    have ⟨above, rest⟩ := List.pairwise_cons.mp ordered
    rcases List.mem_cons.mp found with rfl | later
    · simp
    · have different : key ≠ e.1 := fun same =>
        String.lt_irrefl key (by simpa [same] using above _ later)
      rw [List.lookup_cons, beq_false_of_ne different]
      exact ih rest later

theorem get?_eq_some_iff {c : Catalog} {key : String} {d : TypeDefinition} :
    c.get? key = some d ↔ (key, d) ∈ c.entries := by
  constructor
  · intro found
    obtain ⟨before, after, split, -⟩ := List.lookup_eq_some_iff.mp found
    simp [split]
  · exact lookup_of_mem c.ordered

theorem eq_of_ascending {α : Type} (key : α → String) {xs ys : List α}
    (ascending : xs.Pairwise (key · < key ·)) (ascending' : ys.Pairwise (key · < key ·))
    (same : ∀ x, x ∈ xs ↔ x ∈ ys) : xs = ys := by
  have apart {x y : α} (below : key x < key y) : x ≠ y := by
    rintro rfl
    exact String.lt_irrefl (key x) below
  have order : xs.Perm ys :=
    (List.perm_ext_iff_of_nodup (ascending.imp apart) (ascending'.imp apart)).mpr same
  refine order.eq_of_pairwise ?_ ascending ascending'
  intro x y _ _ below above
  exact absurd (String.lt_trans below above) (String.lt_irrefl (key x))

theorem eq_of_mem_entries_iff {c d : Catalog} (same : ∀ e, e ∈ c.entries ↔ e ∈ d.entries) :
    c = d :=
  ext (eq_of_ascending (·.1) c.ordered d.ordered same)

theorem keys_eq_of_mem_iff {c d : Catalog} (same : ∀ key, key ∈ c.keys ↔ key ∈ d.keys) :
    c.keys = d.keys := by
  have ascending (b : Catalog) : b.keys.Pairwise (· < ·) := List.pairwise_map.mpr b.ordered
  exact eq_of_ascending id (ascending c) (ascending d) same

@[simp] theorem mem_entries_restrict {c : Catalog} {keep : String → Bool}
    {e : String × TypeDefinition} :
    e ∈ (c.restrict keep).entries ↔ e ∈ c.entries ∧ keep e.1 = true := by
  simp [restrict]

end ApiContract.Catalog
