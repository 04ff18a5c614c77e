import ApiContract.Proofs.Catalog
import ApiContract.Reach
import Mathlib.Data.List.Chain

set_option autoImplicit false

namespace ApiContract

def NamesType (typeName : String) (componentType : Option String) (key : String) : Prop :=
  (key = typeName ∨ componentType = some key) ∧ key ≠ "" ∧ key ∉ builtinTypes

def Request.Names (r : Request) (key : String) : Prop :=
  (∃ p ∈ r.allParams, NamesType p.typeName p.componentType key) ∨
    ∃ rc ∈ r.responseCodes, ∃ t ∈ rc.types, NamesType t.typeName t.componentType key

def TypeDefinition.Names (d : TypeDefinition) (key : String) : Prop :=
  ∃ elements, d.kind = .struct elements ∧
    ∃ e ∈ elements, NamesType e.typeName e.componentType key

theorem mem_references {typeName : String} {componentType : Option String} {key : String} :
    key ∈ references typeName componentType ↔ NamesType typeName componentType key := by
  have reference : isReference key = true ↔ key ≠ "" ∧ key ∉ builtinTypes := by
    simp only [isReference, isBuiltin, Bool.and_eq_true, decide_eq_true_eq, Bool.not_eq_true',
      List.contains_eq_mem, decide_eq_false_iff_not]
  simp only [references, List.mem_filter, List.mem_cons, Option.mem_toList,
    reference, NamesType]

theorem Request.mem_references {r : Request} {key : String} :
    key ∈ r.references ↔ r.Names key := by
  simp only [Request.references, Request.Names, Request.responseTypes, List.mem_append,
    List.mem_flatMap, ApiContract.mem_references]
  constructor
  · rintro (param | ⟨t, ⟨rc, listed, member⟩, names⟩)
    · exact .inl param
    · exact .inr ⟨rc, listed, t, member, names⟩
  · rintro (param | ⟨rc, listed, t, member, names⟩)
    · exact .inl param
    · exact .inr ⟨t, ⟨rc, listed, member⟩, names⟩

theorem TypeDefinition.mem_references {d : TypeDefinition} {key : String} :
    key ∈ d.references ↔ d.Names key := by
  cases kind : d.kind <;>
    simp [TypeDefinition.references, TypeDefinition.Names, elements, kind,
      ApiContract.mem_references]

def NamesWithin (requests others : List Request) : Prop :=
  ∀ r ∈ requests, ∀ key, r.Names key → ∃ s ∈ others, s.Names key

theorem NamesWithin.of_subset {requests others : List Request} (subset : requests ⊆ others) :
    NamesWithin requests others :=
  fun r listed _ names => ⟨r, subset listed, names⟩

theorem NamesWithin.refl (requests : List Request) : NamesWithin requests requests :=
  .of_subset (List.Subset.refl requests)

theorem mem_seedTypes {requests : List Request} {key : String} :
    key ∈ seedTypes requests ↔ ∃ r ∈ requests, r.Names key := by
  simp [seedTypes, Text.sortedDistinct, Request.mem_references]

section Search

variable {next : String → List String}

@[simp] theorem reach_nil (unseen : List String) : reach next unseen [] = [] := by
  rw [reach]

theorem reach_visit {name : String} {unseen : List String} (rest : List String)
    (fresh : name ∈ unseen) :
    reach next unseen (name :: rest) =
      name :: reach next (unseen.erase name) (next name ++ rest) := by
  rw [reach, dif_pos fresh]

theorem reach_skip {name : String} {unseen : List String} (rest : List String)
    (seen : name ∉ unseen) :
    reach next unseen (name :: rest) = reach next unseen rest := by
  rw [reach, dif_neg seen]

/-- Nothing unseen is left that is pending or that a visited name leads to. -/
structure Settled (next : String → List String) (unseen pending visited : List String) : Prop where
  pending : ∀ name ∈ pending, name ∈ unseen → name ∈ visited
  onward : ∀ name ∈ visited, ∀ other ∈ next name, other ∈ unseen → other ∈ visited

theorem Settled.visit {name : String} {unseen rest visited : List String}
    (settled : Settled next (unseen.erase name) (next name ++ rest) visited) :
    Settled next unseen (name :: rest) (name :: visited) := by
  -- Any other name that is unseen before the visit is still unseen after it.
  have later (other : String) (fresh : other ∈ unseen)
      (reached : other ≠ name → other ∈ unseen.erase name → other ∈ visited) :
      other ∈ name :: visited := by
    by_cases same : other = name
    · simp [same]
    · exact List.mem_cons_of_mem _ (reached same ((List.mem_erase_of_ne same).mpr fresh))
  constructor
  · intro other pending fresh
    apply later other fresh
    intro different left
    have waiting : other ∈ rest := by simpa [different] using pending
    exact settled.pending other (List.mem_append_right _ waiting) left
  · intro origin member other edge fresh
    apply later other fresh
    intro _ left
    rcases List.mem_cons.mp member with rfl | member
    · exact settled.pending other (List.mem_append_left _ edge) left
    · exact settled.onward origin member other edge left

theorem Settled.skip {name : String} {unseen rest visited : List String} (seen : name ∉ unseen)
    (settled : Settled next unseen rest visited) :
    Settled next unseen (name :: rest) visited where
  pending other pending fresh := by
    have different : other ≠ name := fun same => seen (same ▸ fresh)
    exact settled.pending other (by simpa [different] using pending) fresh
  onward := settled.onward

theorem reach_settled (unseen pending : List String) :
    Settled next unseen pending (reach next unseen pending) := by
  -- The search ends, visits a fresh name, or passes over one that is seen or has no entry.
  induction unseen, pending using reach.induct next with
  | case1 unseen => constructor <;> simp
  | case2 unseen name rest fresh ih => exact reach_visit rest fresh ▸ ih.visit
  | case3 unseen name rest seen ih => exact reach_skip rest seen ▸ ih.skip seen

-- All that is visited has any property that the pending names have and that is handed on.
theorem reach_least {P : String → Prop} {known : List String}
    (onward : ∀ name, P name → ∀ other ∈ next name, other ∈ known → P other)
    (unseen pending : List String) (within : unseen ⊆ known)
    (start : ∀ name ∈ pending, name ∈ known → P name) :
    ∀ name ∈ reach next unseen pending, name ∈ known ∧ P name := by
  induction unseen, pending using reach.induct next with
  | case1 unseen => simp
  | case2 unseen name rest fresh ih =>
    have first : P name := start name List.mem_cons_self (within fresh)
    have remaining := ih (fun other left => within (List.mem_of_mem_erase left)) (by
      intro other pending inside
      rcases List.mem_append.mp pending with edge | waiting
      · exact onward name first other edge inside
      · exact start other (List.mem_cons_of_mem _ waiting) inside)
    rw [reach_visit rest fresh]
    intro other member
    rcases List.mem_cons.mp member with rfl | member
    · exact ⟨within fresh, first⟩
    · exact remaining other member
  | case3 unseen name rest seen ih =>
    rw [reach_skip rest seen]
    exact ih within fun other waiting => start other (List.mem_cons_of_mem _ waiting)

end Search

namespace Catalog

inductive Needs (c : Catalog) (requests : List Request) : String → Prop where
  | named {r : Request} {key : String} (listed : r ∈ requests) (names : r.Names key)
      (known : key ∈ c.keys) : Needs c requests key
  | element {origin key : String} {d : TypeDefinition} (needed : Needs c requests origin)
      (defined : (origin, d) ∈ c.entries) (names : d.Names key) (known : key ∈ c.keys) :
      Needs c requests key

/-- Keys of the catalog, the first named by a request and each later one by the definition of the
one before it. -/
structure IsPath (c : Catalog) (requests : List Request) (path : List String) : Prop where
  known : ∀ key ∈ path, key ∈ c.keys
  start : ∀ key ∈ path.head?, ∃ r ∈ requests, r.Names key
  edges : path.IsChain fun origin key => ∃ d, (origin, d) ∈ c.entries ∧ d.Names key

variable {c : Catalog} {requests : List Request} {key : String}

theorem mem_next {origin : String} :
    key ∈ c.next origin ↔ ∃ d, (origin, d) ∈ c.entries ∧ d.Names key := by
  rw [next]
  cases found : c.get? origin with
  | none =>
    have absent (d : TypeDefinition) : (origin, d) ∉ c.entries := by
      simp [← get?_eq_some_iff, found]
    simp [absent]
  | some d =>
    simp [← get?_eq_some_iff, found, TypeDefinition.mem_references]

theorem Needs.known (needed : c.Needs requests key) : key ∈ c.keys := by
  cases needed <;> assumption

theorem mem_visited_iff :
    key ∈ reach c.next c.keys (seedTypes requests) ↔ c.Needs requests key := by
  have settled : Settled c.next c.keys (seedTypes requests) _ := reach_settled _ _
  constructor
  -- To be needed is handed on by every edge, so it is true of all that is visited.
  · intro visited
    refine (reach_least ?_ _ _ (List.Subset.refl _) ?_ key visited).2
    · intro origin needed other edge known
      obtain ⟨d, defined, names⟩ := mem_next.mp edge
      exact .element needed defined names known
    · intro name seed known
      obtain ⟨r, listed, names⟩ := mem_seedTypes.mp seed
      exact .named listed names known
  · intro needed
    induction needed with
    | named listed names known =>
      exact settled.pending _ (mem_seedTypes.mpr ⟨_, listed, names⟩) known
    | element _ defined names known ih =>
      exact settled.onward _ ih _ (mem_next.mpr ⟨_, defined, names⟩) known

theorem mem_entries_reachableFrom {d : TypeDefinition} :
    (key, d) ∈ (c.reachableFrom requests).entries ↔
      (key, d) ∈ c.entries ∧ c.Needs requests key := by
  simp [reachableFrom, mem_visited_iff]

theorem mem_keys_reachableFrom :
    key ∈ (c.reachableFrom requests).keys ↔ c.Needs requests key := by
  simp only [mem_keys, mem_entries_reachableFrom, exists_and_right]
  exact ⟨fun found => found.2, fun needed => ⟨mem_keys.mp needed.known, needed⟩⟩

theorem notMem_keys_reachableFrom (unnamed : ∀ r ∈ requests, key ∉ r.references)
    (unlinked : ∀ e ∈ c.entries, key ∉ e.2.references) :
    key ∉ (c.reachableFrom requests).keys := by
  rw [mem_keys_reachableFrom]
  intro needed
  cases needed with
  | named listed names => exact unnamed _ listed (Request.mem_references.mpr names)
  | element _ defined names => exact unlinked _ defined (TypeDefinition.mem_references.mpr names)

theorem reachableFrom_eq_self (all : ∀ key ∈ c.keys, c.Needs requests key) :
    c.reachableFrom requests = c :=
  eq_of_mem_entries_iff fun ⟨key, d⟩ => by
    rw [mem_entries_reachableFrom]
    exact and_iff_left_of_imp fun defined => all key (mem_keys.mpr ⟨d, defined⟩)

-- Needed keys stay needed where no key, no edge and no name is lost.
theorem Needs.transfer {d : Catalog} {others : List Request} (needed : c.Needs requests key)
    (named : NamesWithin requests others) (keys : c.keys ⊆ d.keys)
    (edges : ∀ origin, c.next origin ⊆ d.next origin) : d.Needs others key := by
  induction needed with
  | named listed names known =>
    obtain ⟨s, among, also⟩ := named _ listed _ names
    exact .named among also (keys known)
  | element needed defined names known ih =>
    obtain ⟨x, there, also⟩ := mem_next.mp (edges _ (mem_next.mpr ⟨_, defined, names⟩))
    exact .element ih there also (keys known)

theorem Needs.mono {others : List Request} (needed : c.Needs requests key)
    (named : NamesWithin requests others) : c.Needs others key :=
  needed.transfer named (List.Subset.refl _) fun _ => List.Subset.refl _

-- What fewer requests need is needed inside the part that more requests keep.
theorem Needs.reachableFrom {others : List Request} (needed : c.Needs requests key)
    (named : NamesWithin requests others) : (c.reachableFrom others).Needs requests key := by
  have kept {name : String} (needed : c.Needs requests name) :
      name ∈ (c.reachableFrom others).keys := mem_keys_reachableFrom.mpr (needed.mono named)
  induction needed with
  | named listed names known => exact .named listed names (kept (.named listed names known))
  | element needed defined names known ih =>
    refine .element ih (mem_entries_reachableFrom.mpr ⟨defined, needed.mono named⟩) names ?_
    exact kept (.element needed defined names known)

theorem Needs.of_reachableFrom {others : List Request}
    (needed : (c.reachableFrom others).Needs requests key) : c.Needs requests key := by
  refine needed.transfer (.refl requests) ?_ ?_
  · intro name kept
    exact (mem_keys_reachableFrom.mp kept).known
  · intro origin name edge
    obtain ⟨d, defined, names⟩ := mem_next.mp edge
    exact mem_next.mpr ⟨d, (mem_entries_reachableFrom.mp defined).1, names⟩

theorem reachableFrom_reachableFrom_of_within {others : List Request}
    (named : NamesWithin requests others) :
    (c.reachableFrom others).reachableFrom requests = c.reachableFrom requests := by
  apply eq_of_mem_entries_iff
  rintro ⟨key, d⟩
  simp only [mem_entries_reachableFrom]
  constructor
  · rintro ⟨⟨defined, -⟩, needed⟩
    exact ⟨defined, needed.of_reachableFrom⟩
  · rintro ⟨defined, needed⟩
    exact ⟨⟨defined, needed.mono named⟩, needed.reachableFrom named⟩

theorem reachableFrom_reachableFrom (c : Catalog) (requests : List Request) :
    (c.reachableFrom requests).reachableFrom requests = c.reachableFrom requests :=
  reachableFrom_reachableFrom_of_within (.refl requests)

theorem reachableFrom_subset {others : List Request} (named : NamesWithin requests others) :
    (c.reachableFrom requests).entries ⊆ (c.reachableFrom others).entries := by
  rintro ⟨key, d⟩ kept
  obtain ⟨defined, needed⟩ := mem_entries_reachableFrom.mp kept
  exact mem_entries_reachableFrom.mpr ⟨defined, needed.mono named⟩

theorem reachableFrom_eq_of_within {others : List Request} (named : NamesWithin requests others)
    (conversely : NamesWithin others requests) :
    c.reachableFrom requests = c.reachableFrom others :=
  eq_of_mem_entries_iff fun _ =>
    ⟨fun kept => reachableFrom_subset named kept, fun kept => reachableFrom_subset conversely kept⟩

theorem IsPath.extend {path : List String} {origin : String} {d : TypeDefinition}
    (isPath : c.IsPath requests path) (last : path.getLast? = some origin)
    (defined : (origin, d) ∈ c.entries) (names : d.Names key) (known : key ∈ c.keys) :
    c.IsPath requests (path ++ [key]) where
  known name member := by
    rcases List.mem_append.mp member with member | member
    · exact isPath.known name member
    · simpa [List.mem_singleton.mp member] using known
  start name first := by
    have nonempty : path ≠ [] := by rintro rfl; simp at last
    exact isPath.start name (by simpa [List.head?_append_of_ne_nil _ nonempty] using first)
  edges := by
    refine isPath.edges.append (.singleton key) ?_
    intro before isLast after isFirst
    obtain rfl : origin = before := by simpa [last] using isLast
    obtain rfl : key = after := by simpa using isFirst
    exact ⟨d, defined, names⟩

theorem needs_iff_path :
    c.Needs requests key ↔ ∃ path, c.IsPath requests path ∧ path.getLast? = some key := by
  constructor
  · intro needed
    induction needed with
    | @named r key listed names known =>
      refine ⟨[key], ⟨by simpa using known, ?_, .singleton key⟩, rfl⟩
      simpa using ⟨r, listed, names⟩
    | element _ defined names known ih =>
      obtain ⟨path, isPath, last⟩ := ih
      exact ⟨_, isPath.extend last defined names known, by simp⟩
  · rintro ⟨path, isPath, last⟩
    -- Paths grow at their end, as the needed keys do.
    induction path using List.reverseRecOn generalizing key with
    | nil => simp at last
    | append_singleton path final ih =>
      obtain rfl : final = key := by simpa using last
      have known := isPath.known final (by simp)
      cases before : path.getLast? with
      | none =>
        obtain rfl : path = [] := by simpa using before
        obtain ⟨r, listed, names⟩ := isPath.start final (by simp)
        exact .named listed names known
      | some origin =>
        have nonempty : path ≠ [] := by rintro rfl; simp at before
        have shorter : c.IsPath requests path := {
          known := fun name member => isPath.known name (List.mem_append_left _ member)
          start := fun name first => isPath.start name (by
            simpa [List.head?_append_of_ne_nil _ nonempty] using first)
          edges := isPath.edges.left_of_append }
        obtain ⟨d, defined, names⟩ :=
          (List.isChain_append.mp isPath.edges).2.2 origin before final (by simp)
        exact .element (ih shorter before) defined names known

theorem reachableFrom_exact (c : Catalog) (requests : List Request) (key : String)
    (d : TypeDefinition) :
    (key, d) ∈ (c.reachableFrom requests).entries ↔
      (key, d) ∈ c.entries ∧ ∃ path, c.IsPath requests path ∧ path.getLast? = some key := by
  rw [mem_entries_reachableFrom, needs_iff_path]

end Catalog

end ApiContract
