import ApiContract.Proofs.Reachability
import Mathlib.Data.List.Forall2

set_option autoImplicit false

namespace ApiContract

def Reordered {α : Type} (like : α → α → Prop) (xs ys : List α) : Prop :=
  ∃ zs, xs.Perm zs ∧ List.Forall₂ like zs ys

theorem Reordered.exists_iff {α : Type} {like : α → α → Prop} {xs ys : List α}
    (reordered : Reordered like xs ys) {p : α → Prop} (agree : ∀ x y, like x y → (p x ↔ p y)) :
    (∃ x ∈ xs, p x) ↔ ∃ y ∈ ys, p y := by
  obtain ⟨zs, order, alike⟩ := reordered
  simp only [order.mem_iff]
  clear order
  induction alike with
  | nil => simp
  | cons first _ ih => rw [List.exists_mem_cons_iff, List.exists_mem_cons_iff, agree _ _ first, ih]

structure ResponseCode.SameUpToOrder (a b : ResponseCode) : Prop where
  code : b.code = a.code
  types : a.types.Perm b.types

structure Request.SameUpToOrder (r s : Request) : Prop where
  rest : s = { r with
    responseCodes := s.responseCodes
    optionalParams := s.optionalParams
    requiredParams := s.requiredParams }
  responseCodes : Reordered ResponseCode.SameUpToOrder r.responseCodes s.responseCodes
  optionalParams : r.optionalParams.Perm s.optionalParams
  requiredParams : r.requiredParams.Perm s.requiredParams

inductive TypeDefinition.SameUpToOrder : TypeDefinition → TypeDefinition → Prop where
  | itself (d : TypeDefinition) : SameUpToOrder d d
  | elements {name : String} {nameToMarshal : Option String} {xs ys : List Element}
      (order : xs.Perm ys) :
      SameUpToOrder ⟨name, nameToMarshal, .struct xs⟩ ⟨name, nameToMarshal, .struct ys⟩

theorem Request.SameUpToOrder.names_iff {r s : Request} (same : r.SameUpToOrder s) {key : String} :
    r.Names key ↔ s.Names key := by
  have params : r.allParams.Perm s.allParams := same.optionalParams.append same.requiredParams
  have codes := same.responseCodes.exists_iff
    (p := fun rc => ∃ t ∈ rc.types, NamesType t.typeName t.componentType key)
    fun a b alike => by simp only [alike.types.mem_iff]
  rw [Request.Names, Request.Names, codes]
  simp only [params.mem_iff]

theorem TypeDefinition.SameUpToOrder.names_iff {d e : TypeDefinition} (same : d.SameUpToOrder e)
    {key : String} : d.Names key ↔ e.Names key := by
  cases same with
  | itself => exact Iff.rfl
  | elements order => simp [TypeDefinition.Names, order.mem_iff]

namespace Catalog

def SameUpToOrder (c d : Catalog) : Prop :=
  List.Forall₂ (fun a b => b.1 = a.1 ∧ a.2.SameUpToOrder b.2) c.entries d.entries

variable {c d : Catalog} {requests others : List Request} {key : String}

theorem SameUpToOrder.mem_keys_iff (same : c.SameUpToOrder d) : key ∈ c.keys ↔ key ∈ d.keys := by
  have reordered : Reordered _ c.entries d.entries := ⟨_, .refl _, same⟩
  simpa [keys] using reordered.exists_iff (p := fun e => e.1 = key)
    fun a b alike => by rw [alike.1]

theorem SameUpToOrder.mem_next_iff (same : c.SameUpToOrder d) {origin : String} :
    key ∈ c.next origin ↔ key ∈ d.next origin := by
  have reordered : Reordered _ c.entries d.entries := ⟨_, .refl _, same⟩
  have edges := reordered.exists_iff (p := fun e => e.1 = origin ∧ e.2.Names key)
    fun a b alike => by rw [alike.1, alike.2.names_iff]
  simpa [mem_next] using edges

theorem needs_iff_of_sameUpToOrder (catalogs : c.SameUpToOrder d)
    (reordered : Reordered Request.SameUpToOrder requests others) :
    c.Needs requests key ↔ d.Needs others key := by
  have named (name : String) : (∃ r ∈ requests, r.Names name) ↔ ∃ s ∈ others, s.Names name :=
    reordered.exists_iff fun _ _ alike => alike.names_iff
  constructor
  · intro needed
    refine needed.transfer ?_ (fun _ => catalogs.mem_keys_iff.mp) fun _ _ =>
      catalogs.mem_next_iff.mp
    exact fun r listed name names => (named name).mp ⟨r, listed, names⟩
  · intro needed
    refine needed.transfer ?_ (fun _ => catalogs.mem_keys_iff.mpr)
      fun _ _ => catalogs.mem_next_iff.mpr
    exact fun s listed name names => (named name).mpr ⟨s, listed, names⟩

theorem needs_append {front back : List Request} :
    c.Needs (front ++ back) key ↔ c.Needs front key ∨ c.Needs back key := by
  constructor
  · intro needed
    induction needed with
    | named listed names known =>
      rcases List.mem_append.mp listed with listed | listed
      · exact .inl (.named listed names known)
      · exact .inr (.named listed names known)
    | element _ defined names known ih =>
      rcases ih with needed | needed
      · exact .inl (.element needed defined names known)
      · exact .inr (.element needed defined names known)
  · rintro (needed | needed)
    · exact needed.mono (.of_subset (List.subset_append_left front back))
    · exact needed.mono (.of_subset (List.subset_append_right front back))

theorem reachableFrom_laws (c : Catalog) (front back : List Request) :
    (c.reachableFrom front).reachableFrom front = c.reachableFrom front ∧
      (∀ key d, (key, d) ∈ (c.reachableFrom (front ++ back)).entries ↔
        (key, d) ∈ (c.reachableFrom front).entries ∨ (key, d) ∈ (c.reachableFrom back).entries) ∧
      ∀ (d : Catalog) (others : List Request), c.SameUpToOrder d →
        Reordered Request.SameUpToOrder front others →
        (d.reachableFrom others).keys = (c.reachableFrom front).keys := by
  refine ⟨reachableFrom_reachableFrom c front, fun key d => ?_,
    fun d others catalogs reordered => ?_⟩
  · simp only [mem_entries_reachableFrom, needs_append, and_or_left]
  · apply keys_eq_of_mem_iff
    intro key
    simp only [mem_keys_reachableFrom, needs_iff_of_sameUpToOrder catalogs reordered]

def jobElements : List Element :=
  [{ name := "Owner", typeName := "com.acme.Owner" },
    { name := "Parts", typeName := "array", componentType := some "com.acme.Job" }]

def jobCatalog (elements : List Element) : Catalog where
  entries := [("com.acme.Job", ⟨"com.acme.Job", none, .struct elements⟩),
    ("com.acme.Owner", ⟨"com.acme.Owner", none, .enum []⟩),
    ("com.acme.Unused", ⟨"com.acme.Unused", none, .struct elements⟩)]
  ordered := by
    have keys : ["com.acme.Job", "com.acme.Owner", "com.acme.Unused"].Pairwise (· < ·) := by decide
    exact List.pairwise_map.mp keys

def jobTypes : List ResponseType :=
  [{ typeName := "com.acme.Job" }, { typeName := "com.acme.Lost" }]

def answeringRequest (types : List ResponseType) : Request where
  name := "com.acme.GetJobsRequest"
  family := .managementApi
  responseCodes := [{ code := 200, types := types }]

def ownerRequest : Request where
  name := "com.acme.PutOwnerRequest"
  family := .managementApi
  requiredParams := [{ name := "Owner", typeName := "com.acme.Owner" }]

theorem reachableFrom_laws_jobCatalog :
    let c := jobCatalog jobElements
    let requests := [answeringRequest jobTypes, ownerRequest]
    let others := [ownerRequest, answeringRequest jobTypes.reverse]
    c.SameUpToOrder (jobCatalog jobElements.reverse) ∧
      Reordered Request.SameUpToOrder requests others ∧
      ((jobCatalog jobElements.reverse).reachableFrom others).keys =
        (c.reachableFrom requests).keys ∧
      (c.reachableFrom requests).reachableFrom requests = c.reachableFrom requests ∧
      "com.acme.Job" ∈ (c.reachableFrom requests).keys ∧
      "com.acme.Unused" ∈ c.keys ∧ "com.acme.Unused" ∉ (c.reachableFrom requests).keys := by
  intro c requests others
  have catalogs : c.SameUpToOrder (jobCatalog jobElements.reverse) := by
    have elements : jobElements.Perm jobElements.reverse := (List.reverse_perm _).symm
    exact .cons ⟨rfl, .elements elements⟩ (.cons ⟨rfl, .itself _⟩
      (.cons ⟨rfl, .elements elements⟩ .nil))
  have reordered : Reordered Request.SameUpToOrder requests others := by
    refine ⟨[ownerRequest, answeringRequest jobTypes], .swap _ _ _, .cons ?_ (.cons ?_ .nil)⟩
    · exact ⟨rfl, ⟨[], .refl _, .nil⟩, .refl _, .refl _⟩
    · exact ⟨rfl, ⟨_, .refl _, .cons ⟨rfl, (List.reverse_perm _).symm⟩ .nil⟩, .refl _, .refl _⟩
  obtain ⟨again, -, rearranged⟩ := reachableFrom_laws c requests []
  have named : (answeringRequest jobTypes).Names "com.acme.Job" :=
    Request.mem_references.mp (by decide)
  have kept : c.Needs requests "com.acme.Job" := .named List.mem_cons_self named (by decide)
  exact ⟨catalogs, reordered, rearranged _ _ catalogs reordered, again,
    mem_keys_reachableFrom.mpr kept, by decide, notMem_keys_reachableFrom (by decide) (by decide)⟩

end Catalog

end ApiContract
