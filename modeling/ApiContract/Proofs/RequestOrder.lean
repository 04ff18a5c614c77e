import ApiContract.Proofs.Contexts
import ApiContract.Proofs.Resolution

set_option autoImplicit false

namespace ApiContract

theorem splitAll_of_perm {requests others variants : List Request} (order : requests.Perm others)
    (divided : splitAll requests = .ok variants) :
    ∃ result, splitAll others = .ok result ∧ variants.Perm result := by
  obtain ⟨groups, each, rfl⟩ := splitAll_eq_ok_iff.mp divided
  obtain ⟨reordered, again, same⟩ := List.perm_comp_forall₂ order.symm each
  exact ⟨_, splitAll_eq_ok_iff.mpr ⟨reordered, again, rfl⟩, same.symm.flatten⟩

theorem Selection.candidates_perm (s : Selection) {requests others : List Request}
    (order : requests.Perm others) : (s.candidates requests).Perm (s.candidates others) := by
  unfold candidates
  split
  · exact order
  · exact order.filter _

theorem Catalog.reachableFrom_of_perm {requests others : List Request}
    (order : requests.Perm others) (c : Catalog) :
    c.reachableFrom requests = c.reachableFrom others :=
  reachableFrom_eq_of_within (.of_subset order.subset) (.of_subset order.symm.subset)

namespace Contract

variable {registry : Registry} {c d : Contract} {s : Selection} {m : Model}

theorem resolveWith_of_perm (types : d.types = c.types) (order : c.requests.Perm d.requests)
    (resolved : c.resolveWith registry s = .ok m) :
    ∃ other, d.resolveWith registry s = .ok other ∧ other.types = m.types ∧
      m.requests.Perm other.requests := by
  obtain ⟨valid, variants, divided, rfl⟩ := resolveWith_eq_ok_iff.mp resolved
  have candidates := s.candidates_perm order
  obtain ⟨others, reordered, same⟩ := splitAll_of_perm candidates divided
  have selected : (s.filter variants).Perm (s.filter others) := same.filter _
  refine ⟨d.modelOf registry s others,
    resolveWith_eq_ok_iff.mpr ⟨?_, others, reordered, rfl⟩, ?_, ?_⟩
  · exact fun r listed => valid r (candidates.mem_iff.mpr listed)
  · rw [modelOf, modelOf, types]
    exact (Catalog.reachableFrom_of_perm selected c.types).symm
  · exact selected.map _

theorem resolveWith_order_free (registry : Registry) (c d : Contract) (s : Selection)
    (types : d.types = c.types) (order : c.requests.Perm d.requests) :
    ((∃ m, c.resolveWith registry s = .ok m) ↔ ∃ m, d.resolveWith registry s = .ok m) ∧
      ∀ m other, c.resolveWith registry s = .ok m → d.resolveWith registry s = .ok other →
        other.types = m.types ∧ m.requests.Perm other.requests ∧
          ((m.requests.map (·.request.sdkName)).Nodup →
            ∀ target contexts, m.contexts target = .ok contexts ↔
              other.contexts target = .ok contexts) := by
  constructor
  · constructor
    · rintro ⟨m, resolved⟩
      obtain ⟨other, again, -⟩ := resolveWith_of_perm types order resolved
      exact ⟨other, again⟩
    · rintro ⟨m, resolved⟩
      obtain ⟨other, again, -⟩ := resolveWith_of_perm types.symm order.symm resolved
      exact ⟨other, again⟩
  · intro m other resolved reordered
    obtain ⟨found, again, sameTypes, sameRequests⟩ := resolveWith_of_perm types order resolved
    obtain rfl : found = other := Except.ok.inj (again.symm.trans reordered)
    refine ⟨sameTypes, sameRequests, fun distinct target contexts => ?_⟩
    have distinct' : (found.requests.map (·.request.sdkName)).Nodup :=
      (sameRequests.map _).nodup_iff.mp distinct
    exact ⟨Model.contexts_of_perm sameTypes sameRequests distinct,
      Model.contexts_of_perm sameTypes.symm sameRequests.symm distinct'⟩

def reversedContract : Contract :=
  { tapeContract with requests := tapeContract.requests.reverse }

theorem resolveWith_order_free_tapeContract :
    let s : Selection := { includeInternal := true }
    ∃ m other, tapeContract.resolveWith .builtin s = .ok m ∧
      reversedContract.resolveWith .builtin s = .ok other ∧ other.types = m.types ∧
      m.requests.length = 3 ∧ m.requests.Perm other.requests ∧
      (m.requests.map (·.request.sdkName)).Nodup ∧
      ∃ contexts, m.contexts .generic = .ok contexts ∧ other.contexts .generic = .ok contexts := by
  intro s
  let variants : List Request := [{ name := "com.acme.ReclaimRequest", family := .internal },
    tapeRule.baseOf tapeRequest, tapeRule.detailedOf tapeRequest]
  let m := tapeContract.modelOf .builtin s variants
  have valid : validateAll (s.candidates tapeContract.requests) = .ok () := by decide
  have divided : splitAll (s.candidates tapeContract.requests) = .ok variants := by decide +kernel
  have resolved : tapeContract.resolveWith .builtin s = .ok m :=
    resolveWith_of_splitAll valid divided
  have order : tapeContract.requests.Perm reversedContract.requests := (List.reverse_perm _).symm
  obtain ⟨succeeds, same⟩ :=
    resolveWith_order_free .builtin tapeContract reversedContract s rfl order
  obtain ⟨other, reordered⟩ := succeeds.mp ⟨m, resolved⟩
  obtain ⟨types, requests, contexts⟩ := same m other resolved reordered
  have distinct : (m.requests.map (·.request.sdkName)).Nodup := by decide +kernel
  have payloads : ∀ t ∈ m.requests, t.request.payload?.isOk = true := by decide +kernel
  obtain ⟨set, built⟩ := Model.contexts_generic_succeeds_iff.mpr payloads
  exact ⟨m, other, resolved, reordered, types, rfl, requests, distinct, set, built,
    (contexts distinct .generic set).mp built⟩

end Contract

end ApiContract
