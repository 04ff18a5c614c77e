import ApiContract.Proofs.Resolution
import Mathlib.Data.List.Nodup

set_option autoImplicit false

namespace ApiContract

def TaggedRequest.isCalled (t : TaggedRequest) (name : String) : Bool :=
  t.request.name == name || Name.simple t.request.name == name

theorem TaggedRequest.isCalled_iff {t : TaggedRequest} {name : String} :
    t.isCalled name = true ↔ t.request.name = name ∨ Name.simple t.request.name = name := by
  simp [isCalled]

namespace Model

open TaggedRequest

variable {m : Model} {before after : List TaggedRequest} {t : TaggedRequest}

theorem find?_eq (m : Model) (name : String) :
    m.find? name = m.requests.find? (·.isCalled name) := rfl

theorem find?_eq_none_iff {name : String} :
    m.find? name = none ↔
      ∀ t ∈ m.requests, t.request.name ≠ name ∧ Name.simple t.request.name ≠ name := by
  simp only [find?_eq, List.find?_eq_none, isCalled_iff, not_or, ne_eq]

theorem find?_fullName_iff (distinct : (m.requests.map (·.request.name)).Nodup)
    (split : m.requests = before ++ t :: after) :
    m.find? t.request.name = some t ↔
      ∀ earlier ∈ before, Name.simple earlier.request.name ≠ t.request.name := by
  have called : t.isCalled t.request.name = true := isCalled_iff.mpr (.inl rfl)
  have searched : m.find? t.request.name =
      (before.find? (·.isCalled t.request.name)).or (some t) := by
    simp only [find?_eq, split, List.find?_append, List.find?_cons, called]
  have otherName : ∀ earlier ∈ before, earlier.request.name ≠ t.request.name := by
    rw [split, List.map_append, List.nodup_append] at distinct
    exact fun earlier listed => distinct.2.2 _ (List.mem_map_of_mem listed) _ (by simp)
  cases first : before.find? (·.isCalled t.request.name) with
  | none =>
    have uncalled := List.find?_eq_none.mp first
    simp only [searched, first, Option.none_or, true_iff]
    exact fun earlier listed same => uncalled earlier listed (isCalled_iff.mpr (.inr same))
  | some hider =>
    have listed := List.mem_of_find?_eq_some first
    have found : hider.isCalled t.request.name = true := by simpa using List.find?_some first
    have hides := (isCalled_iff.mp found).resolve_left (otherName hider listed)
    simp only [searched, first, Option.some_or, Option.some.injEq]
    constructor
    · rintro rfl
      exact absurd rfl (otherName hider listed)
    · intro apart
      exact absurd hides (apart hider listed)

theorem find?_of_dot (distinct : (m.requests.map (·.request.name)).Nodup)
    (listed : t ∈ m.requests) (dot : '.' ∈ t.request.name.toList) :
    m.find? t.request.name = some t := by
  obtain ⟨before, after, split⟩ := List.append_of_mem listed
  refine (find?_fullName_iff distinct split).mpr fun earlier _ same => ?_
  exact Name.no_dot_in_simple earlier.request.name (same ▸ dot)

theorem find?_by_name (m : Model) :
    ((m.requests.map (·.request.name)).Nodup →
        (∀ before t after, m.requests = before ++ t :: after →
          (m.find? t.request.name = some t ↔
            ∀ earlier ∈ before, Name.simple earlier.request.name ≠ t.request.name)) ∧
        ∀ t ∈ m.requests, '.' ∈ t.request.name.toList → m.find? t.request.name = some t) ∧
      ∀ name, m.find? name = none ↔
        ∀ t ∈ m.requests, t.request.name ≠ name ∧ Name.simple t.request.name ≠ name :=
  ⟨fun distinct => ⟨fun _ _ _ => find?_fullName_iff distinct, fun _ => find?_of_dot distinct⟩,
    fun _ => find?_eq_none_iff⟩

def lookupRequest (name : String) : Request where
  name
  family := .objectApi

-- All three have the same simple name.
def lookupContract : Contract where
  requests := ["com.acme.GetTapeRequest", "GetTapeRequest", "org.acme.GetTapeRequest"].map
    lookupRequest
  types := .empty

def lookupModel : Model :=
  lookupContract.modelOf .builtin {} lookupContract.requests

def lookupTagged (name : String) : TaggedRequest :=
  ⟨lookupRequest name, Registry.builtin.classify (lookupRequest name)⟩

theorem resolve_lookupContract : lookupContract.resolve {} = .ok lookupModel := by
  have valid : validateAll lookupContract.requests = .ok () := by decide
  have undivided : splitAll lookupContract.requests = .ok lookupContract.requests := by
    decide +kernel
  exact Contract.resolveWith_of_splitAll valid undivided

theorem lookupModel_requests :
    lookupModel.requests = [lookupTagged "com.acme.GetTapeRequest", lookupTagged "GetTapeRequest",
      lookupTagged "org.acme.GetTapeRequest"] := rfl

theorem lookupModel_distinct : (lookupModel.requests.map (·.request.name)).Nodup := by decide

theorem find?_by_name_lookupModel :
    lookupContract.resolve {} = .ok lookupModel ∧
      (lookupModel.requests.map (·.request.name)).Nodup ∧
      lookupModel.find? "com.acme.GetTapeRequest" =
        some (lookupTagged "com.acme.GetTapeRequest") ∧
      lookupModel.find? "org.acme.GetTapeRequest" =
        some (lookupTagged "org.acme.GetTapeRequest") ∧
      lookupModel.find? "PutTapeRequest" = none := by
  obtain ⟨full, none⟩ := find?_by_name lookupModel
  obtain ⟨unhidden, dotted⟩ := full lookupModel_distinct
  refine ⟨resolve_lookupContract, lookupModel_distinct, ?_, ?_, (none _).mpr (by decide)⟩
  · exact dotted (lookupTagged "com.acme.GetTapeRequest") (by simp [lookupModel_requests])
      (by decide)
  · exact (unhidden [_, _] (lookupTagged "org.acme.GetTapeRequest") []
      lookupModel_requests).mpr (by decide)

/-- A request without a scope can be hidden from its full name, which is its simple name too. -/
theorem find?_hidden :
    lookupContract.resolve {} = .ok lookupModel ∧
      (lookupModel.requests.map (·.request.name)).Nodup ∧
      ∃ t ∈ lookupModel.requests, lookupModel.find? t.request.name ≠ some t := by
  refine ⟨resolve_lookupContract, lookupModel_distinct, lookupTagged "GetTapeRequest",
    by simp [lookupModel_requests], ?_⟩
  have split : lookupModel.requests = [_] ++ lookupTagged "GetTapeRequest" :: [_] :=
    lookupModel_requests
  have iff := find?_fullName_iff lookupModel_distinct split
  exact iff.not.mpr (by decide)

end Model

end ApiContract
