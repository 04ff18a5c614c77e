import ApiContract.Proofs.Expansion
import ApiContract.Proofs.Resolution
import ApiContract.Proofs.TokenInsertion
import Mathlib.Data.List.Lattice
import Mathlib.Data.List.Nodup

set_option autoImplicit false

namespace ApiContract

namespace Name

theorem fullDetails_ne (name : String) : fullDetails name ≠ name := by
  intro same
  obtain ⟨front, tail, -, whole, inserted⟩ := insertInSimple_eq (simple name) fullDetailsToken
  have longer := simple_fullDetails name
  rw [same, inserted] at longer
  have lengths := congrArg String.length (whole.symm.trans longer)
  simp [fullDetailsToken] at lengths

theorem eq_or_dotted_of_fullDetails_eq {name other : String}
    (same : fullDetails name = fullDetails other) :
    name = other ∨ name = "." ++ other ∨ other = "." ++ name := by
  rcases fullDetails_eq_iff.mp same with rfl | ⟨bare, rfl⟩ | ⟨bare, rfl⟩
  · exact .inl rfl
  · exact .inr (.inl bare)
  · exact .inr (.inr bare)

end Name

namespace Request

variable {r : Request}

def variantNames (r : Request) : List String :=
  if r.hasMultipleTypes then [r.name, Name.fullDetails r.name] else [r.name]

theorem ReplacedBy.names {group : List Request} (replaced : r.ReplacedBy group) :
    group.map (·.name) = r.variantNames := by
  cases replaced with
  | itself single => simp [variantNames, hasMultipleTypes_eq_false_iff_single.mpr single]
  | variants several baseName detailedName =>
    simp [variantNames, hasMultipleTypes_iff_several.mpr several, baseName, detailedName]

theorem nodup_variantNames (r : Request) : r.variantNames.Nodup := by
  unfold variantNames
  split
  · simpa using (Name.fullDetails_ne r.name).symm
  · simp

theorem mem_variantNames {name : String} :
    name ∈ r.variantNames ↔
      name = r.name ∨ r.hasMultipleTypes = true ∧ name = Name.fullDetails r.name := by
  unfold variantNames
  split <;> simp_all

/-- The name of the full details variant is not given by any of the requests, nor by another of
them to a variant of its own. -/
def NamesDetailedAlone (requests : List Request) (r : Request) : Prop :=
  (∀ other ∈ requests, other.name ≠ Name.fullDetails r.name) ∧
    ∀ other ∈ requests, other.hasMultipleTypes = true →
      Name.fullDetails other.name = Name.fullDetails r.name → other = r

instance (requests : List Request) (r : Request) : Decidable (r.NamesDetailedAlone requests) :=
  inferInstanceAs (Decidable (_ ∧ _))

end Request

theorem names_splitAll {requests variants : List Request}
    (divided : splitAll requests = .ok variants) :
    variants.map (·.name) = requests.flatMap Request.variantNames := by
  obtain ⟨groups, each, rfl⟩ := splitAll_eq_ok_iff.mp divided
  clear divided
  induction each with
  | nil => rfl
  | cons first _ ih =>
    rw [List.flatten_cons, List.map_append, ih, (Request.replacedBy_of_split first).names,
      List.flatMap_cons]

theorem eq_of_pairwise_disjoint {α β : Type} {names : α → List β} {values : List α}
    (apart : values.Pairwise (Function.onFun List.Disjoint names)) {a b : α} (first : a ∈ values)
    (second : b ∈ values) {name : β} (ofFirst : name ∈ names a) (ofSecond : name ∈ names b) :
    a = b := by
  by_contra different
  have : Std.Symm (Function.onFun List.Disjoint names) := ⟨fun _ _ => List.Disjoint.symm⟩
  exact apart.forall first second different ofFirst ofSecond

theorem nodup_names_iff {requests : List Request} (distinct : (requests.map (·.name)).Nodup)
    (chosen : String → Bool) :
    ((requests.flatMap Request.variantNames).filter chosen).Nodup ↔
      ∀ r ∈ requests, r.hasMultipleTypes = true → chosen (Name.fullDetails r.name) = true →
        r.NamesDetailedAlone requests := by
  rw [List.filter_flatMap, List.nodup_flatMap]
  constructor
  · rintro ⟨-, apart⟩ r listed multiple kept
    have derived : Name.fullDetails r.name ∈ r.variantNames.filter chosen :=
      List.mem_filter.mpr ⟨Request.mem_variantNames.mpr (.inr ⟨multiple, rfl⟩), kept⟩
    have only {other : Request} (listed' : other ∈ requests)
        (named : Name.fullDetails r.name ∈ other.variantNames) : other = r :=
      eq_of_pairwise_disjoint apart listed' listed (List.mem_filter.mpr ⟨named, kept⟩) derived
    constructor
    · intro other listed' same
      obtain rfl := only listed' (Request.mem_variantNames.mpr (.inl same.symm))
      exact Name.fullDetails_ne other.name same.symm
    · intro other listed' several same
      exact only listed' (Request.mem_variantNames.mpr (.inr ⟨several, same.symm⟩))
  · intro alone
    refine ⟨fun r _ => r.nodup_variantNames.filter _, distinct.of_map.pairwise_of_forall_ne ?_⟩
    intro r listed other listed' different name inFirst inSecond
    obtain ⟨first, kept⟩ := List.mem_filter.mp inFirst
    have second := (List.mem_filter.mp inSecond).1
    -- A shared name is the own name of both, or derived for one of them or for both.
    rcases Request.mem_variantNames.mp first with rfl | ⟨multiple, rfl⟩ <;>
      rcases Request.mem_variantNames.mp second with same | ⟨several, same⟩
    · exact different (List.inj_on_of_nodup_map distinct listed listed' same)
    · exact (alone other listed' several (same ▸ kept)).1 r listed same
    · exact (alone r listed multiple kept).1 other listed' same.symm
    · exact different ((alone r listed multiple kept).2 other listed' several same.symm).symm

theorem Selection.candidates_sublist (s : Selection) (requests : List Request) :
    (s.candidates requests).Sublist requests := by
  unfold candidates
  split
  · exact List.Sublist.refl requests
  · exact List.filter_sublist

namespace Contract

variable {registry : Registry} {c : Contract} {s : Selection} {m : Model}

theorem names_of_resolveWith (resolved : c.resolveWith registry s = .ok m) :
    ∃ chosen : String → Bool, m.requests.map (·.request.name) =
      ((s.candidates c.requests).flatMap Request.variantNames).filter chosen := by
  obtain ⟨-, variants, divided, rfl⟩ := resolveWith_eq_ok_iff.mp resolved
  -- The selection looks at the name of a request and at nothing else.
  let chosen : String → Bool := fun name => s.admits { name, family := .managementApi }
  refine ⟨chosen, ?_⟩
  rw [← names_splitAll divided, List.filter_map]
  simp only [modelOf, List.map_map, Selection.filter]
  rfl

theorem resolveWith_names_nodup_iff (distinct : (c.requests.map (·.name)).Nodup)
    (resolved : c.resolveWith registry s = .ok m) :
    ((m.requests.map (·.request.name)).Nodup ↔
      ∀ r ∈ s.candidates c.requests, r.hasMultipleTypes = true →
        Name.fullDetails r.name ∈ m.requests.map (·.request.name) →
          r.NamesDetailedAlone (s.candidates c.requests)) ∧
      ∀ name other, Name.fullDetails name = Name.fullDetails other →
        name = other ∨ name = "." ++ other ∨ other = "." ++ name := by
  refine ⟨?_, fun _ _ => Name.eq_or_dotted_of_fullDetails_eq⟩
  obtain ⟨chosen, names⟩ := names_of_resolveWith resolved
  have candidates : ((s.candidates c.requests).map (·.name)).Nodup :=
    distinct.sublist ((s.candidates_sublist c.requests).map _)
  rw [names, nodup_names_iff candidates]
  refine forall₂_congr fun r listed => forall_congr' fun multiple => ?_
  have named : Name.fullDetails r.name ∈ (s.candidates c.requests).flatMap Request.variantNames :=
    List.mem_flatMap.mpr ⟨r, listed, Request.mem_variantNames.mpr (.inr ⟨multiple, rfl⟩)⟩
  rw [List.mem_filter, and_iff_right named]

def namesakeRequest : Request where
  name := "com.acme.GetTapeFullDetailsRequestHandler"
  family := .managementApi

def namesakeContract : Contract where
  requests := [tapeRequest, namesakeRequest, { tapeRequest with name := "org.acme.GetTapeRequest" }]
  types := .empty

def namesakeVariants : List Request :=
  let other : Request := { tapeRequest with name := "org.acme.GetTapeRequest" }
  [tapeRule.baseOf tapeRequest, tapeRule.detailedOf tapeRequest, namesakeRequest,
    tapeRule.baseOf other, tapeRule.detailedOf other]

theorem resolveWith_namesakeContract (s : Selection) :
    namesakeContract.resolveWith registry s =
      .ok (namesakeContract.modelOf registry s namesakeVariants) := by
  have external : ∀ r ∈ namesakeContract.requests, r.isInternal = false := by decide
  have all : s.candidates namesakeContract.requests = namesakeContract.requests :=
    Selection.candidates_eq_self fun r listed => .inr (external r listed)
  apply resolveWith_of_splitAll <;> rw [all]
  case valid => decide
  case divided => decide +kernel

theorem resolve_repeats_name :
    (namesakeContract.requests.map (·.name)).Nodup ∧
      ∃ m, namesakeContract.resolve {} = .ok m ∧ ¬(m.requests.map (·.request.name)).Nodup := by
  refine ⟨by decide, _, resolveWith_namesakeContract {}, ?_⟩
  decide +kernel

-- The name that is given twice is left out, and the other derived name is in a scope of its own.
theorem resolveWith_names_nodup_iff_namesakeContract :
    let s : Selection := { excluded := ["GetTapeFullDetailsRequestHandler"] }
    ∃ m, namesakeContract.resolve s = .ok m ∧
      m.requests.map (·.request.name) = ["com.acme.GetTapeRequestHandler",
        "org.acme.GetTapeRequest", "org.acme.GetTapeFullDetailsRequest"] ∧
      (m.requests.map (·.request.name)).Nodup := by
  intro s
  have distinct : (namesakeContract.requests.map (·.name)).Nodup := by decide
  have resolved := @resolveWith_namesakeContract .builtin s
  have names : (namesakeContract.modelOf .builtin s namesakeVariants).requests.map
      (·.request.name) = ["com.acme.GetTapeRequestHandler", "org.acme.GetTapeRequest",
        "org.acme.GetTapeFullDetailsRequest"] := by decide +kernel
  refine ⟨_, resolved, names, (resolveWith_names_nodup_iff distinct resolved).1.mpr ?_⟩
  rw [names]
  decide +kernel

end Contract

end ApiContract
