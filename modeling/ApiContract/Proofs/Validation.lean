import ApiContract.Proofs.Naming
import ApiContract.Proofs.Splitting
import ApiContract.Resolve

set_option autoImplicit false

namespace ApiContract

/-- The request has a simple name, its parameters names and types, and all types names. -/
structure Request.WellNamed (r : Request) : Prop where
  name : Name.simple r.name ≠ ""
  params : ∀ p ∈ r.allParams, p.name ≠ "" ∧ p.typeName ≠ ""
  types : ∀ rc ∈ r.responseCodes, ∀ t ∈ rc.types, t.typeName ≠ ""

theorem Param.defect?_eq_none_iff {p : Param} :
    p.defect? = none ↔ p.name ≠ "" ∧ p.typeName ≠ "" := by
  by_cases unnamed : p.name = "" <;> simp [defect?, unnamed]

theorem ResponseCode.defect?_eq_none_iff {rc : ResponseCode} :
    rc.defect? = none ↔ ∀ t ∈ rc.types, t.typeName ≠ "" := by
  simp [defect?]

theorem Request.defect?_eq_none_iff {r : Request} : r.defect? = none ↔ r.WellNamed := by
  have head : r.headDefect? = none ↔
      Name.simple r.name ≠ "" ∧ ∀ p ∈ r.allParams, p.name ≠ "" ∧ p.typeName ≠ "" := by
    by_cases unnamed : Name.simple r.name = "" <;>
      simp [headDefect?, unnamed, Param.defect?_eq_none_iff]
  have codes : r.responseCodes.findSome? ResponseCode.defect? = none ↔
      ∀ rc ∈ r.responseCodes, ∀ t ∈ rc.types, t.typeName ≠ "" := by
    simp [ResponseCode.defect?_eq_none_iff]
  rw [defect?, Option.orElse_eq_orElse, Option.orElse_eq_or, Option.or_eq_none_iff, head, codes]
  constructor
  · rintro ⟨⟨name, params⟩, types⟩
    exact ⟨name, params, types⟩
  · rintro ⟨name, params, types⟩
    exact ⟨⟨name, params⟩, types⟩

theorem Request.validate_eq_ok_iff {r : Request} : r.validate = .ok () ↔ r.WellNamed := by
  rw [← defect?_eq_none_iff, validate]
  cases r.defect? <;> simp

theorem validateAll_eq_ok_iff {requests : List Request} :
    validateAll requests = .ok () ↔ ∀ r ∈ requests, r.WellNamed := by
  induction requests with
  | nil => simp [validateAll]
  | cons r rest ih =>
    rw [validateAll, bind_eq_ok, List.forall_mem_cons, ← Request.validate_eq_ok_iff, ← ih]
    exact ⟨fun ⟨(), valid, others⟩ => ⟨valid, others⟩, fun ⟨valid, others⟩ => ⟨(), valid, others⟩⟩

theorem validateAll_eq_error_iff {requests : List Request} {e : Error} :
    validateAll requests = .error e ↔ FirstFailure Request.validate requests e := by
  induction requests with
  | nil => simp [validateAll]
  | cons r rest ih =>
    cases valid : r.validate with
    | error first => simp [validateAll, bind_eq_error, valid, FirstFailure.cons_of_error valid]
    | ok => simp [validateAll, bind_eq_error, valid, FirstFailure.cons_of_ok valid, ih]

namespace Request.WellNamed

variable {r : Request} {rule : SplitRule}

theorem narrowed (valid : r.WellNamed) (payload : String) :
    ∀ rc ∈ narrow r.responseCodes payload, ∀ t ∈ rc.types, t.typeName ≠ "" := by
  intro after member t inside
  obtain ⟨before, listed, -, fewer⟩ := mem_narrow member
  exact valid.types before listed t (fewer inside)

theorem dropParam (valid : r.WellNamed) (name : String) :
    ∀ p ∈ (r.dropParam name).allParams, p.name ≠ "" ∧ p.typeName ≠ "" := by
  intro p member
  exact valid.params p (mem_allParams_dropParam.mp member).1

theorem baseOf (valid : r.WellNamed) : (rule.baseOf r).WellNamed where
  name := valid.name
  params := valid.dropParam rule.viewParam
  types := valid.narrowed rule.basePayload

theorem spellingOf_ne_empty (valid : r.WellNamed) {name : String} (named : name ≠ "") :
    r.spellingOf name ≠ "" := by
  unfold spellingOf
  cases found : Param.find? r.allParams name with
  | none => exact named
  | some p => exact (valid.params p (List.mem_of_find?_eq_some found)).1

theorem detailedOf (valid : r.WellNamed) (named : rule.viewParam ≠ "") :
    (rule.detailedOf r).WellNamed where
  name := Name.simple_fullDetails_ne_empty r.name
  params p member := by
    rcases SplitRule.mem_allParams_detailedOf.mp member with old | rfl
    · exact valid.dropParam rule.viewParam p old
    -- The flag is spelled as in the request or, where it has no such parameter, as in the rule.
    · have typed : voidType ≠ "" := by decide
      exact ⟨valid.spellingOf_ne_empty named, typed⟩
  types := valid.narrowed rule.detailedPayload

theorem variant (valid : r.WellNamed) {v : Request} (variant : r.HasVariant v) :
    v.WellNamed := by
  cases variant with
  | itself => exact valid
  | base => exact valid.baseOf
  | @detailed rule found single =>
    have named : rule.viewParam ≠ "" := by
      rw [viewParam_of_mem (List.mem_of_find?_eq_some found)]
      decide
    exact valid.detailedOf named

end Request.WellNamed

end ApiContract
