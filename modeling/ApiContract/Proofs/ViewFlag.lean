import ApiContract.Proofs.Variants

set_option autoImplicit false

namespace ApiContract

/-- How a parameter is spelled: as the first of its name, or as given where there is none. -/
inductive Param.Spelled (ps : List Param) (name : String) : String → Prop where
  | first {before after : List Param} {p : Param} (place : ps = before ++ p :: after)
      (others : ∀ q ∈ before, Text.sameIgnoringCase q.name name = false)
      (same : Text.sameIgnoringCase p.name name = true) : Spelled ps name p.name
  | absent (others : ∀ q ∈ ps, Text.sameIgnoringCase q.name name = false) : Spelled ps name name

theorem Request.spellingOf_spelled (r : Request) (name : String) :
    Param.Spelled r.allParams name (r.spellingOf name) := by
  unfold spellingOf
  cases found : Param.find? r.allParams name with
  | none =>
    refine .absent fun q member => ?_
    simpa [Param.isNamed] using List.find?_eq_none.mp found q member
  | some p =>
    obtain ⟨same, before, after, place, others⟩ := List.find?_eq_some_iff_append.mp found
    exact .first place (fun q member => by simpa [Param.isNamed] using others q member) same

theorem Param.valued_append_flag (ps : List Param) (name : String) :
    valued (ps ++ [{ name := name, typeName := voidType }]) = valued ps := by
  simp [valued, isVoid]

namespace SplitRule

structure Divides (rule : SplitRule) (r base detailed : Request) : Prop where
  base_eq : base = { r with
    responseCodes := base.responseCodes
    optionalParams := base.optionalParams
    requiredParams := base.requiredParams }
  detailed_eq : detailed = { r with
    name := Name.fullDetails r.name
    responseCodes := detailed.responseCodes
    optionalParams := detailed.optionalParams
    requiredParams := detailed.requiredParams }
  baseOptional : base.optionalParams =
    r.optionalParams.filter fun p => !Text.sameIgnoringCase p.name rule.viewParam
  detailedOptional : detailed.optionalParams = base.optionalParams
  baseRequired : base.requiredParams =
    r.requiredParams.filter fun p => !Text.sameIgnoringCase p.name rule.viewParam
  detailedRequired : ∃ spelling,
    Param.Spelled (r.optionalParams ++ r.requiredParams) rule.viewParam spelling ∧
      detailed.requiredParams = base.requiredParams ++
        [{ name := spelling, typeName := "void", componentType := none, nullable := false }]
  headerArgs : detailed.headerArgs = base.headerArgs
  constructorArgs : detailed.constructorArgs = base.constructorArgs

variable {rule : SplitRule} {r : Request}

theorem headerArgs_detailedOf : (rule.detailedOf r).headerArgs = (rule.baseOf r).headerArgs := rfl

theorem constructorArgs_detailedOf :
    (rule.detailedOf r).constructorArgs = (rule.baseOf r).constructorArgs := by
  have valued : Param.valued (rule.detailedOf r).requiredParams =
      Param.valued (rule.baseOf r).requiredParams := Param.valued_append_flag _ _
  rw [Request.constructorArgs, headerArgs_detailedOf, valued, Request.constructorArgs]

theorem split_divides {base detailed : Request} (divided : rule.split r = .ok (base, detailed)) :
    rule.Divides r base detailed := by
  obtain ⟨-, -, same⟩ := split_eq_ok_iff.mp divided
  obtain ⟨rfl, rfl⟩ := Prod.mk.inj same
  exact {
    base_eq := rfl
    detailed_eq := rfl
    baseOptional := rfl
    detailedOptional := rfl
    baseRequired := rfl
    detailedRequired := ⟨_, r.spellingOf_spelled rule.viewParam, rfl⟩
    headerArgs := headerArgs_detailedOf
    constructorArgs := constructorArgs_detailedOf }

-- The flag stands in both lists, spelled in two ways, and once it is no flag.
def flaggedRequest : Request :=
  { tapeRequest with
    optionalParams := [{ name := "Bucket", typeName := stringType },
      { name := "fullDETAILS", typeName := "int", nullable := true }]
    requiredParams := [{ name := "FullDetails", typeName := voidType },
      { name := "Job", typeName := uuidType }] }

theorem split_divides_flaggedRequest :
    ∃ base detailed, tapeRule.split flaggedRequest = .ok (base, detailed) ∧
      tapeRule.Divides flaggedRequest base detailed ∧
      detailed.requiredParams = [{ name := "Job", typeName := uuidType },
        { name := "fullDETAILS", typeName := "void" }] := by
  have divided : tapeRule.split flaggedRequest =
      .ok (tapeRule.baseOf flaggedRequest, tapeRule.detailedOf flaggedRequest) := by
    decide +kernel
  exact ⟨_, _, divided, split_divides divided, by decide⟩

end SplitRule

end ApiContract
