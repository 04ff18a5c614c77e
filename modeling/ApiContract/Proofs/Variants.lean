import ApiContract.Proofs.Splitting

set_option autoImplicit false

namespace ApiContract

variable {r : Request} {rule : SplitRule}

theorem payload_listed (found : r.splitRule? = some rule) {payload : String}
    (either : payload ∈ [rule.basePayload, rule.detailedPayload]) :
    ∀ rc ∈ r.responseCodes, rc.isMultiple = true →
      ∃ t ∈ rc.types, t.isCalled payload none = true := by
  obtain ⟨-, -, listed⟩ := SplitRule.covers_iff.mp (Request.splitRule?_covers found)
  exact fun rc member multiple => listed rc member multiple payload either

theorem baseOf_narrowed (found : r.splitRule? = some rule)
    (single : (rule.baseOf r).hasMultipleTypes = false) :
    List.Forall₂ (ResponseCode.Narrowed r.responseCodes rule.basePayload) r.responseCodes
      (rule.baseOf r).responseCodes :=
  narrow_narrowed (payload_listed found (by simp))
    (Request.hasMultipleTypes_eq_false_iff.mp single)

theorem detailedOf_narrowed (found : r.splitRule? = some rule)
    (single : (rule.detailedOf r).hasMultipleTypes = false) :
    List.Forall₂ (ResponseCode.Narrowed r.responseCodes rule.detailedPayload) r.responseCodes
      (rule.detailedOf r).responseCodes :=
  narrow_narrowed (payload_listed found (by simp))
    (Request.hasMultipleTypes_eq_false_iff.mp single)

theorem splitAll_narrows {requests variants : List Request}
    (divided : splitAll requests = .ok variants) :
    (∀ v ∈ variants, ∀ rc ∈ v.responseCodes, rc.types.length ≤ 1) ∧
      ∀ r ∈ requests, (∃ rc ∈ r.responseCodes, 1 < rc.types.length) →
        ∃ rule base detailed, r.splitRule? = some rule ∧ r.split = .ok [base, detailed] ∧
          [base, detailed] <:+: variants ∧
          List.Forall₂ (ResponseCode.Narrowed r.responseCodes rule.basePayload)
            r.responseCodes base.responseCodes ∧
          List.Forall₂ (ResponseCode.Narrowed r.responseCodes rule.detailedPayload)
            r.responseCodes detailed.responseCodes := by
  constructor
  · intro v member rc listed
    have single := Request.hasMultipleTypes_eq_false_iff.mp (splitAll_single divided v member)
    exact ResponseCode.isMultiple_eq_false_iff.mp (single rc listed)
  · rintro r member ⟨rc, listed, several⟩
    have multiple : r.hasMultipleTypes = true :=
      Request.hasMultipleTypes_iff.mpr ⟨rc, listed, ResponseCode.isMultiple_iff.mpr several⟩
    obtain ⟨group, split, inside⟩ := split_infix_splitAll divided member
    obtain ⟨rule, found, apart, rfl⟩ := (Request.split_of_multiple multiple).mp split
    obtain ⟨baseSingle, detailedSingle, -⟩ := SplitRule.split_eq_ok_iff.mp apart
    exact ⟨rule, _, _, found, split, inside, baseOf_narrowed found baseSingle,
      detailedOf_narrowed found detailedSingle⟩

def tapeTypes : List ResponseType :=
  [{ typeName := "com.acme.Tape" }, { typeName := "com.acme.Handler$TapeApiBean" },
    { typeName := "array", componentType := some "com.acme.Tape" }]

-- One status stands in two entries, and one entry also lists a collection of the base payload.
def tapeRequest : Request where
  name := "com.acme.GetTapeRequestHandler"
  family := .managementApi
  resource := some (.known .tape)
  optionalParams := [{ name := "fulldetails", typeName := voidType }]
  responseCodes := [
    { code := 200, types := tapeTypes },
    { code := 200, types := [{ typeName := "com.acme.Tape" }] },
    { code := 206, types := tapeTypes.reverse },
    { code := 404, types := [{ typeName := "com.acme.Failure" }] }]

def tapeRule : SplitRule where
  stem := "GetTape"
  resource := "TAPE"
  viewParam := Name.fullDetailsToken
  basePayload := "Tape"
  detailedPayload := "TapeApiBean"

theorem splitAll_narrows_tapeRequest :
    ∃ variants, splitAll [tapeRequest] = .ok variants ∧ variants.length = 2 ∧
      (∀ v ∈ variants, ∀ rc ∈ v.responseCodes, rc.types.length ≤ 1) ∧
      ∃ rule base detailed, tapeRequest.splitRule? = some rule ∧
        tapeRequest.split = .ok [base, detailed] ∧ [base, detailed] <:+: variants ∧
        List.Forall₂ (ResponseCode.Narrowed tapeRequest.responseCodes rule.basePayload)
          tapeRequest.responseCodes base.responseCodes ∧
        List.Forall₂ (ResponseCode.Narrowed tapeRequest.responseCodes rule.detailedPayload)
          tapeRequest.responseCodes detailed.responseCodes := by
  have divided : splitAll [tapeRequest] =
      .ok [tapeRule.baseOf tapeRequest, tapeRule.detailedOf tapeRequest] := by decide +kernel
  obtain ⟨single, narrowed⟩ := splitAll_narrows divided
  exact ⟨_, divided, rfl, single, narrowed tapeRequest (by simp) (by decide)⟩

theorem split_retains_payloads {base detailed : Request}
    (divided : r.split = .ok [base, detailed]) :
    ∃ rule, r.splitRule? = some rule ∧
      List.Forall₂ (ResponseCode.Retained r.responseCodes rule.basePayload)
        r.responseCodes base.responseCodes ∧
      List.Forall₂ (ResponseCode.Retained r.responseCodes rule.detailedPayload)
        r.responseCodes detailed.responseCodes := by
  obtain ⟨rule, found, apart⟩ := Request.split_eq_pair divided
  obtain ⟨-, -, same⟩ := SplitRule.split_eq_ok_iff.mp apart
  obtain ⟨rfl, rfl⟩ := Prod.mk.inj same
  have listed : rule ∈ splitRules := List.mem_of_find?_eq_some found
  exact ⟨rule, found, narrow_retained (payload_ne_empty listed (by simp)),
    narrow_retained (payload_ne_empty listed (by simp))⟩

theorem split_tapeRequest :
    tapeRequest.split = .ok [tapeRule.baseOf tapeRequest, tapeRule.detailedOf tapeRequest] := by
  decide +kernel

theorem split_retains_payloads_tapeRequest :
    ∃ rule base detailed, tapeRequest.split = .ok [base, detailed] ∧
      tapeRequest.splitRule? = some rule ∧
      List.Forall₂ (ResponseCode.Retained tapeRequest.responseCodes rule.basePayload)
        tapeRequest.responseCodes base.responseCodes ∧
      List.Forall₂ (ResponseCode.Retained tapeRequest.responseCodes rule.detailedPayload)
        tapeRequest.responseCodes detailed.responseCodes := by
  obtain ⟨rule, found, base, detailed⟩ := split_retains_payloads split_tapeRequest
  exact ⟨rule, _, _, split_tapeRequest, found, base, detailed⟩

-- Under status 206 the collection is in neither variant; the tape that shares status 200 with
-- several types is in the base variant only.
theorem split_loses_types :
    ∃ base detailed, tapeRequest.split = .ok [base, detailed] ∧
      (∃ before b d, tapeRequest.responseCodes[2]? = some before ∧
        base.responseCodes[2]? = some b ∧ detailed.responseCodes[2]? = some d ∧
        ∃ t ∈ before.types, t ∉ b.types ∧ t ∉ d.types) ∧
      ∃ before b d, tapeRequest.responseCodes[1]? = some before ∧
        base.responseCodes[1]? = some b ∧ detailed.responseCodes[1]? = some d ∧
        ∃ t, before.types = [t] ∧ t ∈ b.types ∧ t ∉ d.types := by
  refine ⟨_, _, split_tapeRequest, ?_, ?_⟩
  · exact ⟨_, _, _, rfl, rfl, rfl, by decide +kernel⟩
  · exact ⟨_, _, _, rfl, rfl, rfl, _, rfl, by decide +kernel⟩

end ApiContract
