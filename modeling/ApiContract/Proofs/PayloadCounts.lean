import ApiContract.Proofs.Refusal

set_option autoImplicit false

namespace ApiContract

def SplitRule.PayloadCounts (rule : SplitRule) (r : Request) (allowed : Nat → Prop) : Prop :=
  ∀ rc ∈ r.responseCodes, 1 < rc.types.length →
    ∀ payload ∈ [rule.basePayload, rule.detailedPayload],
      allowed (rc.types.countP (·.IsPayload payload))

instance (rule : SplitRule) (r : Request) (allowed : Nat → Prop) [DecidablePred allowed] :
    Decidable (rule.PayloadCounts r allowed) :=
  inferInstanceAs (Decidable (∀ rc ∈ r.responseCodes, _))

namespace ResponseCode

structure Chosen (payload : String) (before after : ResponseCode) : Prop where
  code : after.code = before.code
  types : 1 < before.types.length → after.types = before.types.filter (·.IsPayload payload)
  single : after.types.length ≤ 1

def OneLeft (before after : ResponseCode) : Prop :=
  1 < before.types.length → after.types.length = 1

variable {payload : String} {before after : ResponseCode}

theorem Chosen.oneLeft_iff (chosen : Chosen payload before after) :
    OneLeft before after ↔
      (1 < before.types.length → before.types.countP (·.IsPayload payload) = 1) := by
  refine forall_congr' fun several => ?_
  rw [chosen.types several, List.countP_eq_length_filter]

end ResponseCode

theorem keep_types {rc : ResponseCode} {payload : String} (named : payload ≠ "") :
    (rc.keep payload).types = rc.types.filter (·.IsPayload payload) := by
  refine List.filter_congr fun t _ => ?_
  rw [Bool.eq_iff_iff, ResponseType.isCalled_iff_isPayload named, decide_eq_true_iff]

theorem narrow_chosen {codes : List ResponseCode} {payload : String} (named : payload ≠ "")
    (single : ∀ rc ∈ narrow codes payload, rc.isMultiple = false) :
    List.Forall₂ (ResponseCode.Chosen payload) codes (narrow codes payload) := by
  rw [narrow_eq_map] at single ⊢
  rw [List.forall₂_map_right_iff, List.forall₂_same]
  intro rc member
  constructor
  · split <;> rfl
  · intro several
    rw [if_pos (isMultipleAt_of_mem member (ResponseCode.isMultiple_iff.mpr several))]
    exact keep_types named
  · exact ResponseCode.isMultiple_eq_false_iff.mp (single _ (List.mem_map_of_mem member))

theorem forall₂_oneLeft_iff {codes narrowed : List ResponseCode} {payload : String}
    (chosen : List.Forall₂ (ResponseCode.Chosen payload) codes narrowed) :
    List.Forall₂ ResponseCode.OneLeft codes narrowed ↔
      ∀ rc ∈ codes, 1 < rc.types.length → rc.types.countP (·.IsPayload payload) = 1 := by
  induction chosen with
  | nil => simp
  | cons first _ ih => rw [List.forall₂_cons, List.forall_mem_cons, first.oneLeft_iff, ih]

namespace SplitRule

variable {rule : SplitRule} {r : Request}

theorem split_succeeds_iff_payloadCounts (listed : rule ∈ splitRules) :
    (∃ variants, rule.split r = .ok variants) ↔ rule.PayloadCounts r (· ≤ 1) := by
  rw [split_succeeds_iff listed]
  simp only [Repeats, PayloadCounts, not_exists, not_and, Nat.not_lt]

theorem payloadCounts_iff_and {allowed : Nat → Prop} :
    rule.PayloadCounts r allowed ↔
      (∀ rc ∈ r.responseCodes, 1 < rc.types.length →
        allowed (rc.types.countP (·.IsPayload rule.basePayload))) ∧
      ∀ rc ∈ r.responseCodes, 1 < rc.types.length →
        allowed (rc.types.countP (·.IsPayload rule.detailedPayload)) := by
  simp only [PayloadCounts, List.forall_mem_cons, List.not_mem_nil, false_imp_iff, implies_true,
    and_true, imp_and, forall_and]

theorem chosen_of_split (listed : rule ∈ splitRules) {base detailed : Request}
    (divided : rule.split r = .ok (base, detailed)) :
    List.Forall₂ (ResponseCode.Chosen rule.basePayload) r.responseCodes base.responseCodes ∧
      List.Forall₂ (ResponseCode.Chosen rule.detailedPayload) r.responseCodes
        detailed.responseCodes := by
  obtain ⟨baseSingle, detailedSingle, same⟩ := split_eq_ok_iff.mp divided
  obtain ⟨rfl, rfl⟩ := Prod.mk.inj same
  rw [Request.hasMultipleTypes_eq_false_iff] at baseSingle detailedSingle
  exact ⟨narrow_chosen (payload_ne_empty listed (by simp)) baseSingle,
    narrow_chosen (payload_ne_empty listed (by simp)) detailedSingle⟩

theorem oneLeft_iff_payloadCounts (listed : rule ∈ splitRules) {base detailed : Request}
    (divided : rule.split r = .ok (base, detailed)) :
    (List.Forall₂ ResponseCode.OneLeft r.responseCodes base.responseCodes ∧
      List.Forall₂ ResponseCode.OneLeft r.responseCodes detailed.responseCodes) ↔
      rule.PayloadCounts r (· = 1) := by
  obtain ⟨chosen, chosen'⟩ := chosen_of_split listed divided
  rw [payloadCounts_iff_and, forall₂_oneLeft_iff chosen, forall₂_oneLeft_iff chosen']

theorem split_by_counts (listed : rule ∈ splitRules) (r : Request) :
    ((∃ variants, rule.split r = .ok variants) ↔ rule.PayloadCounts r (· ≤ 1)) ∧
      (∀ base detailed, rule.split r = .ok (base, detailed) →
        List.Forall₂ (ResponseCode.Chosen rule.basePayload) r.responseCodes base.responseCodes ∧
          List.Forall₂ (ResponseCode.Chosen rule.detailedPayload) r.responseCodes
            detailed.responseCodes) ∧
      ((∃ base detailed, rule.split r = .ok (base, detailed) ∧
          List.Forall₂ ResponseCode.OneLeft r.responseCodes base.responseCodes ∧
          List.Forall₂ ResponseCode.OneLeft r.responseCodes detailed.responseCodes) ↔
        rule.PayloadCounts r (· = 1)) ∧
      (rule.PayloadCounts r (1 ≤ ·) →
        ((∃ variants, rule.split r = .ok variants) ↔ rule.PayloadCounts r (· = 1))) := by
  have succeeds := split_succeeds_iff_payloadCounts (r := r) listed
  have atMost (once : rule.PayloadCounts r (· = 1)) : rule.PayloadCounts r (· ≤ 1) :=
    fun rc member several payload either => Nat.le_of_eq (once rc member several payload either)
  refine ⟨succeeds, fun base detailed => chosen_of_split listed, ?single, fun present => ?present⟩
  case single =>
    constructor
    · intro ⟨base, detailed, divided, left⟩
      exact (oneLeft_iff_payloadCounts listed divided).mp left
    · intro once
      obtain ⟨⟨base, detailed⟩, divided⟩ := succeeds.mpr (atMost once)
      exact ⟨base, detailed, divided, (oneLeft_iff_payloadCounts listed divided).mpr once⟩
  case present =>
    rw [succeeds]
    refine ⟨fun few rc member several payload either => ?_, atMost⟩
    exact Nat.le_antisymm (few rc member several payload either)
      (present rc member several payload either)

theorem split_by_counts_tapeRequest :
    tapeRule ∈ splitRules ∧
      (tapeRule.PayloadCounts tapeRequest (1 ≤ ·) ∧
        ∃ variants, tapeRule.split tapeRequest = .ok variants) ∧
      (∃ base detailed, tapeRule.split tapeRequest = .ok (base, detailed) ∧
        List.Forall₂ ResponseCode.OneLeft tapeRequest.responseCodes base.responseCodes ∧
        List.Forall₂ ResponseCode.OneLeft tapeRequest.responseCodes detailed.responseCodes) ∧
      (¬∃ variants, tapeRule.split repeatedRequest = .ok variants) ∧
      ∃ base detailed, tapeRule.split partialRequest = .ok (base, detailed) ∧
        List.Forall₂ (ResponseCode.Chosen "Tape") partialRequest.responseCodes
          base.responseCodes := by
  have listed : tapeRule ∈ splitRules := by decide
  have present : tapeRule.PayloadCounts tapeRequest (1 ≤ ·) := by decide
  have once : tapeRule.PayloadCounts tapeRequest (· = 1) := by decide
  obtain ⟨-, -, single, claimed⟩ := split_by_counts listed tapeRequest
  obtain ⟨repeated, -⟩ := split_by_counts listed repeatedRequest
  obtain ⟨few, chosen, -⟩ := split_by_counts listed partialRequest
  obtain ⟨⟨base, detailed⟩, divided⟩ := few.mpr (by decide)
  refine ⟨listed, ⟨present, (claimed present).mpr once⟩, single.mpr once, ?_, ?_⟩
  · exact mt repeated.mp (by decide)
  · exact ⟨base, detailed, divided, (chosen base detailed divided).1⟩

-- Under the second status the base payload is missing, and the base variant has no type there.
theorem split_leaves_no_type :
    tapeRule ∈ splitRules ∧ ¬tapeRule.PayloadCounts partialRequest (· = 1) ∧
      ∃ base detailed, tapeRule.split partialRequest = .ok (base, detailed) ∧
        ∃ before after, partialRequest.responseCodes[1]? = some before ∧
          base.responseCodes[1]? = some after ∧ 1 < before.types.length ∧ after.types = [] := by
  have divided : tapeRule.split partialRequest =
      .ok (tapeRule.baseOf partialRequest, tapeRule.detailedOf partialRequest) := by
    decide
  exact ⟨by decide, by decide, _, _, divided, _, _, rfl, rfl, by decide, by decide +kernel⟩

end SplitRule

end ApiContract
