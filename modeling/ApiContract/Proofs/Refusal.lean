import ApiContract.Proofs.Variants

set_option autoImplicit false

namespace ApiContract

namespace SplitRule

variable {rule : SplitRule} {r : Request}

/-- The request has the stem and the resource of the rule, and both payloads wherever it lists
several types. -/
def Fits (rule : SplitRule) (r : Request) : Prop :=
  Name.stem r.name = rule.stem ∧ r.resource.map (·.text) = some rule.resource ∧
    ∀ rc ∈ r.responseCodes, 1 < rc.types.length →
      ∀ payload ∈ [rule.basePayload, rule.detailedPayload], ∃ t ∈ rc.types, t.IsPayload payload

instance (rule : SplitRule) (r : Request) : Decidable (rule.Fits r) :=
  inferInstanceAs (Decidable (_ ∧ _ ∧ _))

def Repeats (rule : SplitRule) (r : Request) : Prop :=
  ∃ rc ∈ r.responseCodes, 1 < rc.types.length ∧
    ∃ payload ∈ [rule.basePayload, rule.detailedPayload], 1 < rc.types.countP (·.IsPayload payload)

instance (rule : SplitRule) (r : Request) : Decidable (rule.Repeats r) :=
  inferInstanceAs (Decidable (∃ rc ∈ r.responseCodes, _ ∧ _))

theorem covers_iff_fits (listed : rule ∈ splitRules) : rule.covers r = true ↔ rule.Fits r := by
  rw [covers_iff]
  constructor
  · rintro ⟨stem, resource, payloads⟩
    refine ⟨stem, resource, fun rc member several payload either => ?_⟩
    obtain ⟨t, inside, called⟩ :=
      payloads rc member (ResponseCode.isMultiple_iff.mpr several) payload either
    exact ⟨t, inside,
      (ResponseType.isCalled_iff_isPayload (payload_ne_empty listed either)).mp called⟩
  · rintro ⟨stem, resource, payloads⟩
    refine ⟨stem, resource, fun rc member multiple payload either => ?_⟩
    obtain ⟨t, inside, isPayload⟩ :=
      payloads rc member (ResponseCode.isMultiple_iff.mp multiple) payload either
    exact ⟨t, inside,
      (ResponseType.isCalled_iff_isPayload (payload_ne_empty listed either)).mpr isPayload⟩

theorem eq_of_fits {other : SplitRule} (listed : rule ∈ splitRules)
    (otherListed : other ∈ splitRules) (fits : rule.Fits r) (otherFits : other.Fits r) :
    rule = other := by
  -- The stem of a request belongs to one rule at most.
  have distinct : ∀ a ∈ splitRules, ∀ b ∈ splitRules, a.stem = b.stem → a = b := by decide
  exact distinct rule listed other otherListed (fits.1.symm.trans otherFits.1)

theorem exists_fits_iff (listed : rule ∈ splitRules) (fits : rule.Fits r)
    {p : SplitRule → Prop} : (∃ other ∈ splitRules, other.Fits r ∧ p other) ↔ p rule := by
  constructor
  · rintro ⟨other, otherListed, otherFits, holds⟩
    rwa [eq_of_fits listed otherListed fits otherFits]
  · exact fun holds => ⟨rule, listed, fits, holds⟩

theorem split_succeeds_iff_count :
    (∃ variants, rule.split r = .ok variants) ↔
      ∀ rc ∈ r.responseCodes, rc.isMultiple = true →
        ∀ payload ∈ [rule.basePayload, rule.detailedPayload],
          rc.types.countP (·.isCalled payload none) ≤ 1 := by
  simp only [split_eq_ok_iff, Request.hasMultipleTypes_eq_false_iff, baseOf, detailedOf,
    narrow_single_iff, List.forall_mem_cons, List.not_mem_nil, false_imp_iff, implies_true,
    and_true]
  constructor
  · rintro ⟨-, base, detailed, -⟩ rc member multiple
    exact ⟨base rc member multiple, detailed rc member multiple⟩
  · intro once
    exact ⟨_, fun rc member multiple => (once rc member multiple).1,
      fun rc member multiple => (once rc member multiple).2, rfl⟩

theorem split_succeeds_iff (listed : rule ∈ splitRules) :
    (∃ variants, rule.split r = .ok variants) ↔ ¬rule.Repeats r := by
  rw [split_succeeds_iff_count]
  simp only [Repeats, not_exists, not_and, Nat.not_lt, ResponseCode.isMultiple_iff]
  refine forall₂_congr fun rc _ => forall_congr' fun _ => forall₂_congr fun payload either => ?_
  have called (t : ResponseType) (_ : t ∈ rc.types) :
      t.isCalled payload none = true ↔ decide (t.IsPayload payload) = true := by
    rw [ResponseType.isCalled_iff_isPayload (payload_ne_empty listed either), decide_eq_true_iff]
  rw [List.countP_congr called]

theorem split_eq_error {e : Error} (fails : rule.split r = .error e) :
    ∃ defect, e = .malformed r.name defect := by
  have narrowing {payload : String} (fails : r.narrowed? payload = .error e) :
      ∃ defect, e = .malformed r.name defect := by
    cases several : (narrow r.responseCodes payload).find? (·.isMultiple) with
    | none => simp [Request.narrowed?, several] at fails
    | some rc => exact ⟨_, by simpa [Request.narrowed?, several] using fails.symm⟩
  rw [split, bind_eq_error] at fails
  simp only [bind_eq_error] at fails
  rcases fails with base | ⟨_, -, detailed | ⟨_, -, returned⟩⟩
  · exact narrowing base
  · exact narrowing detailed
  · simp [pure, Except.pure] at returned

end SplitRule

namespace Request

variable {r : Request} {rule : SplitRule}

theorem splitRule?_eq_some_iff : r.splitRule? = some rule ↔ rule ∈ splitRules ∧ rule.Fits r := by
  constructor
  · intro found
    have listed : rule ∈ splitRules := List.mem_of_find?_eq_some found
    exact ⟨listed, (SplitRule.covers_iff_fits listed).mp (splitRule?_covers found)⟩
  · rintro ⟨listed, fits⟩
    have covers := (SplitRule.covers_iff_fits listed).mpr fits
    cases found : r.splitRule? with
    | none =>
      have none : ∀ other ∈ splitRules, ¬other.covers r = true := List.find?_eq_none.mp found
      exact absurd covers (none rule listed)
    | some other =>
      have otherListed : other ∈ splitRules := List.mem_of_find?_eq_some found
      have otherFits := (SplitRule.covers_iff_fits otherListed).mp (splitRule?_covers found)
      rw [SplitRule.eq_of_fits listed otherListed fits otherFits]

theorem splitRule?_eq_none_iff :
    r.splitRule? = none ↔ ¬∃ rule ∈ splitRules, rule.Fits r := by
  simp [Option.eq_none_iff_forall_ne_some, splitRule?_eq_some_iff]

theorem split_of_found (multiple : r.hasMultipleTypes = true) (found : r.splitRule? = some rule) :
    r.split = rule.split r >>= fun variants => pure [variants.1, variants.2] := by
  simp [split, multiple, found]

theorem split_of_unfit (multiple : r.hasMultipleTypes = true)
    (unfit : ¬∃ rule ∈ splitRules, rule.Fits r) :
    r.split = .error (.unrecognizedMultiResponse r.name) := by
  simp [split, multiple, splitRule?_eq_none_iff.mpr unfit]

theorem split_of_repeats (multiple : r.hasMultipleTypes = true) (listed : rule ∈ splitRules)
    (fits : rule.Fits r) (repeats : rule.Repeats r) :
    ∃ defect, r.split = .error (.malformed r.name defect) := by
  have stuck := mt (SplitRule.split_succeeds_iff listed).mp (not_not.mpr repeats)
  rw [split_of_found multiple (splitRule?_eq_some_iff.mpr ⟨listed, fits⟩)]
  cases result : rule.split r with
  | ok variants => exact absurd ⟨variants, result⟩ stuck
  | error e =>
    obtain ⟨defect, rfl⟩ := SplitRule.split_eq_error result
    exact ⟨defect, rfl⟩

theorem split_of_once (multiple : r.hasMultipleTypes = true) (listed : rule ∈ splitRules)
    (fits : rule.Fits r) (once : ¬rule.Repeats r) :
    ∃ base detailed, r.split = .ok [base, detailed] := by
  obtain ⟨variants, result⟩ := (SplitRule.split_succeeds_iff listed).mpr once
  rw [split_of_found multiple (splitRule?_eq_some_iff.mpr ⟨listed, fits⟩), result]
  exact ⟨variants.1, variants.2, rfl⟩

end Request

theorem splitAll_fails_iff {requests : List Request} :
    (∃ e, splitAll requests = .error e) ↔ ∃ r ∈ requests, ∃ e, r.split = .error e := by
  simp only [splitAll_eq_error_iff, exists_firstFailure_iff]

theorem split_outcomes :
    (∀ r : Request, (∃ rc ∈ r.responseCodes, 1 < rc.types.length) →
      (r.split = .error (.unrecognizedMultiResponse r.name) ∨
        (∃ defect, r.split = .error (.malformed r.name defect)) ∨
        ∃ base detailed, r.split = .ok [base, detailed]) ∧
      (r.split = .error (.unrecognizedMultiResponse r.name) ↔
        ¬∃ rule ∈ splitRules, rule.Fits r) ∧
      ((∃ defect, r.split = .error (.malformed r.name defect)) ↔
        ∃ rule ∈ splitRules, rule.Fits r ∧ rule.Repeats r) ∧
      ((∃ base detailed, r.split = .ok [base, detailed]) ↔
        ∃ rule ∈ splitRules, rule.Fits r ∧ ¬rule.Repeats r)) ∧
    ∀ requests : List Request,
      ((∃ e, splitAll requests = .error e) ↔ ∃ r ∈ requests, ∃ e, r.split = .error e) ∧
      ∀ e, splitAll requests = .error e ↔ FirstFailure Request.split requests e := by
  constructor
  · intro r several
    have multiple := Request.hasMultipleTypes_iff_several.mpr several
    by_cases fitting : ∃ rule ∈ splitRules, rule.Fits r
    case pos =>
      obtain ⟨rule, listed, fits⟩ := fitting
      -- Only this rule fits, so both outcomes left are decided by what it finds repeated.
      rw [SplitRule.exists_fits_iff listed fits, SplitRule.exists_fits_iff listed fits]
      have fitting : ∃ rule ∈ splitRules, rule.Fits r := ⟨rule, listed, fits⟩
      by_cases repeats : rule.Repeats r
      · obtain ⟨defect, refused⟩ := Request.split_of_repeats multiple listed fits repeats
        simp [refused, fitting, repeats]
      · obtain ⟨base, detailed, divided⟩ := Request.split_of_once multiple listed fits repeats
        simp [divided, fitting, repeats]
    case neg =>
      have refused := Request.split_of_unfit multiple fitting
      have none (p : SplitRule → Prop) : ¬∃ rule ∈ splitRules, rule.Fits r ∧ p rule :=
        fun ⟨rule, listed, fits, _⟩ => fitting ⟨rule, listed, fits⟩
      simp [refused, fitting, none]
  · exact fun requests => ⟨splitAll_fails_iff, fun e => splitAll_eq_error_iff⟩

-- Under the second status the base payload is missing.
def partialRequest : Request :=
  { tapeRequest with
    responseCodes :=
      [{ code := 200, types := tapeTypes }, { code := 206, types := tapeTypes.tail }] }

-- Both payloads are listed twice.
def repeatedRequest : Request :=
  { tapeRequest with responseCodes := [{ code := 200, types := tapeTypes ++ tapeTypes }] }

theorem split_outcomes_tapeRequest :
    (∃ base detailed, tapeRequest.split = .ok [base, detailed]) ∧
      partialRequest.split = .error (.unrecognizedMultiResponse "com.acme.GetTapeRequestHandler") ∧
      ∃ defect,
        repeatedRequest.split = .error (.malformed "com.acme.GetTapeRequestHandler" defect) ∧
        splitAll [tapeRequest, repeatedRequest, partialRequest] =
          .error (.malformed "com.acme.GetTapeRequestHandler" defect) := by
  obtain ⟨each, all⟩ := split_outcomes
  have listed : tapeRule ∈ splitRules := by decide
  obtain ⟨-, -, -, tape⟩ := each tapeRequest (by decide)
  obtain ⟨-, unfit, -, -⟩ := each partialRequest (by decide)
  obtain ⟨-, -, repeated, -⟩ := each repeatedRequest (by decide)
  obtain ⟨defect, refused⟩ := repeated.mpr ⟨tapeRule, listed, by decide +kernel⟩
  obtain ⟨base, detailed, divided⟩ := tape.mpr ⟨tapeRule, listed, by decide +kernel⟩
  refine ⟨⟨base, detailed, divided⟩, unfit.mpr (by decide +kernel), defect, refused, ?_⟩
  refine ((all _).2 _).mpr ⟨[tapeRequest], repeatedRequest, [partialRequest], rfl, ?_, refused⟩
  simp [divided]

end ApiContract
