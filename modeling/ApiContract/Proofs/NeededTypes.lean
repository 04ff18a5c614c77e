import ApiContract.Proofs.Reachability
import ApiContract.Proofs.Variants
import Mathlib.Data.List.Nodup

set_option autoImplicit false

namespace ApiContract

theorem payloads_differ {rule : SplitRule} (listed : rule ∈ splitRules) :
    rule.basePayload ≠ rule.detailedPayload := by
  revert rule
  decide

theorem not_namesType_void {key : String} : ¬NamesType voidType none key := by
  rintro ⟨rfl | component, -, reference⟩
  · exact reference (by decide)
  · simp at component

theorem names_of_narrow {codes : List ResponseCode} {payload key : String}
    (names : ∃ rc ∈ narrow codes payload, ∃ t ∈ rc.types,
      NamesType t.typeName t.componentType key) :
    ∃ rc ∈ codes, ∃ t ∈ rc.types, NamesType t.typeName t.componentType key := by
  obtain ⟨after, member, t, inside, names⟩ := names
  obtain ⟨before, listed, -, fewer⟩ := mem_narrow member
  exact ⟨before, listed, t, fewer inside, names⟩

namespace Request

variable {r : Request} {rule : SplitRule} {key : String}

theorem names_of_baseOf (names : (rule.baseOf r).Names key) : r.Names key := by
  rcases names with ⟨p, member, names⟩ | narrowed
  · exact .inl ⟨p, (mem_allParams_dropParam.mp member).1, names⟩
  · exact .inr (names_of_narrow narrowed)

theorem names_of_detailedOf (names : (rule.detailedOf r).Names key) : r.Names key := by
  rcases names with ⟨p, member, names⟩ | narrowed
  · rcases SplitRule.mem_allParams_detailedOf.mp member with old | rfl
    · exact .inl ⟨p, (mem_allParams_dropParam.mp old).1, names⟩
    · exact absurd names not_namesType_void
  · exact .inr (names_of_narrow narrowed)

theorem HasVariant.names {v : Request} (variant : r.HasVariant v) (names : v.Names key) :
    r.Names key := by
  cases variant with
  | itself => exact names
  | base => exact names_of_baseOf names
  | detailed => exact names_of_detailedOf names

/-- Each status stands in one entry, several types are always two, and a view flag needs no type
to be looked up. -/
structure SplitsInPairs (r : Request) : Prop where
  statuses : (r.responseCodes.map (·.code)).Nodup
  pairs : ∀ rc ∈ r.responseCodes, 1 < rc.types.length → rc.types.length = 2
  flag : ∀ rule, r.splitRule? = some rule →
    ∀ p ∈ r.allParams, Text.sameIgnoringCase p.name rule.viewParam = true →
      p.typeName ∈ builtinTypes ∧ ∀ component ∈ p.componentType, component ∈ builtinTypes

end Request

namespace Request.SplitsInPairs

variable {r : Request} {rule : SplitRule} {key : String}

theorem names_param (inPairs : r.SplitsInPairs) (found : r.splitRule? = some rule) {p : Param}
    (member : p ∈ r.allParams) (names : NamesType p.typeName p.componentType key) :
    (rule.baseOf r).Names key := by
  cases flag : p.isNamed rule.viewParam with
  | false => exact .inl ⟨p, mem_allParams_dropParam.mpr ⟨member, flag⟩, names⟩
  | true =>
    obtain ⟨builtin, components⟩ := inPairs.flag rule found p member flag
    obtain ⟨rfl | component, -, reference⟩ := names
    · exact absurd builtin reference
    · exact absurd (components key component) reference

theorem mem_narrow_of_single (inPairs : r.SplitsInPairs) {rc : ResponseCode}
    (member : rc ∈ r.responseCodes) (single : rc.isMultiple = false) (payload : String) :
    rc ∈ narrow r.responseCodes payload := by
  refine mem_narrow_of_elsewhere member fun other listed several shared => ?_
  have same : other = rc := List.inj_on_of_nodup_map inPairs.statuses listed member shared
  rw [same] at several
  have short := ResponseCode.isMultiple_eq_false_iff.mp single
  omega

theorem isCalled_of_pair (inPairs : r.SplitsInPairs) (found : r.splitRule? = some rule)
    {rc : ResponseCode} (member : rc ∈ r.responseCodes) (multiple : rc.isMultiple = true)
    {t : ResponseType} (inside : t ∈ rc.types) :
    t.isCalled rule.basePayload none = true ∨ t.isCalled rule.detailedPayload none = true := by
  obtain ⟨base, baseInside, isBase⟩ := payload_listed found List.mem_cons_self rc member multiple
  obtain ⟨detailed, detailedInside, isDetailed⟩ :=
    payload_listed found (List.mem_cons_of_mem _ List.mem_cons_self) rc member multiple
  have different : base ≠ detailed := by
    rintro rfl
    obtain ⟨-, -, baseName, -⟩ := ResponseType.isCalled_iff.mp isBase
    obtain ⟨-, -, detailedName, -⟩ := ResponseType.isCalled_iff.mp isDetailed
    exact payloads_differ (List.mem_of_find?_eq_some found) (baseName.symm.trans detailedName)
  obtain ⟨x, y, types⟩ := List.length_eq_two.mp
    (inPairs.pairs rc member (ResponseCode.isMultiple_iff.mp multiple))
  -- The entry lists two types, so these are the two.
  have known : t = base ∨ t = detailed := by
    simp only [types, List.mem_pair] at inside baseInside detailedInside
    grind
  rcases known with rfl | rfl
  · exact .inl isBase
  · exact .inr isDetailed

theorem names_code (inPairs : r.SplitsInPairs) (found : r.splitRule? = some rule)
    {rc : ResponseCode} (member : rc ∈ r.responseCodes) {t : ResponseType} (inside : t ∈ rc.types)
    (names : NamesType t.typeName t.componentType key) :
    (rule.baseOf r).Names key ∨ (rule.detailedOf r).Names key := by
  cases multiple : rc.isMultiple with
  | false =>
    have kept := inPairs.mem_narrow_of_single member multiple rule.basePayload
    exact .inl (.inr ⟨rc, kept, t, inside, names⟩)
  | true =>
    rcases inPairs.isCalled_of_pair found member multiple inside with called | called
    · have kept : t ∈ (rc.keep rule.basePayload).types := List.mem_filter.mpr ⟨inside, called⟩
      exact .inl (.inr ⟨_, keep_mem_narrow member multiple, t, kept, names⟩)
    · have kept : t ∈ (rc.keep rule.detailedPayload).types := List.mem_filter.mpr ⟨inside, called⟩
      exact .inr (.inr ⟨_, keep_mem_narrow member multiple, t, kept, names⟩)

theorem names (inPairs : r.SplitsInPairs) (found : r.splitRule? = some rule)
    (names : r.Names key) : (rule.baseOf r).Names key ∨ (rule.detailedOf r).Names key := by
  rcases names with ⟨p, member, names⟩ | ⟨rc, member, t, inside, names⟩
  · exact .inl (inPairs.names_param found member names)
  · exact inPairs.names_code found member inside names

end Request.SplitsInPairs

section Lists

variable {requests variants : List Request}

theorem variants_namesWithin (divided : splitAll requests = .ok variants) :
    NamesWithin variants requests := by
  intro v member key names
  obtain ⟨r, listed, variant⟩ := hasVariant_of_mem_splitAll divided member
  exact ⟨r, listed, variant.names names⟩

theorem requests_namesWithin (divided : splitAll requests = .ok variants)
    (inPairs : ∀ r ∈ requests, r.hasMultipleTypes = true → r.SplitsInPairs) :
    NamesWithin requests variants := by
  intro r member key names
  obtain ⟨group, split, inside⟩ := split_infix_splitAll divided member
  have listed {v : Request} (first : v ∈ group) : v ∈ variants := inside.subset first
  cases multiple : r.hasMultipleTypes with
  | false =>
    obtain rfl : [r] = group :=
      Except.ok.inj ((Request.split_of_single multiple).symm.trans split)
    exact ⟨r, listed List.mem_cons_self, names⟩
  | true =>
    obtain ⟨rule, found, -, rfl⟩ := (Request.split_of_multiple multiple).mp split
    rcases (inPairs r member multiple).names found names with base | detailed
    · exact ⟨_, listed (by simp), base⟩
    · exact ⟨_, listed (by simp), detailed⟩

theorem reachableFrom_splitAll (divided : splitAll requests = .ok variants) (c : Catalog) :
    (∀ e ∈ (c.reachableFrom variants).entries, e ∈ (c.reachableFrom requests).entries) ∧
      ((∀ r ∈ requests, (∃ rc ∈ r.responseCodes, 1 < rc.types.length) → r.SplitsInPairs) →
        c.reachableFrom variants = c.reachableFrom requests) := by
  have fewer := variants_namesWithin divided
  refine ⟨fun e kept => Catalog.reachableFrom_subset fewer kept, fun inPairs => ?_⟩
  refine Catalog.reachableFrom_eq_of_within fewer (requests_namesWithin divided ?_)
  intro r member multiple
  exact inPairs r member (Request.hasMultipleTypes_iff_several.mp multiple)

end Lists

-- The flag is nullable text here; the second status lists the payloads the other way round.
def pairedRequest : Request :=
  { tapeRequest with
    optionalParams := [{ name := "FULLDETAILS", typeName := stringType, nullable := true }]
    responseCodes := [
      { code := 200, types := tapeTypes.take 2 },
      { code := 206, types := (tapeTypes.take 2).reverse },
      { code := 404, types := [{ typeName := "com.acme.Failure" }] }] }

def payloadCatalog : Catalog := .ofList [
  ("com.acme.Handler$TapeApiBean", ⟨"com.acme.Handler$TapeApiBean", none,
    .struct [{ name := "Tape", typeName := "com.acme.Tape" }]⟩),
  ("com.acme.Tape", ⟨"com.acme.Tape", none, .struct []⟩),
  ("com.acme.Unused", ⟨"com.acme.Unused", none, .enum []⟩)]

theorem pairedRequest_splitsInPairs : pairedRequest.SplitsInPairs where
  statuses := by decide
  pairs := by decide
  flag rule found := by
    have matched : pairedRequest.splitRule? = some tapeRule := by decide +kernel
    obtain rfl : tapeRule = rule := Option.some.inj (matched.symm.trans found)
    decide

theorem reachableFrom_splitAll_pairedRequest :
    let variants := [tapeRule.baseOf pairedRequest, tapeRule.detailedOf pairedRequest]
    splitAll [pairedRequest] = .ok variants ∧ pairedRequest.SplitsInPairs ∧
      payloadCatalog.reachableFrom variants = payloadCatalog.reachableFrom [pairedRequest] ∧
      "com.acme.Tape" ∈ (payloadCatalog.reachableFrom variants).keys ∧
      "com.acme.Unused" ∈ payloadCatalog.keys ∧
      "com.acme.Unused" ∉ (payloadCatalog.reachableFrom variants).keys := by
  intro variants
  have divided : splitAll [pairedRequest] = .ok variants := by decide +kernel
  obtain ⟨-, equal⟩ := reachableFrom_splitAll divided payloadCatalog
  have same := equal (by simpa using fun _ _ _ => pairedRequest_splitsInPairs)
  have named : pairedRequest.Names "com.acme.Tape" := Request.mem_references.mp (by decide)
  have kept : payloadCatalog.Needs [pairedRequest] "com.acme.Tape" :=
    .named List.mem_cons_self named (by decide)
  refine ⟨divided, pairedRequest_splitsInPairs, same, ?_, by decide, ?_⟩
  · rw [same]
    exact Catalog.mem_keys_reachableFrom.mpr kept
  · rw [same]
    exact Catalog.notMem_keys_reachableFrom (by decide) (by decide)

end ApiContract
