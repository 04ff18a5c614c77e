import ApiContract.Proofs.Naming
import ApiContract.Proofs.SinglePayload
import ApiContract.Proofs.Splitting
import ApiContract.Proofs.Taxonomy

set_option autoImplicit false

namespace ApiContract

section Suffix

theorem Name.suffix_unqualified (name : String) :
    (Name.unqualified name).toList <:+ name.toList := by
  have after {sep : Char} {before rest : List Char}
      (found : Text.splitLast? sep name.toList = some (before, rest)) : rest <:+ name.toList := by
    obtain ⟨whole, -⟩ := Text.splitLast?_eq_some found
    exact ⟨before ++ [sep], by simp [whole]⟩
  unfold unqualified
  split
  case h_1 before rest found => simpa using after found
  case h_2 =>
    unfold simple
    split
    case h_1 before rest found => simpa using after found
    case h_2 => exact List.suffix_refl _

theorem payload_not_objectList {rule : SplitRule} (listed : rule ∈ splitRules) {payload : String}
    (either : payload ∈ [rule.basePayload, rule.detailedPayload]) :
    ¬payload.toList <:+ "MasterObjectList".toList ∧
      ¬"MasterObjectList".toList <:+ payload.toList := by
  revert rule payload
  decide +kernel

end Suffix

section Payloads

variable {r : Request} {rule : SplitRule}

theorem isNull_eq_false_of_called {payload : String} {t : ResponseType}
    (long : 4 < payload.toList.length) (called : t.isCalled payload none = true) :
    t.isNull = false := by
  -- The name of a type is no shorter than its last part, and `null` has four characters.
  obtain ⟨-, -, name, -⟩ := ResponseType.isCalled_iff.mp called
  have shorter := (Name.suffix_unqualified t.typeName).length_le
  rw [Bool.eq_false_iff]
  intro null
  have four : t.typeName.toList.length = 4 := by
    simpa [Text.asciiLower] using congrArg List.length (Text.sameIgnoringCase_iff.mp null)
  rw [name] at shorter
  omega

theorem hasPayloadEndingIn_narrow {payload tail : String} {v : Request}
    (narrowed : v.responseCodes = narrow r.responseCodes payload)
    (apart : ∀ t : ResponseType,
      t.isCalled payload none = true → Name.endsIn t.typeName tail = false) :
    v.hasPayloadEndingIn tail = true ↔
      ∃ rc ∈ r.responseCodes, isMultipleAt r.responseCodes rc.code = false ∧ rc.code < 300 ∧
        ∃ t ∈ rc.types, t.isNull = false ∧ Name.endsIn t.typeName tail = true := by
  simp only [Request.hasPayloadEndingIn, List.any_eq_true, mem_payloads, narrowed, narrow_eq_map]
  constructor
  · rintro ⟨t, ⟨after, member, success, inside, notNull⟩, ends⟩
    obtain ⟨rc, listed, rfl⟩ := List.mem_map.mp member
    cases marked : isMultipleAt r.responseCodes rc.code with
    | true =>
      -- Only the payload is left there, and it does not end like this.
      rw [marked, if_pos rfl] at inside
      have called := (List.mem_filter.mp inside).2
      simp [apart t called] at ends
    | false =>
      simp only [marked, Bool.false_eq_true, if_false] at success inside
      exact ⟨rc, listed, marked, success, t, inside, notNull, ends⟩
  · rintro ⟨rc, listed, marked, success, t, inside, notNull, ends⟩
    refine ⟨t, ⟨rc, List.mem_map.mpr ⟨rc, listed, ?_⟩, success, inside, notNull⟩, ends⟩
    simp [marked]

theorem hasPayloadEndingIn_objectList (listed : rule ∈ splitRules) :
    (rule.detailedOf r).hasPayloadEndingIn "MasterObjectList" =
      (rule.baseOf r).hasPayloadEndingIn "MasterObjectList" := by
  have apart {payload : String} (either : payload ∈ [rule.basePayload, rule.detailedPayload])
      (t : ResponseType) (called : t.isCalled payload none = true) :
      Name.endsIn t.typeName "MasterObjectList" = false := by
    obtain ⟨-, -, name, -⟩ := ResponseType.isCalled_iff.mp called
    obtain ⟨notIn, notOver⟩ := payload_not_objectList listed either
    rw [Bool.eq_false_iff, ne_eq, Name.endsIn_iff]
    intro ends
    rcases List.suffix_or_suffix_of_suffix ends (name ▸ Name.suffix_unqualified t.typeName) with
      inside | inside
    · exact notOver inside
    · exact notIn inside
  rw [Bool.eq_iff_iff, hasPayloadEndingIn_narrow (r := r) rfl (apart (by simp)),
    hasPayloadEndingIn_narrow (r := r) rfl (apart (by simp))]

end Payloads

section Params

variable {r : Request} {rule : SplitRule}

theorem containsTyped_detailedOf {name typeName : String}
    (other : Text.sameIgnoringCase rule.viewParam name = false ∨
      Text.sameIgnoringCase voidType typeName = false) :
    Param.containsTyped (rule.detailedOf r).requiredParams name typeName =
      Param.containsTyped (rule.baseOf r).requiredParams name typeName := by
  -- The variants differ in the flag, which is spelled like the view parameter of the rule.
  have flag : (Param.isNamed name { name := r.spellingOf rule.viewParam, typeName := voidType } &&
      Text.sameIgnoringCase voidType typeName) = false := by
    rw [Bool.and_eq_false_iff]
    refine other.imp_left fun different => ?_
    have same := Text.sameIgnoringCase_iff.mp (r.sameIgnoringCase_spellingOf rule.viewParam)
    simpa [Param.isNamed, Text.sameIgnoringCase, same] using different
  simp [Param.containsTyped, SplitRule.detailedOf, SplitRule.baseOf, Request.requireFlag,
    Request.dropParam, flag]

theorem any_requiredParams_detailedOf {test : Param → Bool}
    (noFlag : ∀ spelling, test { name := spelling, typeName := voidType } = false) :
    (rule.detailedOf r).requiredParams.any test = (rule.baseOf r).requiredParams.any test := by
  simp [SplitRule.detailedOf, SplitRule.baseOf, Request.requireFlag, Request.dropParam, noFlag]

end Params

def placementViewTags : List String := [
  "get-physical-placement", "get-physical-placement-full-details",
  "verify-physical-placement", "verify-physical-placement-full-details"]

/-- The two requests look the same to all tests but those on the payload of a placement. -/
structure AlikeInShape (v w : Request) : Prop where
  fields : v = { w with
    name := v.name, responseCodes := v.responseCodes, requiredParams := v.requiredParams }
  typed : ∀ name ∈ ["Replicate", "Delete", "UploadId", "PartNumber"], ∀ typeName,
    Param.containsTyped v.requiredParams name typeName =
      Param.containsTyped w.requiredParams name typeName
  objectList : v.hasObjectListParam = w.hasObjectListParam
  ids : v.sendsIds = w.sendsIds
  answers : v.hasPayloadEndingIn "MasterObjectList" = w.hasPayloadEndingIn "MasterObjectList"

theorem test_eq_of_alike {v w : Request} (alike : AlikeInShape v w) :
    ∀ c ∈ builtinClassifiers, c.tag ∈ placementViewTags ∨ c.test v = c.test w := by
  obtain ⟨fields, typed, objectList, ids, answers⟩ := alike
  have replicates := typed "Replicate" (by simp) voidType
  have deletes := typed "Delete" (by simp) voidType
  have uploads := typed "UploadId" (by simp) uuidType
  have numbered := typed "PartNumber" (by simp) "int"
  -- With the fields that are the same made one, most tests are the same by definition.
  cases v
  cases w
  simp only [Request.mk.injEq, true_and, and_true] at fields
  obtain ⟨rfl, rfl, rfl, rfl, rfl, rfl, rfl, rfl, rfl, rfl⟩ := fields
  simp only at replicates deletes uploads numbered
  simp only [builtinClassifiers, List.forall_mem_cons, List.not_mem_nil, false_implies,
    implies_true, and_true]
  refine ⟨.inr rfl, .inr rfl, .inr rfl, .inr rfl, .inr ?bulk, .inr rfl, .inr ?bulkPut,
    .inr ?bulkReplicate, .inr rfl, .inr rfl, .inl (by decide), .inl (by decide), .inl (by decide),
    .inl (by decide), .inr rfl, .inr ?objectList, .inr ?text, .inr ids, .inr ?upload,
    .inr ?deletes, .inr ?creates, .inr ?gets, .inr rfl, .inr rfl, .inr rfl, .inr rfl, .inr rfl,
    .inr rfl, .inr rfl, .inr rfl, .inr rfl⟩
  case bulk => simp only [Request.isBulk, Request.performs, Request.isFor, objectList, answers]
  case bulkPut =>
    simp only [Request.isBulkPut, Request.isBulkReplicate, Request.performs, replicates]
  case bulkReplicate => simp only [Request.isBulkReplicate, Request.performs, replicates]
  case objectList =>
    simp only [Request.sendsObjectList, Request.deletesObjects, Request.isSentWith,
      Request.effectiveVerb, Request.forbidsObject, objectList, deletes]
  case text =>
    simp only [Request.sendsText, Request.isBulkReplicate, Request.performs,
      Request.getsBlobPersistence, Request.isFor, Request.isSentWith, Request.effectiveVerb,
      replicates]
  case upload =>
    simp only [Request.completesUpload, Request.isSentWith, Request.effectiveVerb,
      Request.requiresBucket, Request.requiresObject, uploads]
  case deletes =>
    simp only [Request.deletesObjects, Request.isSentWith, Request.effectiveVerb,
      Request.forbidsObject, deletes]
  case creates =>
    simp only [Request.createsObject, Request.isSentWith, Request.effectiveVerb,
      Request.requiresBucket, Request.requiresObject, numbered]
  case gets =>
    simp only [Request.getsObject, Request.isInFamily, Request.isSentWith, Request.effectiveVerb,
      Request.requiresBucket, Request.requiresObject, uploads]

theorem alikeInShape_of_split {r : Request} {rule : SplitRule} (listed : rule ∈ splitRules) :
    AlikeInShape (rule.detailedOf r) (rule.baseOf r) where
  fields := rfl
  typed name asked typeName := by
    have different : Text.sameIgnoringCase Name.fullDetailsToken name = false := by
      revert name
      decide
    apply containsTyped_detailedOf
    rw [viewParam_of_mem listed]
    exact .inl different
  objectList := any_requiredParams_detailedOf fun _ => rfl
  ids := any_requiredParams_detailedOf fun _ => rfl
  answers := hasPayloadEndingIn_objectList listed

theorem classify_detailedOf {r : Request} {rule : SplitRule} (listed : rule ∈ splitRules) :
    (Registry.builtin.classify (rule.detailedOf r)).filter (· ∉ placementViewTags) =
      (Registry.builtin.classify (rule.baseOf r)).filter (· ∉ placementViewTags) := by
  simp only [Registry.classify, List.filter_map, List.filter_filter, Function.comp_def]
  congr 1
  apply List.filter_congr
  intro c member
  rcases test_eq_of_alike (alikeInShape_of_split listed) c member with view | same
  · simp [view]
  · rw [same]

section Strategy

def foremostStrategies : List String :=
  strategies.take 11

theorem foremost_cases :
    ∀ tag ∈ foremostStrategies, tag ∈ jobTags ∨ tag ∈ notificationTags := by
  decide

theorem foremost_of_jobTag : ∀ tag ∈ jobTags, tag ∈ foremostStrategies := by
  decide

-- Unless a request is for notifications, its job or placement selects the strategy.
theorem selectStrategy_of_jobTag? {r : Request} {tag : String} (own : r.jobTag? = some tag)
    (plain : r.isNotification = false) :
    selectStrategy (Registry.builtin.classify r) = tag := by
  obtain ⟨listed, tagged⟩ := tagged_of_jobTag? own
  obtain ⟨before, after, place, first⟩ :=
    List.eq_append_cons_of_mem (foremost_of_jobTag tag listed)
  have foremost : strategies = before ++ tag :: (after ++ strategies.drop 11) := by
    rw [← List.cons_append, ← List.append_assoc, ← place]
    exact (List.take_append_drop 11 strategies).symm
  -- No other tag of a job goes with this one, and there are no tags of notifications.
  have others : ∀ other ∈ before, other ∉ Registry.builtin.classify r := by
    intro other earlier otherTagged
    rcases foremost_cases other (by simp [place, earlier]) with job | notification
    · have same := own.symm.trans (jobTag?_of_tagged other job otherTagged)
      exact first (Option.some.inj same ▸ earlier)
    · obtain ⟨kind, known, -⟩ :=
        Option.map_eq_some_iff.mp (notificationTag?_of_tagged other notification otherTagged)
      simp [Request.isNotification_of_kind known] at plain
  have found : strategies.find? (Registry.builtin.classify r).contains = some tag := by
    rw [List.find?_eq_some_iff_append]
    exact ⟨by simpa using tagged, before, _, foremost, by simpa using others⟩
  rw [selectStrategy, found, Option.getD_some]

end Strategy

def placementStems : List String :=
  ["GetPhysicalPlacementForObjects", "VerifyPhysicalPlacementForObjects"]

theorem placementRule {rule : SplitRule} (listed : rule ∈ splitRules)
    (placement : rule.stem ∈ placementStems) :
    rule.resource = "BUCKET" ∧ rule.basePayload = "PhysicalPlacementApiBean" ∧
      rule.detailedPayload = fullPlacementPayload := by
  revert rule
  decide

section Placement

variable {r : Request} {rule : SplitRule}

theorem payload_of_narrowed {payload : String} {v : Request}
    (narrowed : v.responseCodes = narrow r.responseCodes payload) (long : 4 < payload.toList.length)
    {rc : ResponseCode} (listed : rc ∈ r.responseCodes) (multiple : rc.isMultiple = true)
    (success : rc.code < 300) (called : ∃ t ∈ rc.types, t.isCalled payload none = true) :
    ∃ t ∈ v.payloads, Name.unqualified t.typeName = payload := by
  obtain ⟨t, inside, called⟩ := called
  refine ⟨t, mem_payloads.mpr ⟨rc.keep payload, ?_, success, ?_, ?_⟩, ?_⟩
  · exact narrowed ▸ keep_mem_narrow listed multiple
  · exact List.mem_filter.mpr ⟨inside, called⟩
  · exact isNull_eq_false_of_called long called
  · exact (ResponseType.isCalled_iff.mp called).2.2.1

theorem hasPayloadNamed_iff {name : String} :
    r.hasPayloadNamed name = true ↔ ∃ t ∈ r.payloads, Name.unqualified t.typeName = name := by
  simp [Request.hasPayloadNamed, Request.payloadNames]

structure AnswersInTwoWays (r base detailed : Request) : Prop where
  plain : r.isNotification = false
  brief : base.hasPayloadNamed fullPlacementPayload = false
  full : detailed.hasPayloadNamed fullPlacementPayload = true

theorem answersInTwoWays (found : r.splitRule? = some rule) (placement : rule.stem ∈ placementStems)
    {rc : ResponseCode} (listed : rc ∈ r.responseCodes) (multiple : rc.isMultiple = true)
    (success : rc.code < 300) {p : Option ResponseType}
    (single : (rule.baseOf r).payload? = .ok p) :
    AnswersInTwoWays r (rule.baseOf r) (rule.detailedOf r) := by
  obtain ⟨bucket, basePayload, detailedPayload⟩ :=
    placementRule (List.mem_of_find?_eq_some found) placement
  obtain ⟨-, resource, covered⟩ := SplitRule.covers_iff.mp (Request.splitRule?_covers found)
  have called := covered rc listed multiple
  constructor
  · rw [bucket] at resource
    obtain ⟨entity, isEntity, text⟩ := Option.map_eq_some_iff.mp resource
    simp only [Request.isNotification, isEntity, Option.any_some, Resource.isNotification, text]
    decide
  · obtain ⟨t, isPayload, name⟩ := payload_of_narrowed (v := rule.baseOf r) rfl
      (by rw [basePayload]; decide) listed multiple success (called _ (by simp))
    rw [Bool.eq_false_iff, ne_eq, hasPayloadNamed_iff]
    rintro ⟨other, alsoPayload, fullName⟩
    -- With a single payload the two types are one.
    have same : t = other := Request.eq_of_payload?_eq_ok single isPayload alsoPayload
    rw [← same, name, basePayload] at fullName
    exact absurd fullName (by decide)
  · obtain ⟨t, isPayload, name⟩ := payload_of_narrowed (v := rule.detailedOf r) rfl
      (by rw [detailedPayload]; decide) listed multiple success (called _ (by simp))
    exact hasPayloadNamed_iff.mpr ⟨t, isPayload, name.trans detailedPayload⟩

end Placement

/-- Splitting makes no difference to the tags but for the two views of a placement, and these
select a strategy of its own for each variant. -/
theorem split_tags {r base detailed : Request} (divided : r.split = .ok [base, detailed]) :
    ∃ rule, r.splitRule? = some rule ∧
      (Registry.builtin.classify detailed).filter (· ∉ placementViewTags) =
        (Registry.builtin.classify base).filter (· ∉ placementViewTags) ∧
      (rule.stem ∈ placementStems →
        (∃ rc ∈ r.responseCodes, 1 < rc.types.length ∧ rc.code < 300) →
        (∃ p, base.payload? = .ok p) → (∃ p, detailed.payload? = .ok p) →
        (r.operation = some (.known .getPhysicalPlacement) →
          selectStrategy (Registry.builtin.classify base) = "get-physical-placement" ∧
            selectStrategy (Registry.builtin.classify detailed) =
              "get-physical-placement-full-details") ∧
        (r.operation = some (.known .verifyPhysicalPlacement) →
          selectStrategy (Registry.builtin.classify base) = "verify-physical-placement" ∧
            selectStrategy (Registry.builtin.classify detailed) =
              "verify-physical-placement-full-details")) := by
  obtain ⟨rule, found, apart⟩ := Request.split_eq_pair divided
  obtain ⟨-, -, same⟩ := SplitRule.split_eq_ok_iff.mp apart
  obtain ⟨rfl, rfl⟩ := Prod.mk.inj same
  refine ⟨rule, found, classify_detailedOf (List.mem_of_find?_eq_some found), ?_⟩
  rintro placement ⟨rc, listed, several, success⟩ ⟨p, single⟩ -
  obtain ⟨plain, brief, full⟩ := answersInTwoWays found placement listed
    (ResponseCode.isMultiple_iff.mpr several) success single
  have unchanged : (rule.baseOf r).operation = r.operation ∧
      (rule.detailedOf r).operation = r.operation := ⟨rfl, rfl⟩
  constructor
  · intro operation
    exact ⟨selectStrategy_of_jobTag? (by simp [Request.jobTag?, unchanged, operation, brief]) plain,
      selectStrategy_of_jobTag? (by simp [Request.jobTag?, unchanged, operation, full]) plain⟩
  · intro operation
    exact ⟨selectStrategy_of_jobTag? (by simp [Request.jobTag?, unchanged, operation, brief]) plain,
      selectStrategy_of_jobTag? (by simp [Request.jobTag?, unchanged, operation, full]) plain⟩

-- The flag is an optional parameter, and a third type and a second status come with the payloads.
def placementRequest : Request where
  name := "GetPhysicalPlacementForObjectsRequest"
  family := .managementApi
  verb := some .put
  resource := some (.known .bucket)
  operation := some (.known .getPhysicalPlacement)
  optionalParams := [{ name := "FULLDETAILS", typeName := voidType }]
  requiredParams := [
    { name := "Objects", typeName := "array", componentType := some "com.acme.Ds3Object" }]
  responseCodes := [
    { code := 200, types := [{ typeName := "com.acme.MasterObjectList" },
      { typeName := "com.acme.Handler$BlobApiBeansContainer" },
      { typeName := "com.acme.PhysicalPlacementApiBean" }] },
    { code := 204, types := [{ typeName := "null" }] },
    { code := 404, types := [{ typeName := "com.acme.BlobApiBeansContainer" }] }]

def placementRequestRule : SplitRule where
  stem := "GetPhysicalPlacementForObjects"
  resource := "BUCKET"
  viewParam := Name.fullDetailsToken
  basePayload := "PhysicalPlacementApiBean"
  detailedPayload := "BlobApiBeansContainer"

theorem split_tags_placementRequest :
    ∃ base detailed, placementRequest.split = .ok [base, detailed] ∧
      (Registry.builtin.classify detailed).filter (· ∉ placementViewTags) =
        (Registry.builtin.classify base).filter (· ∉ placementViewTags) ∧
      selectStrategy (Registry.builtin.classify base) = "get-physical-placement" ∧
      selectStrategy (Registry.builtin.classify detailed) =
        "get-physical-placement-full-details" := by
  have chosen : placementRequest.splitRule? = some placementRequestRule := by decide +kernel
  have divided : placementRequest.split = .ok [placementRequestRule.baseOf placementRequest,
      placementRequestRule.detailedOf placementRequest] :=
    (Request.split_of_multiple rfl).mpr
      ⟨_, chosen, SplitRule.split_eq_ok_iff.mpr ⟨by decide +kernel, by decide +kernel, rfl⟩, rfl⟩
  obtain ⟨rule, found, alike, strategy⟩ := split_tags divided
  obtain rfl : placementRequestRule = rule := Option.some.inj (chosen.symm.trans found)
  have several : ∃ rc ∈ placementRequest.responseCodes, 1 < rc.types.length ∧ rc.code < 300 := by
    decide
  obtain ⟨base, detailed⟩ := (strategy (by decide) several ⟨_, rfl⟩ ⟨_, rfl⟩).1 rfl
  exact ⟨_, _, divided, alike, base, detailed⟩

end ApiContract
