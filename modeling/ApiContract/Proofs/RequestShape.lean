import ApiContract.Proofs.Rearrangement
import ApiContract.Proofs.VariantTags

set_option autoImplicit false

namespace ApiContract

theorem Reordered.any_eq {α : Type} {like : α → α → Prop} {xs ys : List α}
    (reordered : Reordered like xs ys) {test : α → Bool}
    (agree : ∀ x y, like x y → test x = test y) : xs.any test = ys.any test := by
  rw [Bool.eq_iff_iff, List.any_eq_true, List.any_eq_true]
  exact reordered.exists_iff fun x y alike => by rw [agree x y alike]

structure Param.SameShape (p q : Param) : Prop where
  name : Text.sameIgnoringCase p.name q.name = true
  typeName : q.typeName = p.typeName
  componentType : q.componentType = p.componentType

structure Request.SameShape (r s : Request) : Prop where
  rest : s = { r with
    name := s.name
    includeInPath := s.includeInPath
    responseCodes := s.responseCodes
    optionalParams := s.optionalParams
    requiredParams := s.requiredParams }
  responseCodes : Reordered ResponseCode.SameUpToOrder r.responseCodes s.responseCodes
  optionalParams : Reordered Param.SameShape r.optionalParams s.optionalParams
  requiredParams : Reordered Param.SameShape r.requiredParams s.requiredParams

namespace Param

variable {p q : Param}

theorem SameShape.isNamed_eq (same : p.SameShape q) (name : String) :
    p.isNamed name = q.isNamed name := by
  simp only [isNamed, Text.sameIgnoringCase, Text.sameIgnoringCase_iff.mp same.name]

theorem SameShape.isObjectList_eq (same : p.SameShape q) : p.isObjectList = q.isObjectList := by
  simp only [isObjectList, isCollection, same.typeName, same.componentType]

theorem SameShape.isIdList_eq (same : p.SameShape q) : p.isIdList = q.isIdList := by
  simp only [isIdList, isCollection, same.typeName, same.componentType]

variable {ps qs : List Param}

theorem contains_eq_of_sameShape (same : Reordered SameShape ps qs) (name : String) :
    contains ps name = contains qs name :=
  same.any_eq fun _ _ alike => alike.isNamed_eq name

theorem containsTyped_eq_of_sameShape (same : Reordered SameShape ps qs)
    (name typeName : String) : containsTyped ps name typeName = containsTyped qs name typeName :=
  same.any_eq fun _ _ alike => by rw [alike.isNamed_eq name, alike.typeName]

end Param

section Tests

variable {v w : Request}

-- Optional parameters are looked at for pages only, and whether there is a path for nothing.
theorem test_eq_of_paginated (inPath : Bool) {optional : List Param}
    (paginated : { w with optionalParams := optional }.isPaginated = w.isPaginated) :
    ∀ c ∈ builtinClassifiers,
      c.test { w with includeInPath := inPath, optionalParams := optional } = c.test w := by
  simp only [builtinClassifiers, List.forall_mem_cons, List.not_mem_nil, false_implies,
    implies_true, and_true]
  exact ⟨rfl, rfl, rfl, rfl, rfl, rfl, rfl, rfl, rfl, rfl, rfl, rfl, rfl, rfl, paginated, rfl,
    rfl, rfl, rfl, rfl, rfl, rfl, rfl, rfl, rfl, rfl, rfl, rfl, rfl, rfl, rfl⟩

theorem viewTest_eq (operation : v.operation = w.operation)
    (full : v.hasPayloadNamed fullPlacementPayload = w.hasPayloadNamed fullPlacementPayload) :
    ∀ c ∈ builtinClassifiers, c.tag ∈ placementViewTags → c.test v = c.test w := by
  simp [builtinClassifiers, placementViewTags, Request.getsPlacement, Request.getsFullPlacement,
    Request.verifiesPlacement, Request.verifiesFullPlacement, Request.performs, operation, full]

end Tests

namespace Request.SameShape

variable {r s : Request}

theorem mem_payloads_iff (same : r.SameShape s) (t : ResponseType) :
    t ∈ r.payloads ↔ t ∈ s.payloads := by
  rw [mem_payloads, mem_payloads]
  exact same.responseCodes.exists_iff fun a b alike => by rw [alike.code, alike.types.mem_iff]

theorem hasPayloadNamed_eq (same : r.SameShape s) (name : String) :
    r.hasPayloadNamed name = s.hasPayloadNamed name := by
  rw [Bool.eq_iff_iff, hasPayloadNamed_iff, hasPayloadNamed_iff]
  simp only [same.mem_payloads_iff]

theorem hasPayloadEndingIn_eq (same : r.SameShape s) (tail : String) :
    r.hasPayloadEndingIn tail = s.hasPayloadEndingIn tail := by
  rw [Bool.eq_iff_iff, hasPayloadEndingIn, hasPayloadEndingIn, List.any_eq_true, List.any_eq_true]
  simp only [same.mem_payloads_iff]

theorem isPaginated_eq (same : r.SameShape s) :
    { s with optionalParams := r.optionalParams }.isPaginated = s.isPaginated := by
  simp only [isPaginated, List.all_cons, List.all_nil,
    Param.contains_eq_of_sameShape same.optionalParams]

theorem alikeInShape (same : r.SameShape s) :
    AlikeInShape r { s with
      includeInPath := r.includeInPath
      optionalParams := r.optionalParams } where
  fields := by rw [same.rest]
  typed name _ typeName := Param.containsTyped_eq_of_sameShape same.requiredParams name typeName
  objectList := same.requiredParams.any_eq fun _ _ alike => alike.isObjectList_eq
  ids := same.requiredParams.any_eq fun _ _ alike => alike.isIdList_eq
  answers := same.hasPayloadEndingIn_eq "MasterObjectList"

theorem test_eq (same : r.SameShape s) : ∀ c ∈ builtinClassifiers, c.test r = c.test s := by
  intro c member
  -- The path and the optional parameters are exchanged last, as only one test sees them.
  rw [← test_eq_of_paginated r.includeInPath same.isPaginated_eq c member]
  rcases test_eq_of_alike same.alikeInShape c member with view | alike
  · refine viewTest_eq ?operation ?full c member view
    case operation => rw [same.rest]
    case full => exact same.hasPayloadNamed_eq fullPlacementPayload
  · exact alike

end Request.SameShape

theorem classify_eq_of_sameShape {r s : Request} (same : r.SameShape s) :
    Registry.builtin.classify r = Registry.builtin.classify s ∧
      selectStrategy (Registry.builtin.classify r) =
        selectStrategy (Registry.builtin.classify s) := by
  have tags : Registry.builtin.classify r = Registry.builtin.classify s := by
    rw [Registry.classify, Registry.classify]
    exact congrArg (List.map (·.tag)) (List.filter_congr same.test_eq)
  exact ⟨tags, congrArg selectStrategy tags⟩

def replicatingRequest : Request where
  name := "com.acme.ReplicateRequest"
  family := .managementApi
  verb := some .put
  resource := some (.known .bucket)
  operation := some (.known .startBulkPut)
  optionalParams := [{ name := "PageLength", typeName := "int" },
    { name := "PageOffset", typeName := "int" },
    { name := "PageStartMarker", typeName := uuidType }]
  requiredParams := [
    { name := "Objects", typeName := "array", componentType := some "com.acme.Ds3Object" },
    { name := "Replicate", typeName := voidType }]
  responseCodes := [
    { code := 200, types := [{ typeName := "com.acme.MasterObjectList" }, { typeName := "null" }] },
    { code := 404, types := [{ typeName := "com.acme.Failure" }] }]

def rearrangedRequest : Request :=
  { replicatingRequest with
    name := "ReplicateRequestHandler"
    includeInPath := true
    optionalParams := [{ name := "PageStartMarker", typeName := uuidType },
      { name := "PAGEOFFSET", typeName := "int" },
      { name := "pageLength", typeName := "int", nullable := true }]
    requiredParams := [{ name := "REPLICATE", typeName := voidType },
      { name := "objects", typeName := "array", componentType := some "com.acme.Ds3Object" }]
    responseCodes := [
      { code := 404, types := [{ typeName := "com.acme.Failure" }] },
      { code := 200
        types := [{ typeName := "null" }, { typeName := "com.acme.MasterObjectList" }] }] }

theorem classify_eq_rearrangedRequest :
    replicatingRequest.SameShape rearrangedRequest ∧
      Registry.builtin.classify rearrangedRequest =
        ["bulk", "bulk-replicate", "pagination", "object-list-payload", "string-payload"] ∧
      Registry.builtin.classify replicatingRequest =
        Registry.builtin.classify rearrangedRequest ∧
      selectStrategy (Registry.builtin.classify replicatingRequest) = "bulk-replicate" := by
  have same : replicatingRequest.SameShape rearrangedRequest := {
    rest := rfl
    responseCodes := ⟨replicatingRequest.responseCodes.reverse, (List.reverse_perm _).symm,
      .cons ⟨rfl, .refl _⟩ (.cons ⟨rfl, .swap _ _ _⟩ .nil)⟩
    optionalParams := ⟨replicatingRequest.optionalParams.reverse, (List.reverse_perm _).symm,
      .cons ⟨by decide, rfl, rfl⟩ (.cons ⟨by decide, rfl, rfl⟩ (.cons ⟨by decide, rfl, rfl⟩ .nil))⟩
    requiredParams := ⟨replicatingRequest.requiredParams.reverse, (List.reverse_perm _).symm,
      .cons ⟨by decide, rfl, rfl⟩ (.cons ⟨by decide, rfl, rfl⟩ .nil)⟩ }
  have tagged : Registry.builtin.classify rearrangedRequest =
      ["bulk", "bulk-replicate", "pagination", "object-list-payload", "string-payload"] := by
    decide +kernel
  obtain ⟨tags, strategy⟩ := classify_eq_of_sameShape same
  refine ⟨same, tagged, tags, ?_⟩
  rw [strategy, tagged]
  decide

end ApiContract
