import ApiContract.Proofs.RegistryHistory

set_option autoImplicit false

namespace ApiContract

section Tagged

variable {r : Request} {tag : String}

theorem tagged_iff :
    tag ∈ Registry.builtin.classify r ↔
      (builtinClassifiers.find? (·.tag == tag)).any (·.test r) = true := by
  have entry : Registry.builtin.matches? tag r =
      (builtinClassifiers.find? (·.tag == tag)).map (·.test r) := rfl
  by_cases present : tag ∈ Registry.builtin.tags
  · rw [Registry.matches?_eq_some Registry.distinct_builtin present, eq_comm,
      Option.map_eq_some_iff] at entry
    obtain ⟨c, found, passes⟩ := entry
    simp [found, passes]
  · rw [Registry.matches?_eq_none_iff.mpr present, eq_comm, Option.map_eq_none_iff] at entry
    simp only [entry, Option.any_none, Bool.false_eq_true, iff_false]
    exact fun tagged => present (Registry.classify_sublist.subset tagged)

end Tagged

namespace Request

section Shape

variable {r : Request}

theorem isFor_iff {resource : KnownResource} :
    r.isFor resource = true ↔ r.resource = some (.known resource) := by
  simp [isFor]

theorem does_iff {action : KnownAction} :
    r.does action = true ↔ r.action = some (.known action) := by
  simp [does]

theorem performs_iff {operation : KnownOperation} :
    r.performs operation = true ↔ r.operation = some (.known operation) := by
  simp [performs]

theorem isSentWith_iff {verb : Verb} :
    r.isSentWith verb = true ↔ r.effectiveVerb = some verb := by
  simp [isSentWith]

theorem requiresObject_iff : r.requiresObject = true ↔ r.object = some .required := by
  simp [requiresObject]

theorem forbidsObject_iff : r.forbidsObject = true ↔ r.object = some .notAllowed := by
  simp [forbidsObject]

theorem isNotification_of_kind {kind : NotificationKind} (known : r.notificationKind? = some kind) :
    r.isNotification = true := by
  by_contra other
  simp [notificationKind?, other] at known

end Shape

def jobTag? (r : Request) : Option String :=
  match r.operation with
  | some (.known .startBulkGet) => some "bulk-get"
  | some (.known .startBulkPut) => some (if r.isBulkReplicate then "bulk-replicate" else "bulk-put")
  | some (.known .startBulkVerify) => some "bulk-verify"
  | some (.known .getPhysicalPlacement) =>
    some (if r.hasPayloadNamed fullPlacementPayload then "get-physical-placement-full-details"
      else "get-physical-placement")
  | some (.known .verifyPhysicalPlacement) =>
    some (if r.hasPayloadNamed fullPlacementPayload then "verify-physical-placement-full-details"
      else "verify-physical-placement")
  | _ => none

def notificationTag? (r : Request) : Option String :=
  r.notificationKind?.map fun
    | .create => "create-notification"
    | .get => "get-notification"
    | .delete => "delete-notification"

def storageTag? (r : Request) : Option String :=
  match r.effectiveVerb, r.object with
  | some .post, some .notAllowed => some "multi-object-delete"
  | some .post, some .required => some "complete-multipart-upload-payload"
  | some .put, _ => some "create-object"
  | some .get, _ => some "get-object"
  | some .head, some .notAllowed => some "head-bucket"
  | some .head, some .required => some "head-object"
  | _, _ => none

def resourceTag? (r : Request) : Option String :=
  match r.resource, r.action with
  | some (.known .object), some (.known .show) => some "get-object-management"
  | some (.known .object), some (.known .list) => some "get-objects-details"
  | some (.known .job), _ => some "get-job"
  | some (.known .blobPersistence), _ => some "get-blob-persistence"
  | some (.known .tape), _ => some "eject-storage-domain"
  | some (.known .jobChunk), some (.known .modify) => some "allocate-job-chunk"
  | some (.known .jobChunk), some (.known .list) => some "get-job-chunks-ready"
  | _, _ => none

end Request

def jobTags : List String := [
  "bulk-get", "bulk-put", "bulk-replicate", "bulk-verify",
  "get-physical-placement", "get-physical-placement-full-details",
  "verify-physical-placement", "verify-physical-placement-full-details"]

def notificationTags : List String :=
  ["create-notification", "get-notification", "delete-notification"]

def storageTags : List String := [
  "multi-object-delete", "complete-multipart-upload-payload", "create-object", "get-object",
  "head-bucket", "head-object"]

def resourceTags : List String := [
  "get-object-management", "get-objects-details", "get-job", "get-blob-persistence",
  "eject-storage-domain", "allocate-job-chunk", "get-job-chunks-ready"]

/-- Tags, each with one that a request has along with it. -/
def entailments : List (String × String) := [
  ("create-notification", "notification"),
  ("get-notification", "notification"),
  ("delete-notification", "notification"),
  ("bulk-get", "bulk"),
  ("bulk-put", "bulk"),
  ("bulk-replicate", "bulk"),
  ("bulk-verify", "bulk"),
  ("bulk-verify", "physical-placement"),
  ("get-physical-placement", "physical-placement"),
  ("get-physical-placement-full-details", "physical-placement"),
  ("verify-physical-placement", "physical-placement"),
  ("verify-physical-placement-full-details", "physical-placement"),
  ("multi-object-delete", "object-list-payload"),
  ("bulk-replicate", "string-payload"),
  ("get-blob-persistence", "string-payload")]

section Groups

open Request

variable {r : Request}

theorem jobTag?_of_tagged :
    ∀ tag ∈ jobTags, tag ∈ Registry.builtin.classify r → r.jobTag? = some tag := by
  suffices (r.isBulkGet = true → r.jobTag? = some "bulk-get") ∧
      (r.isBulkPut = true → r.jobTag? = some "bulk-put") ∧
      (r.isBulkReplicate = true → r.jobTag? = some "bulk-replicate") ∧
      (r.isBulkVerify = true → r.jobTag? = some "bulk-verify") ∧
      (r.getsPlacement = true → r.jobTag? = some "get-physical-placement") ∧
      (r.getsFullPlacement = true → r.jobTag? = some "get-physical-placement-full-details") ∧
      (r.verifiesPlacement = true → r.jobTag? = some "verify-physical-placement") ∧
      (r.verifiesFullPlacement = true →
        r.jobTag? = some "verify-physical-placement-full-details") by
    simpa [jobTags, tagged_iff, builtinClassifiers]
  refine ⟨?_, ?_, fun replicates => ?_, ?_, ?_, ?_, ?_, ?_⟩
  -- A replication is started as a bulk put is, so that its own test has to be kept.
  case refine_3 =>
    have operation := performs_iff.mp (Bool.and_eq_true_iff.mp replicates).1
    simp [jobTag?, operation, replicates]
  all_goals
    intro shape
    simp only [isBulkGet, isBulkPut, isBulkVerify, getsPlacement, getsFullPlacement,
      verifiesPlacement, verifiesFullPlacement, Bool.and_eq_true, Bool.not_eq_true',
      performs_iff] at shape
    simp [jobTag?, shape]

theorem tagged_of_jobTag? {tag : String} (own : r.jobTag? = some tag) :
    tag ∈ jobTags ∧ tag ∈ Registry.builtin.classify r := by
  rw [tagged_iff]
  unfold jobTag? at own
  split at own
  case h_6 => simp at own
  all_goals
    rw [Option.some.injEq] at own
    try split at own
    all_goals
      subst own
      simp_all [jobTags, builtinClassifiers, isBulkGet, isBulkPut, isBulkVerify, getsPlacement,
        getsFullPlacement, verifiesPlacement, verifiesFullPlacement, performs]

theorem notificationTag?_of_tagged :
    ∀ tag ∈ notificationTags,
      tag ∈ Registry.builtin.classify r → r.notificationTag? = some tag := by
  suffices (r.createsNotification = true → r.notificationTag? = some "create-notification") ∧
      (r.getsNotification = true → r.notificationTag? = some "get-notification") ∧
      (r.deletesNotification = true → r.notificationTag? = some "delete-notification") by
    simpa [notificationTags, tagged_iff, builtinClassifiers]
  simp +contextual [createsNotification, getsNotification, deletesNotification, notificationTag?]

theorem storageTag?_of_tagged :
    ∀ tag ∈ storageTags, tag ∈ Registry.builtin.classify r → r.storageTag? = some tag := by
  suffices (r.deletesObjects = true → r.storageTag? = some "multi-object-delete") ∧
      (r.completesUpload = true → r.storageTag? = some "complete-multipart-upload-payload") ∧
      (r.createsObject = true → r.storageTag? = some "create-object") ∧
      (r.getsObject = true → r.storageTag? = some "get-object") ∧
      (r.headsBucket = true → r.storageTag? = some "head-bucket") ∧
      (r.headsObject = true → r.storageTag? = some "head-object") by
    simpa [storageTags, tagged_iff, builtinClassifiers]
  refine ⟨?_, ?_, ?_, ?_, ?_, ?_⟩
  all_goals
    intro shape
    simp only [deletesObjects, completesUpload, createsObject, getsObject, headsBucket,
      headsObject, Bool.and_eq_true, isSentWith_iff, requiresObject_iff, forbidsObject_iff] at shape
    simp [storageTag?, shape]

theorem resourceTag?_of_tagged :
    ∀ tag ∈ resourceTags, tag ∈ Registry.builtin.classify r → r.resourceTag? = some tag := by
  suffices (r.showsObject = true → r.resourceTag? = some "get-object-management") ∧
      (r.listsObjects = true → r.resourceTag? = some "get-objects-details") ∧
      (r.showsJob = true → r.resourceTag? = some "get-job") ∧
      (r.getsBlobPersistence = true → r.resourceTag? = some "get-blob-persistence") ∧
      (r.ejectsStorageDomain = true → r.resourceTag? = some "eject-storage-domain") ∧
      (r.allocatesJobChunk = true → r.resourceTag? = some "allocate-job-chunk") ∧
      (r.listsReadyJobChunks = true → r.resourceTag? = some "get-job-chunks-ready") by
    simpa [resourceTags, tagged_iff, builtinClassifiers]
  refine ⟨?_, ?_, ?_, ?_, ?_, ?_, ?_⟩
  all_goals
    intro shape
    simp only [showsObject, listsObjects, showsJob, getsBlobPersistence, ejectsStorageDomain,
      allocatesJobChunk, listsReadyJobChunks, Bool.and_eq_true, isFor_iff, does_iff] at shape
    simp [resourceTag?, shape]

theorem entailed_of_tagged :
    ∀ e ∈ entailments, e.1 ∈ Registry.builtin.classify r → e.2 ∈ Registry.builtin.classify r := by
  suffices (r.createsNotification = true → r.isNotification = true) ∧
      (r.getsNotification = true → r.isNotification = true) ∧
      (r.deletesNotification = true → r.isNotification = true) ∧
      (r.isBulkGet = true → r.isBulk = true) ∧
      (r.isBulkPut = true → r.isBulk = true) ∧
      (r.isBulkReplicate = true → r.isBulk = true) ∧
      (r.isBulkVerify = true → r.isBulk = true) ∧
      (r.isBulkVerify = true → r.isPhysicalPlacement = true) ∧
      (r.getsPlacement = true → r.isPhysicalPlacement = true) ∧
      (r.getsFullPlacement = true → r.isPhysicalPlacement = true) ∧
      (r.verifiesPlacement = true → r.isPhysicalPlacement = true) ∧
      (r.verifiesFullPlacement = true → r.isPhysicalPlacement = true) ∧
      (r.deletesObjects = true → r.sendsObjectList = true) ∧
      (r.isBulkReplicate = true → r.sendsText = true) ∧
      (r.getsBlobPersistence = true → r.sendsText = true) by
    simpa [entailments, tagged_iff, builtinClassifiers]
  -- What is done with a notification is asked only of requests that are for one.
  have kind {kind : NotificationKind} (known : (r.notificationKind? == some kind) = true) :
      r.isNotification = true := isNotification_of_kind (beq_iff_eq.mp known)
  refine ⟨kind, kind, kind, ?_⟩
  simp +contextual [isBulkGet, isBulkPut, isBulkReplicate, isBulkVerify, isBulk, getsPlacement,
    getsFullPlacement, verifiesPlacement, verifiesFullPlacement, isPhysicalPlacement,
    sendsObjectList, sendsText]

end Groups

section Strategy

variable {tags : List String} {tag : String}

theorem selectStrategy_ne_generic (listed : tag ∈ strategies) (present : tag ∈ tags) :
    selectStrategy tags ≠ genericStrategy := by
  have noGeneric : genericStrategy ∉ strategies := by decide
  unfold selectStrategy
  cases found : strategies.find? tags.contains with
  | none => simpa [present] using List.find?_eq_none.mp found tag listed
  | some first =>
    rintro rfl
    exact noGeneric (List.mem_of_find?_eq_some found)

theorem strategic_of_jobTag : ∀ tag ∈ jobTags, tag ∈ strategies := by
  decide

theorem strategic_of_tagged {r : Request} (general : "bulk" ∈ Registry.builtin.classify r ∨
    "physical-placement" ∈ Registry.builtin.classify r) :
    ∃ tag ∈ strategies, tag ∈ Registry.builtin.classify r := by
  have shape : r.isBulk = true ∨ r.isPhysicalPlacement = true := by
    simpa [tagged_iff, builtinClassifiers] using general
  cases own : r.jobTag? with
  | some tag =>
    obtain ⟨listed, tagged⟩ := tagged_of_jobTag? own
    exact ⟨tag, strategic_of_jobTag tag listed, tagged⟩
  | none =>
    have plain (operation : KnownOperation)
        (starts : operation ∈ [.startBulkGet, .startBulkPut, .startBulkVerify,
          .getPhysicalPlacement, .verifyPhysicalPlacement]) : r.performs operation = false := by
      rw [Bool.eq_false_iff, ne_eq, Request.performs_iff]
      intro performed
      simp only [List.mem_cons, List.not_mem_nil, or_false] at starts
      rcases starts with rfl | rfl | rfl | rfl | rfl <;> simp [Request.jobTag?, performed] at own
    -- Without an operation that says so, a request is a bulk one by the objects it sends.
    have sends : (r.isFor .bucket = true ∧ r.hasObjectListParam = true) ∧
        r.hasPayloadEndingIn "MasterObjectList" = true := by
      simpa [Request.isBulk, Request.isPhysicalPlacement, plain] using shape
    refine ⟨"object-list-payload", by decide, ?_⟩
    simp [tagged_iff, builtinClassifiers, Request.sendsObjectList, sends.1.2]

end Strategy

def exclusiveGroups : List (List String) :=
  [jobTags, notificationTags, storageTags, resourceTags]

structure Coherent (tags : List String) : Prop where
  entailed : ∀ e ∈ entailments, e.1 ∈ tags → e.2 ∈ tags
  exclusive : ∀ group ∈ exclusiveGroups, ∀ first ∈ group, ∀ second ∈ group,
    first ∈ tags → second ∈ tags → first = second
  specific : "bulk" ∈ tags ∨ "physical-placement" ∈ tags → selectStrategy tags ≠ genericStrategy

theorem classify_builtin_coherent (r : Request) : Coherent (Registry.builtin.classify r) where
  entailed := entailed_of_tagged
  exclusive := by
    -- In each group the request itself says which of the tags it may have.
    have decided {group : List String} {own : Option String}
        (only : ∀ tag ∈ group, tag ∈ Registry.builtin.classify r → own = some tag) :
        ∀ first ∈ group, ∀ second ∈ group, first ∈ Registry.builtin.classify r →
          second ∈ Registry.builtin.classify r → first = second := by
      intro first isFirst second isSecond firstTagged secondTagged
      exact Option.some.inj ((only first isFirst firstTagged).symm.trans
        (only second isSecond secondTagged))
    simp only [exclusiveGroups, List.forall_mem_cons, List.not_mem_nil, false_implies,
      implies_true, and_true]
    exact ⟨decided jobTag?_of_tagged, decided notificationTag?_of_tagged,
      decided storageTag?_of_tagged, decided resourceTag?_of_tagged⟩
  specific general := by
    obtain ⟨tag, listed, tagged⟩ := strategic_of_tagged general
    exact selectStrategy_ne_generic listed tagged

end ApiContract
