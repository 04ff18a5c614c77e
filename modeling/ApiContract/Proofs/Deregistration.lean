import ApiContract.Proofs.Naming
import ApiContract.Proofs.Taxonomy

set_option autoImplicit false

namespace ApiContract

namespace Request

section Kind

variable {r : Request}

theorem isNotification_of_suffix {resource : Resource} (about : r.resource = some resource)
    (registration : "NOTIFICATION_REGISTRATION".toList <:+ resource.text.toList) :
    r.isNotification = true := by
  rw [isNotification, about, Option.any_some, Resource.isNotification]
  exact Name.endsIn_iff.mpr registration

theorem not_isFor_bucket_of_isNotification (notifies : r.isNotification = true) :
    r.isFor .bucket = false := by
  by_contra bucket
  have about := isFor_iff.mp (Bool.of_not_eq_false bucket)
  have other : Resource.isNotification (.known .bucket) = false := by decide
  simp [isNotification, about, other] at notifies

/-- Without an action there is the stated verb, and with one the verb of the action decides. -/
theorem notificationKind?_of_deletes (notifies : r.isNotification = true)
    (deletes : r.effectiveVerb = some .delete) :
    (r.notificationKind? = some .create ↔ r.action.bind Action.verb? = some .put) ∧
    (r.notificationKind? = some .get ↔ r.action.bind Action.verb? = some .get) ∧
    (r.action ≠ some (.known .bulkDelete) →
      (r.notificationKind? = some .delete ↔
        ∀ action, r.action = some action → action.verb? = some .delete)) := by
  simp only [notificationKind?, notifies, if_true]
  cases acts : r.action with
  | none =>
    have stated : r.verb = some .delete := by simpa [effectiveVerb, acts] using deletes
    simp [stated]
  | some action =>
    cases action with
    | known word => cases word <;> simp [Action.verb?]
    | other text unknown => simp [Action.verb?]

end Kind

end Request

section Tags

open Request

variable {r : Request}

theorem notificationTags_iff :
    ("notification" ∈ Registry.builtin.classify r ↔ r.isNotification = true) ∧
    ("create-notification" ∈ Registry.builtin.classify r ↔ r.notificationKind? = some .create) ∧
    ("get-notification" ∈ Registry.builtin.classify r ↔ r.notificationKind? = some .get) ∧
    ("delete-notification" ∈ Registry.builtin.classify r ↔ r.notificationKind? = some .delete) := by
  simp [tagged_iff, builtinClassifiers, createsNotification, getsNotification, deletesNotification]

theorem bulk_tagged_iff (elsewhere : r.isFor .bucket = false) :
    "bulk" ∈ Registry.builtin.classify r ↔
      ∃ operation ∈ [KnownOperation.startBulkGet, .startBulkPut, .startBulkVerify],
        r.operation = some (.known operation) := by
  simp [tagged_iff, builtinClassifiers, isBulk, elsewhere, performs_iff, or_assoc]

theorem classify_of_deletes {resource : Resource} (about : r.resource = some resource)
    (registration : "NOTIFICATION_REGISTRATION".toList <:+ resource.text.toList)
    (deletes : r.effectiveVerb = some .delete) :
    "notification" ∈ Registry.builtin.classify r ∧
    ("create-notification" ∈ Registry.builtin.classify r ↔
      r.action.bind Action.verb? = some .put) ∧
    ("get-notification" ∈ Registry.builtin.classify r ↔
      r.action.bind Action.verb? = some .get) ∧
    (r.action ≠ some (.known .bulkDelete) →
      ("delete-notification" ∈ Registry.builtin.classify r ↔
        ∀ action, r.action = some action → action.verb? = some .delete)) ∧
    ("bulk" ∈ Registry.builtin.classify r ↔
      ∃ operation ∈ [KnownOperation.startBulkGet, .startBulkPut, .startBulkVerify],
        r.operation = some (.known operation)) := by
  have notifies := isNotification_of_suffix about registration
  obtain ⟨general, creates, gets, removes⟩ := notificationTags_iff (r := r)
  obtain ⟨creation, getting, removal⟩ := notificationKind?_of_deletes notifies deletes
  refine ⟨general.mpr notifies, creates.trans creation, gets.trans getting,
    fun known => removes.trans (removal known), ?_⟩
  exact bulk_tagged_iff (not_isFor_bucket_of_isNotification notifies)

def deregistrationRequest : Request where
  name := "com.acme.DeleteWidgetRegistrationRequest"
  verb := some .delete
  family := .managementApi
  resource := some (.ofText "WIDGET_NOTIFICATION_REGISTRATION")
  operation := some (.known .verify)

theorem classify_of_deletes_deregistrationRequest :
    let tags := Registry.builtin.classify deregistrationRequest
    deregistrationRequest.effectiveVerb = some .delete ∧
      "notification" ∈ tags ∧ "delete-notification" ∈ tags ∧
      "create-notification" ∉ tags ∧ "get-notification" ∉ tags ∧ "bulk" ∉ tags := by
  intro tags
  have registration : "NOTIFICATION_REGISTRATION".toList <:+
      (Open.ofText (α := KnownResource) "WIDGET_NOTIFICATION_REGISTRATION").text.toList := by
    rw [Open.text_ofText]
    decide
  obtain ⟨general, creates, gets, removes, bulk⟩ :=
    classify_of_deletes (r := deregistrationRequest) rfl registration rfl
  refine ⟨rfl, general, (removes (by decide)).mpr (by simp [deregistrationRequest]), ?_, ?_, ?_⟩
  · exact mt creates.mp (by decide)
  · exact mt gets.mp (by decide)
  · exact mt bulk.mp (by decide)

/-- An action is followed against the verb, and a bulk operation makes a bulk request of any. -/
theorem classify_deletes_otherwise :
    let creating := { deregistrationRequest with action := some (.known .create) }
    let starting := { deregistrationRequest with operation := some (.known .startBulkGet) }
    creating.effectiveVerb = some .delete ∧ starting.effectiveVerb = some .delete ∧
      creating.isNotification = true ∧ starting.isNotification = true ∧
      "delete-notification" ∉ Registry.builtin.classify creating ∧
      "create-notification" ∈ Registry.builtin.classify creating ∧
      "bulk" ∈ Registry.builtin.classify starting := by
  decide +kernel

end Tags

end ApiContract
