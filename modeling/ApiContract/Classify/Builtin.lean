import ApiContract.Classify.Registry
import ApiContract.Classify.Shape

set_option autoImplicit false

namespace ApiContract

def builtinClassifiers : List Classifier := [
  ⟨"notification", (·.isNotification)⟩,
  ⟨"create-notification", (·.createsNotification)⟩,
  ⟨"get-notification", (·.getsNotification)⟩,
  ⟨"delete-notification", (·.deletesNotification)⟩,
  ⟨"bulk", (·.isBulk)⟩,
  ⟨"bulk-get", (·.isBulkGet)⟩,
  ⟨"bulk-put", (·.isBulkPut)⟩,
  ⟨"bulk-replicate", (·.isBulkReplicate)⟩,
  ⟨"bulk-verify", (·.isBulkVerify)⟩,
  ⟨"physical-placement", (·.isPhysicalPlacement)⟩,
  ⟨"get-physical-placement", (·.getsPlacement)⟩,
  ⟨"get-physical-placement-full-details", (·.getsFullPlacement)⟩,
  ⟨"verify-physical-placement", (·.verifiesPlacement)⟩,
  ⟨"verify-physical-placement-full-details", (·.verifiesFullPlacement)⟩,
  ⟨"pagination", (·.isPaginated)⟩,
  ⟨"object-list-payload", (·.sendsObjectList)⟩,
  ⟨"string-payload", (·.sendsText)⟩,
  ⟨"ids-payload", (·.sendsIds)⟩,
  ⟨"complete-multipart-upload-payload", (·.completesUpload)⟩,
  ⟨"multi-object-delete", (·.deletesObjects)⟩,
  ⟨"create-object", (·.createsObject)⟩,
  ⟨"get-object", (·.getsObject)⟩,
  ⟨"get-object-management", (·.showsObject)⟩,
  ⟨"get-objects-details", (·.listsObjects)⟩,
  ⟨"get-job", (·.showsJob)⟩,
  ⟨"get-blob-persistence", (·.getsBlobPersistence)⟩,
  ⟨"eject-storage-domain", (·.ejectsStorageDomain)⟩,
  ⟨"head-bucket", (·.headsBucket)⟩,
  ⟨"head-object", (·.headsObject)⟩,
  ⟨"allocate-job-chunk", (·.allocatesJobChunk)⟩,
  ⟨"get-job-chunks-ready", (·.listsReadyJobChunks)⟩]

def Registry.builtin : Registry :=
  ⟨builtinClassifiers⟩

-- The tags with a strategy of their own, the most specific first.
def strategies : List String := [
  "bulk-get", "bulk-put", "bulk-replicate", "bulk-verify",
  "create-notification", "get-notification", "delete-notification",
  "get-physical-placement-full-details", "get-physical-placement",
  "verify-physical-placement-full-details", "verify-physical-placement",
  "multi-object-delete", "complete-multipart-upload-payload", "create-object", "get-object",
  "get-object-management", "get-objects-details", "get-job", "get-blob-persistence",
  "eject-storage-domain", "head-bucket", "head-object", "allocate-job-chunk",
  "get-job-chunks-ready", "object-list-payload", "ids-payload", "string-payload"]

def genericStrategy : String := "generic"

def selectStrategy (tags : List String) : String :=
  (strategies.find? tags.contains).getD genericStrategy

end ApiContract
