import ApiContract.Param
import ApiContract.Payload

set_option autoImplicit false

namespace ApiContract

def objectIdentifierTypes : List String := ["Ds3Object", "S3Object"]

def fullPlacementPayload : String := "BlobApiBeansContainer"

namespace Param

def isCollection (p : Param) : Bool :=
  p.typeName == "array" || p.componentType.isSome

def isObjectList (p : Param) : Bool :=
  p.isCollection &&
    p.componentType.any fun c => objectIdentifierTypes.contains (Name.unqualified c)

def isIdList (p : Param) : Bool :=
  p.isCollection && p.componentType == some uuidType

end Param

inductive NotificationKind where
  | create
  | get
  | delete
  deriving DecidableEq

namespace Request

def isFor (r : Request) (resource : KnownResource) : Bool :=
  r.resource == some (.known resource)

def does (r : Request) (action : KnownAction) : Bool :=
  r.action == some (.known action)

def performs (r : Request) (operation : KnownOperation) : Bool :=
  r.operation == some (.known operation)

def isSentWith (r : Request) (verb : Verb) : Bool :=
  r.effectiveVerb == some verb

def forbidsObject (r : Request) : Bool :=
  r.object == some .notAllowed

def isInFamily (r : Request) (family : Family) : Bool :=
  r.family == family

def hasPayloadNamed (r : Request) (name : String) : Bool :=
  r.payloadNames.contains name

def hasObjectListParam (r : Request) : Bool :=
  r.requiredParams.any (·.isObjectList)

def isNotification (r : Request) : Bool :=
  r.resource.any Resource.isNotification

/-- Told by the action, and only where there is none by the stated verb. -/
def notificationKind? (r : Request) : Option NotificationKind :=
  if r.isNotification then
    match r.action with
    | some (.known .create) | some (.known .modify) | some (.known .bulkModify) => some .create
    | some (.known .delete) => some .delete
    | some (.known .list) | some (.known .show) => some .get
    | some _ => none
    | none =>
      match r.verb with
      | some .put | some .post => some .create
      | some .get => some .get
      | some .delete => some .delete
      | some .head | none => none
  else none

def createsNotification (r : Request) : Bool :=
  r.notificationKind? == some .create

def getsNotification (r : Request) : Bool :=
  r.notificationKind? == some .get

def deletesNotification (r : Request) : Bool :=
  r.notificationKind? == some .delete

def isBulkGet (r : Request) : Bool :=
  r.performs .startBulkGet

def isBulkReplicate (r : Request) : Bool :=
  r.performs .startBulkPut && Param.containsTyped r.requiredParams "Replicate" voidType

def isBulkPut (r : Request) : Bool :=
  r.performs .startBulkPut && !r.isBulkReplicate

def isBulkVerify (r : Request) : Bool :=
  r.performs .startBulkVerify

/-- Starts a job on many objects: by its operation, or as a bucket request that sends a list of
objects and is answered with one. -/
def isBulk (r : Request) : Bool :=
  r.performs .startBulkGet || r.performs .startBulkPut || r.performs .startBulkVerify ||
    (r.isFor .bucket && r.hasObjectListParam && r.hasPayloadEndingIn "MasterObjectList")

def isPhysicalPlacement (r : Request) : Bool :=
  r.performs .getPhysicalPlacement || r.performs .verifyPhysicalPlacement ||
    r.performs .startBulkVerify

def getsPlacement (r : Request) : Bool :=
  r.performs .getPhysicalPlacement && !r.hasPayloadNamed fullPlacementPayload

def getsFullPlacement (r : Request) : Bool :=
  r.performs .getPhysicalPlacement && r.hasPayloadNamed fullPlacementPayload

def verifiesPlacement (r : Request) : Bool :=
  r.performs .verifyPhysicalPlacement && !r.hasPayloadNamed fullPlacementPayload

def verifiesFullPlacement (r : Request) : Bool :=
  r.performs .verifyPhysicalPlacement && r.hasPayloadNamed fullPlacementPayload

def isPaginated (r : Request) : Bool :=
  ["PageLength", "PageOffset", "PageStartMarker"].all (Param.contains r.optionalParams)

def deletesObjects (r : Request) : Bool :=
  r.isSentWith .post && r.forbidsObject &&
    Param.containsTyped r.requiredParams "Delete" voidType

def sendsObjectList (r : Request) : Bool :=
  r.hasObjectListParam || r.deletesObjects

def getsBlobPersistence (r : Request) : Bool :=
  r.isFor .blobPersistence && r.isSentWith .get

def sendsText (r : Request) : Bool :=
  r.isBulkReplicate || r.getsBlobPersistence

def sendsIds (r : Request) : Bool :=
  r.requiredParams.any (·.isIdList)

def completesUpload (r : Request) : Bool :=
  r.isSentWith .post && r.requiresBucket && r.requiresObject &&
    Param.containsTyped r.requiredParams "UploadId" uuidType

def createsObject (r : Request) : Bool :=
  r.isSentWith .put && r.requiresBucket && r.requiresObject &&
    !Param.containsTyped r.requiredParams "PartNumber" "int"

def getsObject (r : Request) : Bool :=
  r.isInFamily .objectApi && r.isSentWith .get && r.requiresBucket && r.requiresObject &&
    !Param.containsTyped r.requiredParams "UploadId" uuidType

def showsObject (r : Request) : Bool :=
  r.isInFamily .managementApi && r.does .show && r.isFor .object &&
    r.multiplicity == some .nonSingleton

def listsObjects (r : Request) : Bool :=
  r.isInFamily .managementApi && r.does .list && r.isFor .object

def showsJob (r : Request) : Bool :=
  r.isInFamily .managementApi && r.does .show && r.isFor .job

def ejectsStorageDomain (r : Request) : Bool :=
  r.isFor .tape && r.does .bulkModify && r.performs .eject

def headsBucket (r : Request) : Bool :=
  r.isInFamily .objectApi && r.isSentWith .head && r.requiresBucket && r.forbidsObject

def headsObject (r : Request) : Bool :=
  r.isInFamily .objectApi && r.isSentWith .head && r.requiresBucket && r.requiresObject

def allocatesJobChunk (r : Request) : Bool :=
  r.isInFamily .managementApi && r.isFor .jobChunk && r.does .modify && r.isSentWith .put &&
    r.performs .allocate

def listsReadyJobChunks (r : Request) : Bool :=
  r.isInFamily .managementApi && r.isFor .jobChunk && r.does .list && r.isSentWith .get

end Request

end ApiContract
