import ApiContract.Name.Case
import ApiContract.Request
import ApiContract.Text.Sorted

set_option autoImplicit false

namespace ApiContract

namespace Param

-- Parameters are looked up without regard to the case of ASCII letters.
def isNamed (name : String) (p : Param) : Bool :=
  Text.sameIgnoringCase p.name name

def find? (ps : List Param) (name : String) : Option Param :=
  ps.find? (isNamed name)

def contains (ps : List Param) (name : String) : Bool :=
  ps.any (isNamed name)

def containsTyped (ps : List Param) (name typeName : String) : Bool :=
  ps.any fun p => p.isNamed name && Text.sameIgnoringCase p.typeName typeName

def without (ps : List Param) (name : String) : List Param :=
  ps.filter (!isNamed name ·)

def usesType (ps : List Param) (typeName : String) : Bool :=
  ps.any (·.typeName == typeName)

def replaceType (ps : List Param) (old new : String) : List Param :=
  ps.map fun p => if p.typeName = old then { p with typeName := new } else p

def typeNames (ps : List Param) : List String :=
  Text.sortedDistinct (ps.map (·.typeName))

def flags (ps : List Param) : List Param :=
  ps.filter (·.isVoid)

def valued (ps : List Param) : List Param :=
  ps.filter (!·.isVoid)

def bucketName : String := "BucketName"

def objectName : String := "ObjectName"

def rank (p : Param) : Nat :=
  if p.name = bucketName then 0 else if p.name = objectName then 1 else 2

def sortArgs (ps : List Param) : List Param :=
  ps.mergeSort fun a b => a.rank ≤ b.rank

end Param

namespace Request

def resourceArg? (r : Request) : Option Param :=
  match r.resource with
  | none => none
  | some resource =>
    if r.multiplicity ≠ some .nonSingleton || resource.isNotification || resource.isSingleton then
      none
    else
      let base := Name.upperCamelCase resource.text
      if resource.isNameAddressed then
        some { name := base ++ "Name", typeName := stringType }
      else if resource.isIdAddressed then
        some { name := base ++ "Id", typeName := uuidType }
      else
        some { name := base, typeName := stringType }

-- The bucket and the object of a request, as far as its path must have them.
def storageArgs (r : Request) : List Param :=
  (if r.requiresBucket then [{ name := Param.bucketName, typeName := stringType }] else []) ++
  (if r.requiresObject then [{ name := Param.objectName, typeName := stringType }] else [])

/-- The arguments in the path of a request. A resource already addressed is not named again. -/
def headerArgs (r : Request) : List Param :=
  match r.resourceArg? with
  | some arg =>
    if Param.contains r.storageArgs arg.name then r.storageArgs else r.storageArgs ++ [arg]
  | none => r.storageArgs

def constructorArgs (r : Request) : List Param :=
  Param.sortArgs (r.headerArgs ++ Param.valued r.requiredParams)

end Request

end ApiContract
