import ApiContract.Error
import ApiContract.Name
import ApiContract.Runs
import ApiContract.Text.Ascii
import ApiContract.TypeDefinition

set_option autoImplicit false

namespace ApiContract

def Annotation.value? (a : Annotation) (name : String) : Option String :=
  (a.elements.find? (·.name == name)).map (·.value)

def Annotation.isCustomName (a : Annotation) : Bool :=
  Name.endsIn a.name "CustomMarshaledName"

namespace Element

def customTags (e : Element) : List String :=
  ((e.annotations.filter (·.isCustomName)).filterMap (·.value? "Value")).filter (· ≠ "")

def tag? (e : Element) : Except Error String :=
  match collapseRuns e.customTags with
  | [] => .ok e.name
  | [tag] => .ok tag
  | tags => .error (.malformed e.name (.severalTags tags))

def wrapperTag (e : Element) : String :=
  let entries := (e.annotations.filter (·.isCustomName)).flatMap (·.elements)
  ((entries.find? (·.name == "CollectionValue")).map (·.value)).getD ""

def isAttribute (e : Element) : Bool :=
  e.annotations.any fun a => Name.endsIn a.name "MarshalXmlAsAttribute"

end Element

namespace TypeDefinition

def hasElement (d : TypeDefinition) (name : String) : Bool :=
  d.elements.any (·.name == name)

def isHttpError (d : TypeDefinition) : Bool :=
  d.nameToMarshal.any (Text.sameIgnoringCase · "Error") &&
    ["Code", "HttpErrorCode", "Message", "Resource", "ResourceId"].all d.hasElement

-- The listing of a bucket, with the common beginnings of object names.
def isCommonPrefixes (d : TypeDefinition) : Bool :=
  d.hasElement "CommonPrefixes"

def isJobList (d : TypeDefinition) : Bool :=
  Name.simple d.name == "JobList"

end TypeDefinition

end ApiContract
