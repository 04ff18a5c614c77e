import ApiContract.Error
import ApiContract.Request
import ApiContract.Runs

set_option autoImplicit false

namespace ApiContract

def isErrorCode (code : UInt16) : Bool :=
  300 ≤ code

def ResponseType.isNull (t : ResponseType) : Bool :=
  Text.sameIgnoringCase t.typeName "null"

namespace Request

def payloads (r : Request) : List ResponseType :=
  ((r.responseCodes.filter (!isErrorCode ·.code)).flatMap (·.types)).filter (!·.isNull)

def payloadNames (r : Request) : List String :=
  r.payloads.map (Name.unqualified ·.typeName)

/-- The one payload of a request, if it has any. Different payloads are an error. -/
def payload? (r : Request) : Except Error (Option ResponseType) :=
  match collapseRuns r.payloads with
  | [] => .ok none
  | [t] => .ok (some t)
  | _ => .error (.malformed r.name .severalPayloads)

def payloadCode? (r : Request) : Option UInt16 :=
  (r.responseCodes.find? fun rc => !isErrorCode rc.code && rc.types.any (!·.isNull)).map (·.code)

def hasPayloadEndingIn (r : Request) (tail : String) : Bool :=
  r.payloads.any fun t => Name.endsIn t.typeName tail

def hasPayload (r : Request) : Bool :=
  !r.payloads.isEmpty

end Request

end ApiContract
