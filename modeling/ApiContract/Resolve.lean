import ApiContract.Classify.Builtin
import ApiContract.Contract
import ApiContract.Reach
import ApiContract.Split

set_option autoImplicit false

namespace ApiContract

structure Selection where
  includeInternal : Bool := false
  -- Where it is not empty, only these requests are kept.
  included : List String := []
  excluded : List String := []
  deriving DecidableEq

structure TaggedRequest where
  request : Request
  tags : List String
  deriving DecidableEq

def TaggedRequest.hasTag (t : TaggedRequest) (tag : String) : Bool :=
  t.tags.contains tag

structure Model where
  requests : List TaggedRequest
  types : Catalog
  deriving DecidableEq

def Model.find? (m : Model) (name : String) : Option TaggedRequest :=
  m.requests.find? fun t => t.request.name == name || Name.simple t.request.name == name

def externalRequests (requests : List Request) : List Request :=
  requests.filter (!·.isInternal)

def Param.defect? (p : Param) : Option Defect :=
  if p.name = "" then some .paramWithoutName
  else if p.typeName = "" then some (.paramWithoutType p.name)
  else none

def ResponseCode.defect? (rc : ResponseCode) : Option Defect :=
  if rc.types.any (·.typeName == "") then some (.responseTypeWithoutName rc.code) else none

namespace Request

def headDefect? (r : Request) : Option Defect :=
  if Name.simple r.name = "" then some .noSimpleName
  else r.allParams.findSome? Param.defect?

def defect? (r : Request) : Option Defect :=
  r.headDefect? <|> r.responseCodes.findSome? ResponseCode.defect?

def validate (r : Request) : Except Error Unit :=
  match r.defect? with
  | some defect => .error (.malformed r.name defect)
  | none => .ok ()

def validateLog (r : Request) : Log :=
  if r.headDefect?.isSome then []
  else if r.responseCodes.isEmpty then
    [⟨.warn, r.name ++ " does not have any response codes"⟩]
  else
    ((r.responseCodes.takeWhile (·.defect?.isNone)).filter (·.types.isEmpty)).map fun rc =>
      ⟨.warn, r.name ++ ": response code " ++ toString rc.code.toNat ++ " has no response types"⟩

end Request

def validateAll : List Request → Except Error Unit
  | [] => .ok ()
  | r :: rest => do
    r.validate
    validateAll rest

def validateAllLog : List Request → Log
  | [] => []
  | r :: rest => r.validateLog ++ if r.defect?.isSome then [] else validateAllLog rest

def checkSingleTypes (requests : List Request) : Except Error Unit :=
  match requests.findSome? fun r => (r.responseCodes.find? (·.isMultiple)).map (r.name, ·.code) with
  | some (name, code) => .error (.malformed name (.severalTypes code))
  | none => .ok ()

def Request.isAmong (r : Request) (names : List String) : Bool :=
  names.contains (Name.simple r.name) || names.contains (Name.withoutHandler (Name.simple r.name))

namespace Selection

def admits (s : Selection) (r : Request) : Bool :=
  (s.included.isEmpty || r.isAmong s.included) && !r.isAmong s.excluded

def filter (s : Selection) (requests : List Request) : List Request :=
  requests.filter s.admits

def candidates (s : Selection) (requests : List Request) : List Request :=
  if s.includeInternal then requests else externalRequests requests

end Selection

namespace Contract

def resolveWith (registry : Registry) (c : Contract) (s : Selection) : Except Error Model := do
  let candidates := s.candidates c.requests
  validateAll candidates
  let variants ← splitAll candidates
  checkSingleTypes variants
  let selected := s.filter variants
  pure {
    requests := selected.map fun r => ⟨r, registry.classify r⟩
    types := c.types.reachableFrom selected }

def resolve (c : Contract) (s : Selection) : Except Error Model :=
  c.resolveWith Registry.builtin s

def modelLog (c : Contract) (m : Model) : Log :=
  [⟨.debug, "type closure kept " ++ toString m.types.size ++ " of " ++ toString c.types.size ++
    " catalog types"⟩] ++
  m.requests.map (fun t => ⟨.debug, t.request.name ++ " tagged " ++ Text.quotedList t.tags⟩) ++
  [⟨.info, "resolved " ++ toString m.requests.length ++ " requests and " ++
    toString m.types.size ++ " types"⟩]

def resolveLog (registry : Registry) (c : Contract) (s : Selection) : Log :=
  let candidates := s.candidates c.requests
  [⟨.debug, toString candidates.length ++ " of " ++ toString c.requests.length ++
    " requests left after dropping internal requests"⟩] ++
  validateAllLog candidates ++
  (match validateAll candidates with
    | .ok () => splitAllLog candidates
    | .error _ => []) ++
  (match c.resolveWith registry s with
    | .ok m => c.modelLog m
    | .error _ => [])

end Contract

end ApiContract
