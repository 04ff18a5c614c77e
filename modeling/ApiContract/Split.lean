import ApiContract.Error
import ApiContract.Log
import ApiContract.Param

set_option autoImplicit false

namespace ApiContract

structure SplitRule where
  stem : String
  resource : String
  viewParam : String
  basePayload : String
  detailedPayload : String
  deriving DecidableEq

def splitRules : List SplitRule := [
  { stem := "GetPhysicalPlacementForObjects"
    resource := "BUCKET"
    viewParam := Name.fullDetailsToken
    basePayload := "PhysicalPlacementApiBean"
    detailedPayload := "BlobApiBeansContainer" },
  { stem := "VerifyPhysicalPlacementForObjects"
    resource := "BUCKET"
    viewParam := Name.fullDetailsToken
    basePayload := "PhysicalPlacementApiBean"
    detailedPayload := "BlobApiBeansContainer" },
  { stem := "GetTapePartition"
    resource := "TAPE_PARTITION"
    viewParam := Name.fullDetailsToken
    basePayload := "TapePartition"
    detailedPayload := "DetailedTapePartition" },
  { stem := "GetTape"
    resource := "TAPE"
    viewParam := Name.fullDetailsToken
    basePayload := "Tape"
    detailedPayload := "TapeApiBean" }]

/-- Whether a type has this unqualified name, and its component type that one, or neither has a
component type. -/
def ResponseType.isCalled (t : ResponseType) (name : String) (component : Option String) : Bool :=
  name ≠ "" && t.typeName ≠ "" && Name.unqualified t.typeName == name &&
    t.componentType.map Name.unqualified == component

def keepTypesAt (codes : List ResponseCode) (status : UInt16) (name : String)
    (component : Option String) : List ResponseCode :=
  codes.map fun rc =>
    if rc.code = status then { rc with types := rc.types.filter (·.isCalled name component) }
    else rc

/-- The entries with every status narrowed to the payload that comes with several types. -/
def narrow (codes : List ResponseCode) (payload : String) : List ResponseCode :=
  (codes.filter (·.isMultiple)).foldl (fun narrowed rc => keepTypesAt narrowed rc.code payload none)
    codes

namespace Request

def dropParam (r : Request) (name : String) : Request :=
  { r with
    optionalParams := Param.without r.optionalParams name
    requiredParams := Param.without r.requiredParams name }

def spellingOf (r : Request) (name : String) : String :=
  ((Param.find? r.allParams name).map (·.name)).getD name

def requireFlag (r : Request) (name : String) : Request :=
  { r with
    optionalParams := Param.without r.optionalParams name
    requiredParams :=
      Param.without r.requiredParams name ++ [{ name := r.spellingOf name, typeName := voidType }] }

def narrowed? (r : Request) (payload : String) : Except Error (List ResponseCode) :=
  let codes := narrow r.responseCodes payload
  match codes.find? (·.isMultiple) with
  | some rc => .error (.malformed r.name (.stillSeveralTypes rc.code rc.types.length payload))
  | none => .ok codes

end Request

namespace SplitRule

def covers (rule : SplitRule) (r : Request) : Bool :=
  Name.stem r.name == rule.stem && r.resource.map (·.text) == some rule.resource &&
    (r.responseCodes.filter (·.isMultiple)).all fun rc =>
      [rule.basePayload, rule.detailedPayload].all fun payload =>
        rc.types.any (·.isCalled payload none)

def split (rule : SplitRule) (r : Request) : Except Error (Request × Request) := do
  let baseCodes ← r.narrowed? rule.basePayload
  let detailedCodes ← r.narrowed? rule.detailedPayload
  let base := { r.dropParam rule.viewParam with responseCodes := baseCodes }
  let detailed := { r.requireFlag rule.viewParam with
    name := Name.fullDetails r.name
    responseCodes := detailedCodes }
  pure (base, detailed)

end SplitRule

namespace Request

def splitRule? (r : Request) : Option SplitRule :=
  splitRules.find? (·.covers r)

/-- The variants of a request, or the request alone where no status comes with several types. -/
def split (r : Request) : Except Error (List Request) :=
  if r.hasMultipleTypes then
    match r.splitRule? with
    | some rule => do
      let (base, detailed) ← rule.split r
      pure [base, detailed]
    | none => .error (.unrecognizedMultiResponse r.name)
  else .ok [r]

def splitLog (r : Request) : Log :=
  match r.split with
  | .ok [base, detailed] =>
    [⟨.debug, "split " ++ r.name ++ " into " ++ base.name ++ " and " ++ detailed.name⟩]
  | _ => []

end Request

-- All requests, with each that needs it replaced by its variants. The first failure counts.
def splitAll : List Request → Except Error (List Request)
  | [] => .ok []
  | r :: rest => do
    let variants ← r.split
    let others ← splitAll rest
    pure (variants ++ others)

def splitEachLog : List Request → Log
  | [] => []
  | r :: rest =>
    r.splitLog ++ match r.split with
      | .ok _ => splitEachLog rest
      | .error _ => []

def splitAllLog (requests : List Request) : Log :=
  splitEachLog requests ++ match splitAll requests with
    | .ok result =>
      [⟨.info, "split pass: " ++ toString requests.length ++ " requests in, " ++
        toString result.length ++ " requests out"⟩]
    | .error _ => []

end ApiContract
