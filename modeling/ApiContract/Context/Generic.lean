import ApiContract.Context.RequestName
import ApiContract.Document.Request
import ApiContract.Document.TypeDefinition
import ApiContract.Param
import ApiContract.Payload
import ApiContract.Resolve

set_option autoImplicit false

namespace ApiContract.Generic

structure RequestContext where
  name : String
  contractName : String
  classification : String
  verb : Option String
  resource : Option String
  operation : Option String
  action : Option String
  strategy : String
  tags : List String
  headerArgs : List Param
  constructorArgs : List Param
  requiredParams : List Param
  optionalParams : List Param
  responseCodes : List ResponseCode
  payload : Option ResponseType
  deriving DecidableEq

structure TypeContext where
  name : String
  contractName : String
  isEnum : Bool
  definition : TypeDefinition
  deriving DecidableEq

def requestContext (t : TaggedRequest) : Except Error RequestContext := do
  let r := t.request
  let payload ← r.payload?
  pure {
    name := r.sdkName
    contractName := r.name
    classification := Vocabulary.spelling r.family
    verb := r.effectiveVerb.map Vocabulary.spelling
    resource := r.resource.map (·.text)
    operation := r.operation.map (·.text)
    action := r.action.map (·.text)
    strategy := selectStrategy t.tags
    tags := t.tags
    headerArgs := r.headerArgs
    constructorArgs := r.constructorArgs
    requiredParams := r.requiredParams
    optionalParams := r.optionalParams
    responseCodes := r.responseCodes
    payload }

def typeContext (d : TypeDefinition) : TypeContext where
  name := Name.unqualified d.name
  contractName := d.name
  isEnum := d.isEnum
  definition := d

def RequestContext.toJson (c : RequestContext) : Json :=
  Json.sorted (.obj [
    ("name", .str c.name),
    ("contract_name", .str c.contractName),
    ("classification", .str c.classification),
    ("http_verb", .ofText? c.verb),
    ("resource", .ofText? c.resource),
    ("operation", .ofText? c.operation),
    ("action", .ofText? c.action),
    ("strategy", .str c.strategy),
    ("tags", .ofTexts c.tags),
    ("header_args", .arr (c.headerArgs.map Param.toJson)),
    ("constructor_args", .arr (c.constructorArgs.map Param.toJson)),
    ("required_params", .arr (c.requiredParams.map Param.toJson)),
    ("optional_params", .arr (c.optionalParams.map Param.toJson)),
    ("response_codes", .arr (c.responseCodes.map ResponseCode.toJson)),
    ("payload", (c.payload.map ResponseType.toJson).getD .null)])

def TypeContext.toJson (c : TypeContext) : Json :=
  Json.sorted (.obj [
    ("name", .str c.name),
    ("contract_name", .str c.contractName),
    ("is_enum", .bool c.isEnum),
    ("definition", c.definition.toJson)])

end ApiContract.Generic
