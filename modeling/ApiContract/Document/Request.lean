import ApiContract.Json.Document
import ApiContract.Request

set_option autoImplicit false

namespace ApiContract

open Document

def ofWord {α : Type} [Vocabulary α] (word : α) : Json :=
  .str (Vocabulary.spelling word)

def ofOpen {α : Type} [Vocabulary α] (word : Open α) : Json :=
  .str word.text

namespace Param

def fieldNames : List String := ["name", "type", "component_type", "nullable"]

def ofDocument? {V : Type} [Document V] (v : V) : Option Param := do
  let fields ← fields? fieldNames v
  let name ← required? fields "name" text?
  let typeName ← required? fields "type" text?
  let componentType ← optional? fields "component_type" text?
  let nullable ← defaulted? fields "nullable" bool? false
  pure { name, typeName, componentType, nullable }

def toJson (p : Param) : Json :=
  .obj ([("name", .str p.name), ("type", .str p.typeName)] ++
    Json.optionalField "component_type" .str p.componentType ++
    [("nullable", .bool p.nullable)])

end Param

namespace ResponseType

def fieldNames : List String := ["type", "component_type"]

def ofDocument? {V : Type} [Document V] (v : V) : Option ResponseType := do
  let fields ← fields? fieldNames v
  let typeName ← required? fields "type" text?
  let componentType ← optional? fields "component_type" text?
  pure { typeName, componentType }

def toJson (t : ResponseType) : Json :=
  .obj ([("type", .str t.typeName)] ++ Json.optionalField "component_type" .str t.componentType)

end ResponseType

namespace ResponseCode

def fieldNames : List String := ["code", "response_types"]

def ofDocument? {V : Type} [Document V] (v : V) : Option ResponseCode := do
  let fields ← fields? fieldNames v
  let code ← required? fields "code" status?
  let types ← defaulted? fields "response_types" (list? ResponseType.ofDocument?) []
  pure { code, types }

def toJson (rc : ResponseCode) : Json :=
  .obj [("code", .ofNat rc.code.toNat), ("response_types", .arr (rc.types.map ResponseType.toJson))]

end ResponseCode

namespace Request

def fieldNames : List String := [
  "name", "http_verb", "classification", "bucket_requirement", "object_requirement", "action",
  "resource", "resource_type", "operation", "include_in_path", "response_codes",
  "optional_query_params", "required_query_params"]

def ofDocument? {V : Type} [Document V] (v : V) : Option Request := do
  let fields ← fields? fieldNames v
  let name ← required? fields "name" text?
  let verb ← optional? fields "http_verb" closed?
  let family ← required? fields "classification" closed?
  let bucket ← optional? fields "bucket_requirement" closed?
  let object ← optional? fields "object_requirement" closed?
  let action ← optional? fields "action" open?
  let resource ← optional? fields "resource" open?
  let multiplicity ← optional? fields "resource_type" closed?
  let operation ← optional? fields "operation" open?
  let includeInPath ← defaulted? fields "include_in_path" bool? false
  let responseCodes ← defaulted? fields "response_codes" (list? ResponseCode.ofDocument?) []
  let optionalParams ← defaulted? fields "optional_query_params" (list? Param.ofDocument?) []
  let requiredParams ← defaulted? fields "required_query_params" (list? Param.ofDocument?) []
  pure {
    name, verb, family, bucket, object, action, resource, multiplicity, operation, includeInPath,
    responseCodes, optionalParams, requiredParams }

def toJson (r : Request) : Json :=
  .obj ([("name", .str r.name)] ++
    Json.optionalField "http_verb" ofWord r.verb ++
    [("classification", ofWord r.family)] ++
    Json.optionalField "bucket_requirement" ofWord r.bucket ++
    Json.optionalField "object_requirement" ofWord r.object ++
    Json.optionalField "action" ofOpen r.action ++
    Json.optionalField "resource" ofOpen r.resource ++
    Json.optionalField "resource_type" ofWord r.multiplicity ++
    Json.optionalField "operation" ofOpen r.operation ++
    [("include_in_path", .bool r.includeInPath),
      ("response_codes", .arr (r.responseCodes.map ResponseCode.toJson)),
      ("optional_query_params", .arr (r.optionalParams.map Param.toJson)),
      ("required_query_params", .arr (r.requiredParams.map Param.toJson))])

end Request

end ApiContract
