import ApiContract.Catalog
import ApiContract.Json.Document

set_option autoImplicit false

namespace ApiContract

open Document

namespace AnnotationElement

def fieldNames : List String := ["name", "value", "value_type"]

def ofDocument? {V : Type} [Document V] (v : V) : Option AnnotationElement := do
  let fields ← fields? fieldNames v
  let name ← required? fields "name" text?
  let value ← required? fields "value" text?
  let valueType ← optional? fields "value_type" text?
  pure { name, value, valueType }

def toJson (e : AnnotationElement) : Json :=
  .obj ([("name", .str e.name), ("value", .str e.value)] ++
    Json.optionalField "value_type" .str e.valueType)

end AnnotationElement

namespace Annotation

def fieldNames : List String := ["name", "elements"]

def ofDocument? {V : Type} [Document V] (v : V) : Option Annotation := do
  let fields ← fields? fieldNames v
  let name ← required? fields "name" text?
  let elements ← defaulted? fields "elements" (list? AnnotationElement.ofDocument?) []
  pure { name, elements }

def toJson (a : Annotation) : Json :=
  .obj [("name", .str a.name), ("elements", .arr (a.elements.map AnnotationElement.toJson))]

end Annotation

namespace Element

def fieldNames : List String := ["name", "type", "component_type", "annotations", "nullable"]

def ofDocument? {V : Type} [Document V] (v : V) : Option Element := do
  let fields ← fields? fieldNames v
  let name ← required? fields "name" text?
  let typeName ← required? fields "type" text?
  let componentType ← optional? fields "component_type" text?
  let annotations ← defaulted? fields "annotations" (list? Annotation.ofDocument?) []
  let nullable ← defaulted? fields "nullable" bool? false
  pure { name, typeName, componentType, annotations, nullable }

def toJson (e : Element) : Json :=
  .obj ([("name", .str e.name), ("type", .str e.typeName)] ++
    Json.optionalField "component_type" .str e.componentType ++
    Json.listField "annotations" Annotation.toJson e.annotations ++
    [("nullable", .bool e.nullable)])

end Element

namespace Property

def fieldNames : List String := ["name", "value", "value_type"]

def ofDocument? {V : Type} [Document V] (v : V) : Option Property := do
  let fields ← fields? fieldNames v
  let name ← required? fields "name" text?
  let value ← required? fields "value" text?
  let valueType ← optional? fields "value_type" text?
  pure { name, value, valueType }

def toJson (p : Property) : Json :=
  .obj ([("name", .str p.name), ("value", .str p.value)] ++
    Json.optionalField "value_type" .str p.valueType)

end Property

namespace EnumConstant

def fieldNames : List String := ["name", "properties"]

def ofDocument? {V : Type} [Document V] (v : V) : Option EnumConstant := do
  let fields ← fields? fieldNames v
  let name ← required? fields "name" text?
  let properties ← defaulted? fields "properties" (list? Property.ofDocument?) []
  pure { name, properties }

def toJson (c : EnumConstant) : Json :=
  .obj ([("name", .str c.name)] ++ Json.listField "properties" Property.toJson c.properties)

end EnumConstant

namespace TypeDefinition

def fieldNames : List String := ["name", "name_to_marshal", "elements", "enum_constants"]

def ofDocument? {V : Type} [Document V] (v : V) : Option TypeDefinition := do
  let fields ← fields? fieldNames v
  let name ← required? fields "name" text?
  let nameToMarshal ← optional? fields "name_to_marshal" text?
  let elements ← defaulted? fields "elements" (list? Element.ofDocument?) []
  let constants ← optional? fields "enum_constants" (list? EnumConstant.ofDocument?)
  -- Structures and enumerations share one form: a list of constants, even an empty one, makes an
  -- enumeration.
  let kind := match constants with
    | some constants => TypeKind.enum constants
    | none => TypeKind.struct elements
  pure { name, nameToMarshal, kind }

def toJson (d : TypeDefinition) : Json :=
  .obj ([("name", .str d.name)] ++
    Json.optionalField "name_to_marshal" .str d.nameToMarshal ++
    match d.kind with
    | .struct elements => Json.listField "elements" Element.toJson elements
    | .enum constants => [("enum_constants", .arr (constants.map EnumConstant.toJson))])

end TypeDefinition

namespace Catalog

def ofDocument? {V : Type} [Document V] (v : V) : Option Catalog := do
  let entries ← entries? v
  let entries ← entries.mapM fun e => (TypeDefinition.ofDocument? e.2).map (e.1, ·)
  pure (ofList entries)

def toJson (c : Catalog) : Json :=
  .obj (c.entries.map fun e => (e.1, e.2.toJson))

end Catalog

end ApiContract
