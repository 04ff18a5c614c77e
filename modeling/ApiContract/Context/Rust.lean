import ApiContract.Context.RequestName
import ApiContract.Json
import ApiContract.Marshal
import ApiContract.Param
import ApiContract.Payload
import ApiContract.Resolve

set_option autoImplicit false

namespace ApiContract.Rust

def reservedWords : List String := [
  "as", "async", "await", "box", "const", "crate", "enum", "fn", "impl", "in", "loop", "match",
  "mod", "move", "ref", "self", "static", "struct", "trait", "type", "use", "where"]

def fieldName (name : String) : String :=
  let snake := Name.snakeCase name
  if reservedWords.contains snake then snake ++ "_" else snake

def plainType (typeName : String) : String :=
  match typeName with
  | "void" | "boolean" | "java.lang.Boolean" => "bool"
  | "int" | "java.lang.Integer" => "i32"
  | "long" | "java.lang.Long" => "i64"
  | "short" => "i16"
  | "byte" => "u8"
  | "double" | "java.lang.Double" => "f64"
  | "float" | "java.lang.Float" => "f32"
  | "char" => "char"
  | "string" | "java.lang.String" | "java.util.Date" => "String"
  | "java.util.UUID" => "uuid::Uuid"
  | "java.lang.Object" => "serde_json::Value"
  | other => Name.unqualified other

/-- The type for a contract type. The members of an array without a type are text, and those of an
array of arrays are arrays of text. -/
def typeFor (typeName : String) (componentType : Option String) : String :=
  if typeName = "array" then
    let component := componentType.getD stringType
    if component = "array" then "Vec<Vec<" ++ plainType stringType ++ ">>"
    else "Vec<" ++ plainType component ++ ">"
  else plainType typeName

/-- How an argument travels: in the path, as a value of the query, or by being there at all. -/
inductive ArgKind where
  | path
  | query
  | flag
  deriving DecidableEq

def ArgKind.text : ArgKind → String
  | .path => "path"
  | .query => "query"
  | .flag => "flag"

structure Arg where
  name : String
  contractType : String
  targetType : String
  kind : ArgKind
  deriving DecidableEq

structure Payload where
  contractType : String
  rustType : String
  statusCode : Option UInt16
  deriving DecidableEq

structure RequestContext where
  name : String
  contractName : String
  module : String
  fnName : String
  responseName : String
  responseParserName : String
  verb : Option String
  strategy : String
  tags : List String
  constructorArgs : List Arg
  -- The same arguments with ids taken as text, where there is an id among them.
  stringIdConstructorArgs : Option (List Arg)
  requiredFlags : List Arg
  optionalArgs : List Arg
  payload : Option Payload
  deriving DecidableEq

structure Field where
  name : String
  rustType : String
  xmlTag : String
  wrapperTag : Option String
  isAttribute : Bool
  deriving DecidableEq

structure Variant where
  name : String
  wireName : String
  deriving DecidableEq

structure TypeContext where
  name : String
  contractName : String
  isEnum : Bool
  nameToMarshal : Option String
  fields : List Field
  variants : List Variant
  deriving DecidableEq

def Arg.ofParam (kind : ArgKind) (p : Param) : Arg where
  name := fieldName p.name
  contractType := p.typeName
  targetType := typeFor p.typeName p.componentType
  kind

def argKind (r : Request) (p : Param) : ArgKind :=
  if (r.headerArgs.map (·.name)).contains p.name then .path else .query

def constructorArgs (r : Request) (args : List Param) : List Arg :=
  args.map fun p => .ofParam (argKind r p) p

def optionalArg (p : Param) : Arg :=
  .ofParam (if p.isVoid then .flag else .query) p

def requestContext (t : TaggedRequest) : Except Error RequestContext := do
  let r := t.request
  let name := r.sdkName
  let args := r.constructorArgs
  let payload ← r.payload?
  pure {
    name
    contractName := r.name
    module := Vocabulary.spelling r.family
    fnName := Name.snakeCase (Name.stem name)
    responseName := Name.response name
    responseParserName := Name.responseParser name
    verb := r.effectiveVerb.map Vocabulary.spelling
    strategy := selectStrategy t.tags
    tags := t.tags
    constructorArgs := constructorArgs r args
    stringIdConstructorArgs :=
      if Param.usesType args uuidType then
        some (constructorArgs r (Param.replaceType args uuidType stringType))
      else none
    requiredFlags := (Param.flags r.requiredParams).map (.ofParam .flag)
    optionalArgs := r.optionalParams.map optionalArg
    payload := payload.map fun p => {
      contractType := p.typeName
      rustType := typeFor p.typeName p.componentType
      statusCode := r.payloadCode? } }

def field (e : Element) : Except Error Field := do
  let rustType := typeFor e.typeName e.componentType
  let xmlTag ← e.tag?
  pure {
    name := fieldName e.name
    rustType := if e.nullable then "Option<" ++ rustType ++ ">" else rustType
    xmlTag
    wrapperTag := if e.wrapperTag = "" then none else some e.wrapperTag
    isAttribute := e.isAttribute }

def variant (c : EnumConstant) : Variant where
  name := Name.upperCamelCase c.name
  wireName := c.name

def typeContext (d : TypeDefinition) : Except Error TypeContext := do
  let fields ← d.elements.mapM field
  pure {
    name := Name.unqualified d.name
    contractName := d.name
    isEnum := d.isEnum
    nameToMarshal := d.nameToMarshal
    fields
    variants := d.constants.map variant }

def Arg.toJson (a : Arg) : Json :=
  .obj [
    ("name", .str a.name),
    ("contract_type", .str a.contractType),
    ("target_type", .str a.targetType),
    ("kind", .str a.kind.text)]

def Payload.toJson (p : Payload) : Json :=
  .obj [
    ("contract_type", .str p.contractType),
    ("rust_type", .str p.rustType),
    ("status_code", (p.statusCode.map fun code => Json.ofNat code.toNat).getD .null)]

def RequestContext.toJson (c : RequestContext) : Json :=
  Json.sorted (.obj [
    ("name", .str c.name),
    ("contract_name", .str c.contractName),
    ("module", .str c.module),
    ("fn_name", .str c.fnName),
    ("response_name", .str c.responseName),
    ("response_parser_name", .str c.responseParserName),
    ("http_verb", .ofText? c.verb),
    ("strategy", .str c.strategy),
    ("tags", .ofTexts c.tags),
    ("constructor_args", .arr (c.constructorArgs.map Arg.toJson)),
    ("string_id_constructor_args",
      (c.stringIdConstructorArgs.map fun args => Json.arr (args.map Arg.toJson)).getD .null),
    ("required_flags", .arr (c.requiredFlags.map Arg.toJson)),
    ("optional_args", .arr (c.optionalArgs.map Arg.toJson)),
    ("payload", (c.payload.map Payload.toJson).getD .null)])

def Field.toJson (f : Field) : Json :=
  .obj [
    ("name", .str f.name),
    ("rust_type", .str f.rustType),
    ("xml_tag", .str f.xmlTag),
    ("wrapper_tag", .ofText? f.wrapperTag),
    ("is_attribute", .bool f.isAttribute)]

def Variant.toJson (v : Variant) : Json :=
  .obj [("name", .str v.name), ("wire_name", .str v.wireName)]

def TypeContext.toJson (c : TypeContext) : Json :=
  Json.sorted (.obj [
    ("name", .str c.name),
    ("contract_name", .str c.contractName),
    ("kind", .str (if c.isEnum then "enum" else "struct")),
    ("name_to_marshal", .ofText? c.nameToMarshal),
    ("fields", .arr (c.fields.map Field.toJson)),
    ("variants", .arr (c.variants.map Variant.toJson))])

end ApiContract.Rust
