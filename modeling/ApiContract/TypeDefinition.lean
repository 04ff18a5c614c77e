set_option autoImplicit false

namespace ApiContract

structure AnnotationElement where
  name : String
  value : String
  valueType : Option String := none
  deriving DecidableEq

structure Annotation where
  name : String
  elements : List AnnotationElement := []
  deriving DecidableEq

structure Element where
  name : String
  typeName : String
  componentType : Option String := none
  annotations : List Annotation := []
  nullable : Bool := false
  deriving DecidableEq

structure Property where
  name : String
  value : String
  valueType : Option String := none
  deriving DecidableEq

structure EnumConstant where
  name : String
  properties : List Property := []
  deriving DecidableEq

inductive TypeKind where
  | struct (elements : List Element)
  | enum (constants : List EnumConstant)
  deriving DecidableEq

-- A type, its qualified name, and the tag it is written under when it stands alone.
structure TypeDefinition where
  name : String
  nameToMarshal : Option String := none
  kind : TypeKind
  deriving DecidableEq

namespace TypeDefinition

def isEnum (d : TypeDefinition) : Bool :=
  match d.kind with
  | .struct _ => false
  | .enum _ => true

def elements (d : TypeDefinition) : List Element :=
  match d.kind with
  | .struct elements => elements
  | .enum _ => []

def constants (d : TypeDefinition) : List EnumConstant :=
  match d.kind with
  | .struct _ => []
  | .enum constants => constants

end TypeDefinition

end ApiContract
