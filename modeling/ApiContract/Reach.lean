import ApiContract.Catalog
import ApiContract.Request
import ApiContract.Text.Sorted

set_option autoImplicit false

namespace ApiContract

def builtinTypes : List String := [
  "array", "boolean", "byte", "char", "double", "float", "int", "long", "map", "null", "short",
  "string", "void", "java.lang.Boolean", "java.lang.Double", "java.lang.Float",
  "java.lang.Integer", "java.lang.Long", "java.lang.Object", "java.lang.String",
  "java.util.Date", "java.util.UUID"]

def isBuiltin (typeName : String) : Bool :=
  builtinTypes.contains typeName

def isReference (typeName : String) : Bool :=
  typeName ≠ "" && !isBuiltin typeName

def references (typeName : String) (componentType : Option String) : List String :=
  (typeName :: componentType.toList).filter isReference

def Request.references (r : Request) : List String :=
  r.allParams.flatMap (fun p => ApiContract.references p.typeName p.componentType) ++
    r.responseTypes.flatMap (fun t => ApiContract.references t.typeName t.componentType)

def TypeDefinition.references (d : TypeDefinition) : List String :=
  d.elements.flatMap fun e => ApiContract.references e.typeName e.componentType

def seedTypes (requests : List Request) : List String :=
  Text.sortedDistinct (requests.flatMap Request.references)

/--
The unseen names that can be reached from the pending ones. A name is visited once, so that cycles
come to an end.
-/
def reach (next : String → List String) (unseen pending : List String) : List String :=
  match pending with
  | [] => []
  | name :: rest =>
    if _h : name ∈ unseen then name :: reach next (unseen.erase name) (next name ++ rest)
    else reach next unseen rest
termination_by (unseen.length, pending.length)
decreasing_by
  · have := List.length_erase_of_mem _h
    have := List.length_pos_of_mem _h
    exact Prod.Lex.left _ _ (by omega)
  · exact Prod.Lex.right _ (by simp)

namespace Catalog

-- Names of builtin types and names that the catalog does not have lead nowhere.
def next (c : Catalog) (key : String) : List String :=
  match c.get? key with
  | some d => d.references
  | none => []

def reachableFrom (c : Catalog) (requests : List Request) : Catalog :=
  let visited := reach c.next c.keys (seedTypes requests)
  c.restrict visited.contains

end Catalog

end ApiContract
