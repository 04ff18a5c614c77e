import ApiContract.Context.Generic
import ApiContract.Context.Rust
import ApiContract.Target

set_option autoImplicit false

namespace ApiContract

structure ContextSet (R T : Type) where
  requests : List R
  types : List T

/-- The contexts of a model. Failures count in the order of the model, those of requests first. -/
def ContextSet.build {R T : Type} (requestContext : TaggedRequest → Except Error R)
    (typeContext : TypeDefinition → Except Error T) (name : R → String) (m : Model) :
    Except Error (ContextSet R T) := do
  let requests ← m.requests.mapM requestContext
  let types ← m.types.definitions.mapM typeContext
  pure { requests := requests.mergeSort fun a b => name a ≤ name b, types }

inductive Contexts where
  | rust (contexts : ContextSet Rust.RequestContext Rust.TypeContext)
  | generic (contexts : ContextSet Generic.RequestContext Generic.TypeContext)

namespace Contexts

def target : Contexts → Target
  | rust _ => .rust
  | generic _ => .generic

def requestsJson : Contexts → List Json
  | rust contexts => contexts.requests.map (·.toJson)
  | generic contexts => contexts.requests.map (·.toJson)

def typesJson : Contexts → List Json
  | rust contexts => contexts.types.map (·.toJson)
  | generic contexts => contexts.types.map (·.toJson)

def toJson (c : Contexts) : Json :=
  .obj [("target", .str c.target.text), ("requests", .arr (c.requestsJson.map Json.sorted)),
    ("types", .arr (c.typesJson.map Json.sorted))]

end Contexts

def Model.contexts (m : Model) : Target → Except Error Contexts
  | .rust => do
    let contexts ← ContextSet.build Rust.requestContext Rust.typeContext (·.name) m
    pure (.rust contexts)
  | .generic => do
    let contexts ← ContextSet.build Generic.requestContext (fun d => .ok (Generic.typeContext d))
      (·.name) m
    pure (.generic contexts)

end ApiContract
