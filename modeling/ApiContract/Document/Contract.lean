import ApiContract.Document.Request
import ApiContract.Document.TypeDefinition
import ApiContract.Resolve

set_option autoImplicit false

namespace ApiContract

open Document

namespace Contract

def fieldNames : List String := ["requests", "types"]

def ofDocument? {V : Type} [Document V] (v : V) : Option Contract := do
  let fields ← fields? fieldNames v
  let requests ← defaulted? fields "requests" (list? Request.ofDocument?) []
  let types ← defaulted? fields "types" Catalog.ofDocument? Catalog.empty
  pure { requests, types }

def toJson (c : Contract) : Json :=
  .obj [("requests", .arr (c.requests.map Request.toJson)), ("types", c.types.toJson)]

end Contract

namespace TaggedRequest

def fieldNames : List String := ["request", "tags"]

def ofDocument? {V : Type} [Document V] (v : V) : Option TaggedRequest := do
  let fields ← fields? fieldNames v
  let request ← required? fields "request" Request.ofDocument?
  let tags ← required? fields "tags" (list? text?)
  pure { request, tags }

def toJson (t : TaggedRequest) : Json :=
  .obj [("request", t.request.toJson), ("tags", .ofTexts t.tags)]

end TaggedRequest

namespace Model

def fieldNames : List String := ["requests", "types"]

def ofDocument? {V : Type} [Document V] (v : V) : Option Model := do
  let fields ← fields? fieldNames v
  let requests ← required? fields "requests" (list? TaggedRequest.ofDocument?)
  let types ← required? fields "types" Catalog.ofDocument?
  pure { requests, types }

def toJson (m : Model) : Json :=
  .obj [("requests", .arr (m.requests.map TaggedRequest.toJson)), ("types", m.types.toJson)]

end Model

end ApiContract
