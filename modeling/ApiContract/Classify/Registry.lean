import ApiContract.Request
import ApiContract.Text.Quoted

set_option autoImplicit false

namespace ApiContract

structure Classifier where
  tag : String
  test : Request → Bool

structure Registry where
  classifiers : List Classifier := []

namespace Registry

def put (c : Classifier) : List Classifier → List Classifier
  | [] => [c]
  | d :: ds => if d.tag = c.tag then c :: ds else d :: put c ds

def register (r : Registry) (tag : String) (test : Request → Bool) : Registry :=
  ⟨put ⟨tag, test⟩ r.classifiers⟩

def unregister (r : Registry) (tag : String) : Registry :=
  ⟨r.classifiers.filter (·.tag ≠ tag)⟩

def tags (r : Registry) : List String :=
  r.classifiers.map (·.tag)

def contains (r : Registry) (tag : String) : Bool :=
  r.tags.contains tag

def size (r : Registry) : Nat :=
  r.classifiers.length

def removes (r : Registry) (tag : String) : Bool :=
  (r.unregister tag).size ≠ r.size

def isEmpty (r : Registry) : Bool :=
  r.classifiers.isEmpty

def classify (r : Registry) (request : Request) : List String :=
  (r.classifiers.filter (·.test request)).map (·.tag)

def matches? (r : Registry) (tag : String) (request : Request) : Option Bool :=
  (r.classifiers.find? (·.tag == tag)).map (·.test request)

def describe (r : Registry) : String :=
  "ClassifierRegistry \x7b tags: " ++ Text.quotedList r.tags ++ " \x7d"

end Registry

end ApiContract
