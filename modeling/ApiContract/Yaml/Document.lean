import ApiContract.Document
import ApiContract.Yaml.Parser
import ApiContract.Yaml.Scalar

set_option autoImplicit false

namespace ApiContract.Yaml

structure Value where
  anchored : List (Nat × Node)
  node : Node

namespace Value

def ofNode (n : Node) : Value :=
  ⟨n.anchored, n⟩

-- The node itself, or the one an alias stands for: the last one that was given the slot.
def target (v : Value) : Node :=
  match v.node with
  | .reference slot => ((v.anchored.reverse).lookup slot).getD v.node
  | n => n

def child (v : Value) (n : Node) : Value :=
  ⟨v.anchored, n⟩

def boolTag : String := "tag:yaml.org,2002:bool"

def intTag : String := "tag:yaml.org,2002:int"

def floatTag : String := "tag:yaml.org,2002:float"

def nullTag : String := "tag:yaml.org,2002:null"

def text? (v : Value) : Option String :=
  match v.target with
  | .scalar _ _ text => some text
  | _ => none

-- As a text every scalar counts, however it is written; as anything else only a plain one, or a
-- literal one with the tag of its type.
def bareText? (tag : String) (v : Value) : Option String :=
  match v.target with
  | .scalar p style text =>
    if style = .plain || (style = .literal && p.tag == some tag) then some text else none
  | _ => none

def bool? (v : Value) : Option Bool :=
  (v.bareText? boolTag).bind Scalar.bool?

def status? (v : Value) : Option UInt16 := do
  let n ← (← v.bareText? intTag) |> Scalar.natural?
  if n < 65536 then some (UInt16.ofNat n) else none

def items? (v : Value) : Option (List Value) :=
  match v.target with
  | .sequence _ items => some (items.map v.child)
  | .scalar _ .plain "" => some []
  | _ => none

def entries? (v : Value) : Option (List (String × Value)) :=
  match v.target with
  | .mapping _ entries => entries.mapM fun e => (text? (v.child e.1)).map (·, v.child e.2)
  | .scalar _ .plain "" => some []
  | _ => none

def fields? (names : List String) (v : Value) : Option (List (String × Value)) := do
  let entries ← v.entries?
  let known := entries.filter (names.contains ·.1)
  if (known.map (·.1)).Nodup then some known else none

def isAbsent? (v : Value) : Option Bool :=
  match v.target with
  | .scalar p .plain text =>
    match p.tag with
    | some tag =>
      if tag = nullTag then if Scalar.isNull text then some true else none else some false
    | none => some (text = "" || Scalar.isNull text)
  | _ => some false

def ownTag? (p : Properties) : Option String :=
  match p.tag with
  | some tag =>
    match tag.toList with
    | ['!'] => some tag
    | '!' :: rest => some (String.ofList rest)
    | _ => none
  | none => none

-- A word is a scalar, or the tag of one that says no more.
def word? (v : Value) : Option String :=
  match v.target with
  | .scalar p style text =>
    match ownTag? p with
    | some word =>
      if style = .plain && (text = "" || Scalar.isNull text) then some word else none
    | none => some text
  | _ => none

def untyped? (p : Properties) (style : ScalarStyle) (text : String) : Option (Option String) :=
  match p.tag with
  | some tag =>
    if (ownTag? p).isSome || tag = boolTag || tag = intTag || tag = floatTag then none
    else if tag = nullTag then if Scalar.isNull text then some none else none
    else some (some text)
  | none =>
    if style = .plain then
      if text = "" || Scalar.isNull text then some none
      else if Scalar.isText text then some (some text)
      else none
    else some (some text)

def name? (v : Value) : Option String :=
  match v.target with
  | .scalar p style text => (untyped? p style text).join
  | _ => none

def names? (v : Value) : Option (List String) :=
  match v.target with
  | .scalar p style text => (untyped? p style text).map (·.toList)
  | .sequence p items => if (ownTag? p).isSome then none else items.mapM fun n => (v.child n).name?
  | _ => none

instance : Document Value where
  text? := text?
  bool? := bool?
  status? := status?
  items? := items?
  entries? := entries?
  fields? := fields?
  isAbsent? := isAbsent?
  word? := word?
  names? := names?

end Value

def value? (text : String) : Option Value :=
  (parse? text).map Value.ofNode

end ApiContract.Yaml
