import ApiContract.Yaml.Token

set_option autoImplicit false

namespace ApiContract.Yaml

structure Properties where
  slot : Option Nat := none
  tag : Option String := none
  deriving DecidableEq

inductive Node where
  | scalar (properties : Properties) (style : ScalarStyle) (text : String)
  | sequence (properties : Properties) (items : List Node)
  | mapping (properties : Properties) (entries : List (Node × Node))
  | reference (slot : Nat)

namespace Node

def empty : Node :=
  .scalar {} .plain ""

def properties : Node → Properties
  | scalar p _ _ => p
  | sequence p _ => p
  | mapping p _ => p
  | reference _ => {}

def slotOf (n : Node) : List (Nat × Node) :=
  match n.properties.slot with
  | some slot => [(slot, n)]
  | none => []

mutual

def anchored : Node → List (Nat × Node)
  | scalar p style text => slotOf (scalar p style text)
  | sequence p items => slotOf (sequence p items) ++ anchoredItems items
  | mapping p entries => slotOf (mapping p entries) ++ anchoredEntries entries
  | reference _ => []

def anchoredItems : List Node → List (Nat × Node)
  | [] => []
  | n :: ns => anchored n ++ anchoredItems ns

def anchoredEntries : List (Node × Node) → List (Nat × Node)
  | [] => []
  | (k, v) :: es => anchored k ++ anchored v ++ anchoredEntries es

end

end Node

end ApiContract.Yaml
