import ApiContract.Yaml.Node
import ApiContract.Yaml.Scanner

set_option autoImplicit false

namespace ApiContract.Yaml

structure Stream where
  tokens : List Token
  -- The slot of each anchor by name, each name once.
  slots : List (String × Nat) := []
  handles : List (String × String) := []

abbrev Reader := StateT Stream Option

namespace Reader

def fail {α : Type} : Reader α := fun _ => none

def peek : Reader (Option Token) := do
  return (← get).tokens.head?

def skip : Reader Unit :=
  modify fun s => { s with tokens := s.tokens.drop 1 }

def follows (p : Token → Bool) : Reader Bool := do
  return (← peek).any p

def endsBlockItem : Token → Bool
  | .entry | .blockEnd => true
  | _ => false

def endsIndentlessItem : Token → Bool
  | .entry | .key | .value | .blockEnd => true
  | _ => false

def endsBlockKey : Token → Bool
  | .key | .value | .blockEnd => true
  | _ => false

def endsPairKey : Token → Bool
  | .value | .comma | .closeSequence => true
  | _ => false

def endsItem : Token → Bool
  | .comma | .closeSequence => true
  | _ => false

def endsFlowKey : Token → Bool
  | .value | .comma | .closeMapping => true
  | _ => false

def endsFlowValue : Token → Bool
  | .comma | .closeMapping => true
  | _ => false

/-- An anchor begins a node; its slot is the number of names that have been anchors before. A name
that is used again moves to the new slot. -/
def openSlot (name : String) : Reader Nat := do
  let s ← get
  let slot := s.slots.length
  set { s with slots := (name, slot) :: s.slots.filter (·.1 ≠ name) }
  return slot

def resolveTag (handle rest : String) : Reader String := do
  if handle = "" then return rest
  else
    match (← get).handles.lookup handle with
    | some base => return base ++ rest
    | none => fail

def properties : Reader Properties := do
  let anchor? : Reader (Option String) := do
    match ← peek with
    | some (.anchor name) => skip; return some name
    | _ => return none
  let tag? : Reader (Option String) := do
    match ← peek with
    | some (.tag handle rest) => skip; return some (← resolveTag handle rest)
    | _ => return none
  let early ← anchor?
  let tag ← tag?
  let name ← match early, tag with
    | none, some _ => anchor?
    | name, _ => pure name
  match name with
  | some name => return { slot := some (← openSlot name), tag }
  | none => return { tag }

-- A tag of its own that says nothing leaves a scalar untagged.
def scalarNode (p : Properties) (style : ScalarStyle) (text : String) : Node :=
  .scalar (if p.tag = some "!" then { p with tag := none } else p) style text

mutual

/-- A node, of `depth` more levels at most. In a block mapping a sequence may be no more indented
than the mapping. -/
def node (depth : Nat) (block indentless : Bool) : Reader Node := do
  match depth with
  | 0 => fail
  | depth + 1 =>
    match ← peek with
    | some (.reference name) =>
      match (← get).slots.lookup name with
      | some slot => skip; return .reference slot
      | none => fail
    | _ =>
      let p ← properties
      let bare : Reader Node :=
        if p = {} then fail else return .scalar p .plain ""
      match ← peek with
      | some (.scalar style text) => skip; return scalarNode p style text
      | some .openSequence => skip; return .sequence p (← flowItems depth true)
      | some .openMapping => skip; return .mapping p (← flowEntries depth true)
      | some .blockSequence =>
        if block then skip; return .sequence p (← blockItems depth)
        else bare
      | some .blockMapping =>
        if block then skip; return .mapping p (← blockEntries depth)
        else bare
      | some .entry =>
        if indentless then return .sequence p (← indentlessItems depth)
        else bare
      | _ => bare

def nodeOrEmpty (depth : Nat) (block indentless : Bool) (ends : Token → Bool) : Reader Node := do
  match depth with
  | 0 => fail
  | depth + 1 => if ← follows ends then return .empty else node depth block indentless

def blockItems (depth : Nat) : Reader (List Node) := do
  match depth with
  | 0 => fail
  | depth + 1 =>
    match ← peek with
    | some .entry =>
      skip
      let item ← nodeOrEmpty depth true false endsBlockItem
      return item :: (← blockItems depth)
    | some .blockEnd => skip; return []
    | _ => fail

def indentlessItems (depth : Nat) : Reader (List Node) := do
  match depth with
  | 0 => fail
  | depth + 1 =>
    match ← peek with
    | some .entry =>
      skip
      let item ← nodeOrEmpty depth true false endsIndentlessItem
      return item :: (← indentlessItems depth)
    | _ => return []

def blockEntries (depth : Nat) : Reader (List (Node × Node)) := do
  match depth with
  | 0 => fail
  | depth + 1 =>
    match ← peek with
    | some .key =>
      skip
      let key ← nodeOrEmpty depth true true endsBlockKey
      let value ← valueOrEmpty depth true endsBlockKey
      return (key, value) :: (← blockEntries depth)
    | some .blockEnd => skip; return []
    | _ => fail

def valueOrEmpty (depth : Nat) (block : Bool) (ends : Token → Bool) : Reader Node := do
  match depth with
  | 0 => fail
  | depth + 1 =>
    match ← peek with
    | some .value => skip; nodeOrEmpty depth block block ends
    | _ => return .empty

def flowItems (depth : Nat) (first : Bool) : Reader (List Node) := do
  match depth with
  | 0 => fail
  | depth + 1 =>
    match ← peek with
    | some .closeSequence => skip; return []
    | some t =>
      if !first then
        if t = .comma then skip else fail
      match ← peek with
      | some .closeSequence => skip; return []
      | some .key =>
        skip
        let entry ← pair depth
        return .mapping {} [entry] :: (← flowItems depth false)
      | _ =>
        let item ← node depth false false
        return item :: (← flowItems depth false)
    | none => fail

-- A key and a value as an item of a sequence. Where no key is written, what ends it is passed over.
def pair (depth : Nat) : Reader (Node × Node) := do
  match depth with
  | 0 => fail
  | depth + 1 =>
    if ← follows endsPairKey then
      skip
      let value ← valueOrEmpty depth false endsItem
      return (.empty, value)
    else
      let key ← node depth false false
      let value ← valueOrEmpty depth false endsItem
      return (key, value)

def flowEntries (depth : Nat) (first : Bool) : Reader (List (Node × Node)) := do
  match depth with
  | 0 => fail
  | depth + 1 =>
    match ← peek with
    | some .closeMapping => skip; return []
    | some t =>
      if !first then
        if t = .comma then skip else fail
      match ← peek with
      | some .closeMapping => skip; return []
      | some .key =>
        skip
        let key ← nodeOrEmpty depth false false endsFlowKey
        let value ← valueOrEmpty depth false endsFlowValue
        return (key, value) :: (← flowEntries depth false)
      | _ =>
        let key ← node depth false false
        return (key, .empty) :: (← flowEntries depth false)
    | none => fail

end

def usualHandles : List (String × String) :=
  [("!", "!"), ("!!", "tag:yaml.org,2002:")]

-- The directives before a document: one version at most, and each handle once.
def directives (versions : Nat) (handles : List (String × String)) :
    List Token → Option (List (String × String) × List Token)
  | .version major minor :: rest =>
    if versions = 0 && major = 1 && (minor = 1 || minor = 2) then directives 1 handles rest
    else none
  | .tagHandle handle base :: rest =>
    if handles.any (·.1 == handle) then none
    else directives versions ((handle, base) :: handles) rest
  | rest => some (handles, rest)

def isDirective : Token → Bool
  | .version _ _ | .tagHandle _ _ => true
  | _ => false

def endsDocument : Token → Bool
  | .version _ _ | .tagHandle _ _ | .documentStart | .documentEnd => true
  | _ => false

def content (handles : List (String × String)) (tokens : List Token) :
    Option (Node × List Token) := do
  let (n, s) ← node (3 * tokens.length + 3) true false |>.run
    { tokens, handles := handles ++ usualHandles }
  pure (n, s.tokens)

def document (tokens : List Token) : Option (Node × List Token) :=
  match tokens with
  | [] => some (.empty, [])
  | t :: _ =>
    if isDirective t || t = .documentStart then do
      let (handles, rest) ← directives 0 [] tokens
      match rest with
      | .documentStart :: rest =>
        if rest.head?.all endsDocument then some (.empty, rest) else content handles rest
      | _ => none
    else content [] tokens

end Reader

-- The node of a text, which must hold one document; an empty text holds an empty one.
def parse? (text : String) : Option Node := do
  let tokens ← tokens? text.toList
  let (n, rest) ← Reader.document tokens
  if rest.all (· = .documentEnd) then some n else none

end ApiContract.Yaml
