import ApiContract.Yaml.Block
import ApiContract.Yaml.Plain
import ApiContract.Yaml.Property
import ApiContract.Yaml.Quoted

set_option autoImplicit false

namespace ApiContract.Yaml

/-- Where a key may have begun: before which token, and at which place of the text. -/
structure PossibleKey where
  position : Nat
  place : Place
  -- Whether a block mapping goes on here, so that nothing but a key will do.
  required : Bool

def longestKey : Nat := 1024

structure Scanner where
  cursor : Cursor
  -- The tokens so far, the latest first, and how many they are.
  tokens : List Token := []
  count : Nat := 0
  indent : Int := -1
  indents : List Int := []
  -- What may be a key here, and around each open flow collection.
  possibleKey : Option PossibleKey := none
  outerKeys : List (Option PossibleKey) := []
  keyAllowed : Bool := true

namespace Scanner

def inFlow (s : Scanner) : Bool :=
  !s.outerKeys.isEmpty

def column (s : Scanner) : Nat :=
  s.cursor.place.column

def emit (s : Scanner) (t : Token) : Scanner :=
  { s with tokens := t :: s.tokens, count := s.count + 1 }

def insertAt (s : Scanner) (position : Nat) (t : Token) : Scanner :=
  { s with tokens := s.tokens.insertIdx (s.count - position) t, count := s.count + 1 }

/-- Passes over blanks, breaks and comments. A new line of a block may begin with a key, and a tab
must not stand where a key may. -/
def skipGapFrom (inFlow : Bool) (keyAllowed : Bool) (inComment : Bool) (place : Place) :
    List Char → Bool × Cursor
  | [] => (keyAllowed, ⟨[], place⟩)
  | c :: rest =>
    if isBreak c then skipGapFrom inFlow (keyAllowed || !inFlow) false place.nextLine rest
    else if inComment || c == ' ' || ((inFlow || !keyAllowed) && c == '\t') then
      skipGapFrom inFlow keyAllowed inComment (place.advance 1) rest
    else if c == '#' then skipGapFrom inFlow keyAllowed true (place.advance 1) rest
    else (keyAllowed, ⟨c :: rest, place⟩)

def skipGap (s : Scanner) : Scanner :=
  let (keyAllowed, cursor) :=
    skipGapFrom s.inFlow s.keyAllowed false s.cursor.place s.cursor.rest
  { s with keyAllowed, cursor }

/-- What is left of a possible key here: nothing on another line or too far on. -/
def keep? (place : Place) (key : Option PossibleKey) : Option (Option PossibleKey) :=
  match key with
  | none => some none
  | some k =>
    if k.place.line < place.line || k.place.column + longestKey < place.column then
      if k.required then none else some none
    else some (some k)

-- Gives up the keys that are no longer possible. One that is required must not be among them.
def dropStaleKeys? (s : Scanner) : Option Scanner := do
  let possibleKey ← keep? s.cursor.place s.possibleKey
  let outerKeys ← s.outerKeys.mapM (keep? s.cursor.place)
  pure { s with possibleKey, outerKeys }

def dropKey? (s : Scanner) : Option Scanner :=
  if s.possibleKey.any (·.required) then none else some { s with possibleKey := none }

def saveKey? (s : Scanner) : Option Scanner := do
  if s.keyAllowed then
    let s ← s.dropKey?
    let key := {
      position := s.count
      place := s.cursor.place
      required := !s.inFlow && s.indent == s.column }
    pure { s with possibleKey := some key }
  else pure s

def unrollFrom (column : Int) (indent : Int) : List Int → List Token → Nat →
    Int × List Int × List Token × Nat
  | outer :: indents, tokens, count =>
    if column < indent then
      unrollFrom column outer indents (.blockEnd :: tokens) (count + 1)
    else (indent, outer :: indents, tokens, count)
  | [], tokens, count => (indent, [], tokens, count)

def unroll (s : Scanner) (column : Int) : Scanner :=
  if s.inFlow then s
  else
    let (indent, indents, tokens, count) := unrollFrom column s.indent s.indents s.tokens s.count
    { s with indent, indents, tokens, count }

/-- Begins a block collection before the token at a position, if it is indented more than the one
around it. -/
def roll (s : Scanner) (column : Nat) (position : Nat) (t : Token) : Scanner :=
  if s.inFlow || (column : Int) ≤ s.indent then s
  else { s.insertAt position t with indent := column, indents := s.indent :: s.indents }

def indicator (s : Scanner) (t : Token) (length : Nat) : Scanner :=
  { s with cursor := s.cursor.skip length }.emit t

def marker? (s : Scanner) (t : Token) : Option Scanner := do
  let s ← (s.unroll (-1)).dropKey?
  pure ({ s with keyAllowed := false }.indicator t 3)

def directive? (s : Scanner) : Option Scanner := do
  let s ← (s.unroll (-1)).dropKey?
  let (token, cursor) ← Directive.directive? s.cursor
  pure ({ s with keyAllowed := false, cursor }.emit token)

def openFlow? (s : Scanner) (t : Token) : Option Scanner := do
  let s ← s.saveKey?
  pure ({ s with
    outerKeys := s.possibleKey :: s.outerKeys
    possibleKey := none
    keyAllowed := true }.indicator t 1)

def closeFlow? (s : Scanner) (t : Token) : Option Scanner := do
  let s ← s.dropKey?
  let s := match s.outerKeys with
    | key :: outer => { s with possibleKey := key, outerKeys := outer }
    | [] => s
  pure ({ s with keyAllowed := false }.indicator t 1)

def comma? (s : Scanner) : Option Scanner := do
  let s ← s.dropKey?
  pure ({ s with keyAllowed := true }.indicator .comma 1)

def entry? (s : Scanner) : Option Scanner := do
  if !s.inFlow && !s.keyAllowed then none
  else
    let s ← (s.roll s.column s.count .blockSequence).dropKey?
    pure ({ s with keyAllowed := true }.indicator .entry 1)

def key? (s : Scanner) : Option Scanner := do
  if !s.inFlow && !s.keyAllowed then none
  else
    let s ← (s.roll s.column s.count .blockMapping).dropKey?
    pure ({ s with keyAllowed := !s.inFlow }.indicator .key 1)

/-- A colon begins a value. What may have been a key before it is one. -/
def value? (s : Scanner) : Option Scanner :=
  match s.possibleKey with
  | some k =>
    let s := (s.insertAt k.position .key).roll k.place.column k.position .blockMapping
    some ({ s with possibleKey := none, keyAllowed := false }.indicator .value 1)
  | none =>
    if !s.inFlow && !s.keyAllowed then none
    else
      let s := s.roll s.column s.count .blockMapping
      some ({ s with keyAllowed := !s.inFlow }.indicator .value 1)

def anchor? (s : Scanner) (token : String → Token) : Option Scanner := do
  let s ← s.saveKey?
  let (name, cursor) ← anchorName? s.cursor
  pure ({ s with keyAllowed := false, cursor }.emit (token name))

def tag? (s : Scanner) : Option Scanner := do
  let s ← s.saveKey?
  let (token, cursor) ← Tag.tag? s.inFlow s.cursor
  pure ({ s with keyAllowed := false, cursor }.emit token)

def block? (s : Scanner) (folds : Bool) : Option Scanner := do
  let s ← s.dropKey?
  let (text, cursor) ← Block.scalar? folds s.indent (s.cursor.skip 1)
  let style := if folds then ScalarStyle.folded else .literal
  pure ({ s with keyAllowed := true, cursor }.emit (.scalar style (String.ofList text)))

def quoted? (s : Scanner)
    (read? : Quoted.Progress → List Char → Option (Quoted.Progress × List Char)) :
    Option Scanner := do
  let s ← s.saveKey?
  let start := s.cursor.skip 1
  let (p, rest) ← read? { place := start.place } start.rest
  pure ({ s with keyAllowed := false, cursor := ⟨rest, p.place⟩ }.emit
    (.scalar .quoted (String.ofList p.text.reverse)))

def plain? (s : Scanner) : Option Scanner := do
  let s ← s.saveKey?
  let start : Plain.Progress := { place := s.cursor.place }
  let (p, rest) ← Plain.read? s.inFlow (s.indent + 1).toNat start s.cursor.rest
  pure ({ s with keyAllowed := p.gap.broken, cursor := ⟨rest, p.place⟩ }.emit
    (.scalar .plain (String.ofList p.text.reverse)))

-- The characters that no plain scalar begins with, as far as they begin no other token.
def isReserved (c : Char) : Bool :=
  "-?:,[]\x7b\x7d#&*!|>'\"%@`\t".toList.contains c

def beginsPlain (inFlow : Bool) (c : Char) (rest : List Char) : Bool :=
  !isReserved c || (c == '-' && !rest.head?.any isBlank) ||
    (!inFlow && (c == '?' || c == ':') && !atGap rest)

def token? (s : Scanner) (c : Char) (rest : List Char) : Option Scanner :=
  if s.column == 0 && c == '%' then s.directive?
  else if s.column == 0 && atMarker (c :: rest) then
    s.marker? (if c == '-' then .documentStart else .documentEnd)
  else if c == '[' then s.openFlow? .openSequence
  else if c == '\x7b' then s.openFlow? .openMapping
  else if c == ']' then s.closeFlow? .closeSequence
  else if c == '\x7d' then s.closeFlow? .closeMapping
  else if c == ',' then s.comma?
  else if c == '-' && atGap rest then s.entry?
  else if c == '?' && (s.inFlow || atGap rest) then s.key?
  else if c == ':' && (s.inFlow || atGap rest) then s.value?
  else if c == '*' then s.anchor? .reference
  else if c == '&' then s.anchor? .anchor
  else if c == '!' then s.tag?
  else if c == '|' && !s.inFlow then s.block? false
  else if c == '>' && !s.inFlow then s.block? true
  else if c == '\'' then s.quoted? Quoted.readSingle?
  else if c == '"' then s.quoted? Quoted.readDouble?
  else if beginsPlain s.inFlow c rest then s.plain?
  else none

def finish? (s : Scanner) : Option (List Token) := do
  let s ← (s.unroll (-1)).dropKey?
  pure s.tokens.reverse

def tokensWithin? : Nat → Scanner → Option (List Token)
  | 0, _ => none
  | steps + 1, s => do
    let s ← s.skipGap.dropStaleKeys?
    let s := s.unroll s.column
    match s.cursor.rest with
    | [] => s.finish?
    | c :: rest => tokensWithin? steps (← s.token? c rest)

end Scanner

def tokens? (text : List Char) : Option (List Token) :=
  if text.all isAllowed then
    let text := unifyBreaks (if text.head? == some byteOrderMark then text.drop 1 else text)
    Scanner.tokensWithin? (text.length + 1) { cursor := { rest := text } }
  else none

end ApiContract.Yaml
