import ApiContract.Text.Hex
import ApiContract.Yaml.Token
import ApiContract.Yaml.Character

set_option autoImplicit false

namespace ApiContract.Yaml

def anchorName? (c : Cursor) : Option (String × Cursor) :=
  let (name, c) := (c.skip 1).takeWhile isNameChar
  if name.isEmpty then none
  else if atGap c.rest || c.rest.head?.any ("?:,]\x7d%@`".toList.contains ·) then
    some (String.ofList name, c)
  else none

namespace Tag

-- The characters of a tag; those that also make up flow collections must be between brackets.
def isTagChar (verbatim : Bool) (c : Char) : Bool :=
  isNameChar c || ";/?:@&=+$.!~*'()".toList.contains c || (verbatim && ",[]".toList.contains c)

/-- How many bytes a character takes in UTF-8, by its first byte, and what that byte adds. -/
def leadByte? (byte : Nat) : Option (Nat × Nat) :=
  if byte < 0x80 then some (1, byte)
  else if 0xC0 ≤ byte && byte < 0xE0 then some (2, byte - 0xC0)
  else if 0xE0 ≤ byte && byte < 0xF0 then some (3, byte - 0xE0)
  else if 0xF0 ≤ byte && byte < 0xF8 then some (4, byte - 0xF0)
  else none

/-- The characters of a tag, of which some bytes may be escaped. While a character is read from
escaped bytes, `missing` of them are to follow, and `value` is what they have come to. -/
def chars? (verbatim : Bool) (missing value : Nat) (place : Place) (text : List Char) :
    List Char → Option (List Char × Cursor)
  | '%' :: a :: b :: rest =>
    match Text.hexNumber? [a, b] with
    | none => none
    | some byte =>
      if missing = 0 then
        match leadByte? byte with
        | none => none
        | some (1, n) => chars? verbatim 0 0 (place.advance 3) (Char.ofNat n :: text) rest
        | some (size, n) => chars? verbatim (size - 1) n (place.advance 3) text rest
      else if 0x80 ≤ byte && byte < 0xC0 then
        let value := 64 * value + (byte - 0x80)
        if missing = 1 then
          chars? verbatim 0 0 (place.advance 3) (Char.ofNat value :: text) rest
        else chars? verbatim (missing - 1) value (place.advance 3) text rest
      else none
  | c :: rest =>
    if c == '%' || missing ≠ 0 && isTagChar verbatim c then none
    else if isTagChar verbatim c then
      chars? verbatim 0 0 (place.advance 1) (c :: text) rest
    else if missing = 0 then some (text.reverse, ⟨c :: rest, place⟩)
    else none
  | [] => if missing = 0 then some (text.reverse, ⟨[], place⟩) else none

def uri? (verbatim : Bool) (front : List Char) (c : Cursor) : Option (String × Cursor) := do
  let (text, c) ← chars? verbatim 0 0 c.place [] c.rest
  if front.isEmpty && text.isEmpty then none
  else some (String.ofList (front.drop 1 ++ text), c)

def handle (c : Cursor) : List Char × Cursor :=
  let (name, c) := (c.skip 1).takeWhile isNameChar
  if c.rest.head? == some '!' then ('!' :: name ++ ['!'], c.skip 1) else ('!' :: name, c)

def isNamed (handle : List Char) : Bool :=
  1 < handle.length && handle.getLast? == some '!'

-- A tag, which stands before a gap or, in a flow collection, a comma.
def tag? (inFlow : Bool) (c : Cursor) : Option (Token × Cursor) := do
  let (token, c) ←
    if c.rest[1]? == some '<' then do
      let (text, c) ← uri? true [] (c.skip 2)
      if c.rest.head? == some '>' then some (Token.tag "" text, c.skip 1) else none
    else do
      let (front, rest) := handle c
      if isNamed front then do
        let (text, c) ← uri? false [] rest
        some (Token.tag (String.ofList front) text, c)
      else do
        let (text, c) ← uri? false front rest
        some (if text = "" then Token.tag "" "!" else Token.tag "!" text, c)
  if atGap c.rest || (inFlow && c.rest.head? == some ',') then some (token, c) else none

end Tag

namespace Directive

def number? (c : Cursor) : Option (Nat × Cursor) :=
  let (digits, c) := c.takeWhile Char.isDigit
  if digits.isEmpty || 9 < digits.length then none
  else some (digits.foldl (fun n d => 10 * n + (d.toNat - '0'.toNat)) 0, c)

def version? (c : Cursor) : Option (Token × Cursor) := do
  let (major, c) ← number? c.skipBlanks
  if c.rest.head? ≠ some '.' then none
  else do
    let (minor, c) ← number? (c.skip 1)
    some (.version major minor, c)

def tagHandle? (c : Cursor) : Option (Token × Cursor) := do
  let c := c.skipBlanks
  if c.rest.head? ≠ some '!' then none
  else do
    let (front, c) := Tag.handle c
    if front ≠ ['!'] && !Tag.isNamed front then none
    else if !c.rest.head?.any isBlank then none
    else do
      let (text, c) ← Tag.uri? true [] c.skipBlanks
      if atGap c.rest then some (.tagHandle (String.ofList front) text, c) else none

def directive? (c : Cursor) : Option (Token × Cursor) := do
  let (name, c) := (c.skip 1).takeWhile isNameChar
  if !atGap c.rest then none
  else do
    let (token, c) ←
      if name = "YAML".toList then version? c
      else if name = "TAG".toList then tagHandle? c
      else none
    let c ← c.endLine?
    pure (token, c)

end Directive

end ApiContract.Yaml
