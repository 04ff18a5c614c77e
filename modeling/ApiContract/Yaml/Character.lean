set_option autoImplicit false

namespace ApiContract.Yaml

def nextLine : Char := Char.ofNat 0x85

-- Marks the byte order of a text, and is no part of it where it comes first.
def byteOrderMark : Char := Char.ofNat 0xFEFF

def isAllowed (c : Char) : Bool :=
  let n := c.toNat
  n == 0x09 || n == 0x0A || n == 0x0D || (0x20 ≤ n && n ≤ 0x7E) || n == 0x85 ||
    (0xA0 ≤ n && n ≤ 0xFFFD) || 0x10000 ≤ n

/-- The text with every line break that folding treats alike as a line feed. -/
def unifyBreaks : List Char → List Char
  | [] => []
  | '\r' :: '\n' :: cs => '\n' :: unifyBreaks cs
  | c :: cs => (if c = '\r' || c = nextLine then '\n' else c) :: unifyBreaks cs

def isBreak (c : Char) : Bool :=
  c == '\n' || c.toNat == 0x2028 || c.toNat == 0x2029

def isBlank (c : Char) : Bool :=
  c == ' ' || c == '\t'

def atGap : List Char → Bool
  | [] => true
  | c :: _ => isBlank c || isBreak c

def atBreak : List Char → Bool
  | [] => true
  | c :: _ => isBreak c

def isNameChar (c : Char) : Bool :=
  c.isAlphanum || c == '_' || c == '-'

def atMarker : List Char → Bool
  | '-' :: '-' :: '-' :: rest => atGap rest
  | '.' :: '.' :: '.' :: rest => atGap rest
  | _ => false

structure Place where
  line : Nat := 0
  column : Nat := 0

def Place.advance (p : Place) (count : Nat) : Place :=
  { p with column := p.column + count }

def Place.nextLine (p : Place) : Place :=
  ⟨p.line + 1, 0⟩

structure Cursor where
  rest : List Char
  place : Place := {}

namespace Cursor

def skip (c : Cursor) (count : Nat) : Cursor :=
  ⟨c.rest.drop count, c.place.advance count⟩

def takeWhile (c : Cursor) (p : Char → Bool) : List Char × Cursor :=
  let taken := c.rest.takeWhile p
  (taken, ⟨c.rest.dropWhile p, c.place.advance taken.length⟩)

def skipBreak (c : Cursor) : Cursor :=
  match c.rest with
  | b :: rest => if isBreak b then ⟨rest, c.place.nextLine⟩ else c
  | [] => c

def skipBlanks (c : Cursor) : Cursor :=
  (c.takeWhile isBlank).2

def skipComment (c : Cursor) : Cursor :=
  if c.rest.head? == some '#' then (c.takeWhile (!isBreak ·)).2 else c

def endLine? (c : Cursor) : Option Cursor :=
  let c := c.skipBlanks.skipComment
  if atBreak c.rest then some c.skipBreak else none

end Cursor

end ApiContract.Yaml
