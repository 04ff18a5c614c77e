import ApiContract.Text.Hex
import ApiContract.Yaml.Folding

set_option autoImplicit false

namespace ApiContract.Yaml.Quoted

structure Progress where
  place : Place
  text : List Char := []
  gap : Gap := {}
  afterGap : Bool := false

def Progress.push (p : Progress) (c : Char) (count : Nat) : Progress where
  place := p.place.advance count
  text := c :: (p.gap.folded ++ p.text)

def Progress.pushBlank (p : Progress) (c : Char) : Progress :=
  { p with place := p.place.advance 1, gap := p.gap.pushBlank c, afterGap := true }

def Progress.pushBreak (p : Progress) (c : Char) : Progress :=
  { p with place := p.place.nextLine, gap := p.gap.pushBreak c, afterGap := true }

-- An escaped line break leaves nothing behind.
def Progress.pushEscapedBreak (p : Progress) : Progress where
  place := p.place.nextLine
  text := p.gap.folded ++ p.text
  gap := { broken := true }
  afterGap := true

def Progress.close (p : Progress) : Progress where
  place := p.place.advance 1
  text := p.gap.folded ++ p.text

-- A marker of documents must not begin a line of a quoted scalar.
def Progress.isBarred (p : Progress) (rest : List Char) : Bool :=
  p.afterGap && p.place.column == 0 && atMarker rest

def escaped? (c : Char) : Option Char :=
  match c with
  | '0' => some '\x00'
  | 'a' => some '\x07'
  | 'b' => some '\x08'
  | 't' | '\t' => some '\t'
  | 'n' => some '\n'
  | 'v' => some '\x0b'
  | 'f' => some '\x0c'
  | 'r' => some '\r'
  | 'e' => some '\x1b'
  | ' ' => some ' '
  | '"' => some '"'
  | '/' => some '/'
  | '\\' => some '\\'
  | 'N' => some nextLine
  | '_' => some (Char.ofNat 0xA0)
  | 'L' => some (Char.ofNat 0x2028)
  | 'P' => some (Char.ofNat 0x2029)
  | _ => none

def readSingle? (p : Progress) : List Char → Option (Progress × List Char)
  | [] => none
  | c :: rest =>
    if isBlank c then readSingle? (p.pushBlank c) rest
    else if isBreak c then readSingle? (p.pushBreak c) rest
    else if p.isBarred (c :: rest) then none
    else if c == '\'' then
      match rest with
      | '\'' :: rest => readSingle? (p.push '\'' 2) rest
      | rest => some (p.close, rest)
    else readSingle? (p.push c 1) rest

def readDouble? (p : Progress) : List Char → Option (Progress × List Char)
  | [] => none
  | c :: rest =>
    if isBlank c then readDouble? (p.pushBlank c) rest
    else if isBreak c then readDouble? (p.pushBreak c) rest
    else if p.isBarred (c :: rest) then none
    else if c == '"' then some (p.close, rest)
    else if c == '\\' then
      match rest with
      | 'x' :: a :: b :: rest =>
        match Text.hexChar? [a, b] with
        | some c => readDouble? (p.push c 4) rest
        | none => none
      | 'u' :: a :: b :: c :: d :: rest =>
        match Text.hexChar? [a, b, c, d] with
        | some c => readDouble? (p.push c 6) rest
        | none => none
      | 'U' :: a :: b :: c :: d :: e :: f :: g :: h :: rest =>
        match Text.hexChar? [a, b, c, d, e, f, g, h] with
        | some c => readDouble? (p.push c 10) rest
        | none => none
      | e :: rest =>
        if isBreak e then readDouble? p.pushEscapedBreak rest
        else
          match escaped? e with
          | some c => readDouble? (p.push c 2) rest
          | none => none
      | [] => none
    else readDouble? (p.push c 1) rest

end ApiContract.Yaml.Quoted
