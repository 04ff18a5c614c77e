import ApiContract.Text.Hex

set_option autoImplicit false

namespace ApiContract.Json

inductive Token where
  | openObject
  | closeObject
  | openArray
  | closeArray
  | colon
  | comma
  | null
  | bool (value : Bool)
  | int (value : Int)
  | real (literal : String)
  -- A string; it has no text if it holds half of a surrogate pair.
  | text (text : Option String)
  deriving DecidableEq

def decimalValue (digits : List Char) : Nat :=
  digits.foldl (fun n c => 10 * n + (c.toNat - '0'.toNat)) 0

def isWhole (digits : List Char) : Bool :=
  match digits with
  | [] => false
  | ['0'] => true
  | c :: cs => c != '0' && (c :: cs).all Char.isDigit

def isExponent (cs : List Char) : Bool :=
  match cs with
  | [] => true
  | c :: sign :: rest =>
    (c == 'e' || c == 'E') &&
      if sign == '+' || sign == '-' then !rest.isEmpty && rest.all Char.isDigit
      else (sign :: rest).all Char.isDigit
  | [_] => false

def isFraction (cs : List Char) : Bool :=
  match cs with
  | '.' :: rest =>
    !(rest.takeWhile Char.isDigit).isEmpty && isExponent (rest.dropWhile Char.isDigit)
  | cs => isExponent cs

def number? (literal : List Char) : Option Token :=
  let digits := match literal with
    | '-' :: rest => rest
    | cs => cs
  let whole := digits.takeWhile Char.isDigit
  let rest := digits.dropWhile Char.isDigit
  if !isWhole whole || !isFraction rest then none
  else if !rest.isEmpty || literal == ['-', '0'] then some (.real (String.ofList literal))
  else if literal.head? == some '-' then some (.int (-(decimalValue whole : Int)))
  else some (.int (decimalValue whole))

def literal? (word : List Char) : Option Token :=
  if word = "null".toList then some .null
  else if word = "true".toList then some (.bool true)
  else if word = "false".toList then some (.bool false)
  else none

/-- What has been read of a string: its characters, the last one first, the first half of a
surrogate pair if one was just read, and whether half of a pair has been left alone. -/
structure Unfinished where
  chars : List Char := []
  half : Option Nat := none
  broken : Bool := false

namespace Unfinished

-- A character follows; a half that waits for another is left alone.
def push (p : Unfinished) (c : Char) : Unfinished :=
  { chars := c :: p.chars, broken := p.broken || p.half.isSome }

def pushUnit (p : Unfinished) (unit : Nat) : Unfinished :=
  let isLow := 0xDC00 ≤ unit && unit < 0xE000
  let isHigh := 0xD800 ≤ unit && unit < 0xDC00
  match p.half with
  | some high =>
    if isLow then
      { p with
        chars := Char.ofNat (0x10000 + (high - 0xD800) * 0x400 + (unit - 0xDC00)) :: p.chars
        half := none }
    else { p with half := none, broken := true }
  | none =>
    if isHigh then { p with half := some unit }
    else if isLow then { p with broken := true }
    else { p with chars := Char.ofNat unit :: p.chars }

def text? (p : Unfinished) : Option String :=
  if p.broken || p.half.isSome then none else some (String.ofList p.chars.reverse)

end Unfinished

inductive Mode where
  | gap
  | word (read : List Char)
  | number (read : List Char)
  | text (read : Unfinished)
  | escape (read : Unfinished)
  | unit (read : Unfinished) (missing value : Nat)

structure Reader where
  tokens : List Token := []
  mode : Mode := .gap

namespace Reader

def emit (r : Reader) (t : Token) : Reader :=
  { tokens := t :: r.tokens, mode := .gap }

def isNumberChar (c : Char) : Bool :=
  c.isDigit || c == '+' || c == '-' || c == '.' || c == 'e' || c == 'E'

def start (r : Reader) (c : Char) : Option Reader :=
  match c with
  | ' ' | '\n' | '\t' | '\r' => some { r with mode := .gap }
  | '\x7b' => some (r.emit .openObject)
  | '\x7d' => some (r.emit .closeObject)
  | '[' => some (r.emit .openArray)
  | ']' => some (r.emit .closeArray)
  | ':' => some (r.emit .colon)
  | ',' => some (r.emit .comma)
  | '"' => some { r with mode := .text {} }
  | c =>
    if c.isDigit || c == '-' then some { r with mode := .number [c] }
    else if c.isLower then some { r with mode := .word [c] }
    else none

-- Ends a word or a number; a string cannot end here.
def close (r : Reader) : Option Reader :=
  match r.mode with
  | .gap => some r
  | .word read => (literal? read.reverse).map r.emit
  | .number read => (number? read.reverse).map r.emit
  | .text _ | .escape _ | .unit _ _ _ => none

def escaped? (c : Char) : Option Char :=
  match c with
  | '"' => some '"'
  | '\\' => some '\\'
  | '/' => some '/'
  | 'b' => some '\x08'
  | 'f' => some '\x0c'
  | 'n' => some '\n'
  | 'r' => some '\r'
  | 't' => some '\t'
  | _ => none

def step (r : Reader) (c : Char) : Option Reader :=
  match r.mode with
  | .gap => r.start c
  | .word read =>
    if c.isLower then some { r with mode := .word (c :: read) }
    else r.close.bind (·.start c)
  | .number read =>
    if isNumberChar c then some { r with mode := .number (c :: read) }
    else r.close.bind (·.start c)
  | .text read =>
    if c == '"' then some (r.emit (.text read.text?))
    else if c == '\\' then some { r with mode := .escape read }
    else if c.toNat < 0x20 then none
    else some { r with mode := .text (read.push c) }
  | .escape read =>
    if c == 'u' then some { r with mode := .unit read 4 0 }
    else (escaped? c).map fun e => { r with mode := .text (read.push e) }
  | .unit read missing value =>
    match Text.hexValue? c with
    | none => none
    | some digit =>
      let value := 16 * value + digit
      if missing ≤ 1 then some { r with mode := .text (read.pushUnit value) }
      else some { r with mode := .unit read (missing - 1) value }

end Reader

def tokens? (text : List Char) : Option (List Token) :=
  ((text.foldlM Reader.step {}).bind Reader.close).map (·.tokens.reverse)

end ApiContract.Json
