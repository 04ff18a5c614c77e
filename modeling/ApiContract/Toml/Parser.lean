import ApiContract.Toml.Quoted
import ApiContract.Toml.Scalar

set_option autoImplicit false

namespace ApiContract.Toml

def unifyBreaks : List Char → List Char
  | [] => []
  | '\r' :: '\n' :: cs => '\n' :: unifyBreaks cs
  | c :: cs => c :: unifyBreaks cs

def skipBlanks (cs : List Char) : List Char :=
  cs.dropWhile isBlank

def skipGaps (inComment : Bool) : List Char → List Char
  | [] => []
  | c :: cs =>
    if c = '\n' then skipGaps false cs
    else if inComment then if isTextChar c then skipGaps true cs else c :: cs
    else if isBlank c then skipGaps false cs
    else if c = '#' then skipGaps true cs
    else c :: cs

def endLine? (cs : List Char) : Option (List Char) :=
  let rest := match skipBlanks cs with
    | '#' :: rest => rest.dropWhile isTextChar
    | rest => rest
  match rest with
  | [] => some []
  | '\n' :: rest => some rest
  | _ => none

def isBareChar (c : Char) : Bool :=
  c.isAlphanum || c == '_' || c == '-'

def keyPart? (cs : List Char) : Option (String × List Char) :=
  match cs with
  | '"' :: rest => (basic? rest).map fun (text, rest) => (String.ofList text, rest)
  | '\'' :: rest => (literal? rest).map fun (text, rest) => (String.ofList text, rest)
  | cs =>
    let bare := cs.takeWhile isBareChar
    if bare.isEmpty then none else some (String.ofList bare, cs.dropWhile isBareChar)

/-- How deep arrays and braces may be nested, and how many parts a key may have. -/
def depthLimit : Nat := 79

def keyParts? : Nat → List Char → Option (List String × List Char)
  | 0, _ => none
  | limit + 1, cs => do
    let (part, rest) ← keyPart? (skipBlanks cs)
    match skipBlanks rest with
    | '.' :: rest => (keyParts? limit rest).map fun (parts, rest) => (part :: parts, rest)
    | rest => pure ([part], rest)

def key? (cs : List Char) : Option (List String × String × List Char) := do
  let (parts, rest) ← keyParts? depthLimit cs
  let last ← parts.getLast?
  pure (parts.dropLast, last, rest)

def isWordChar (c : Char) : Bool :=
  c.isAlphanum || c == '_' || c == '+' || c == '-' || c == '.' || c == ':'

-- A value of one word, or a date and a time with a blank between them.
def word? (cs : List Char) : Option (Value × List Char) :=
  let word := cs.takeWhile isWordChar
  match cs.dropWhile isWordChar with
  -- A blank after a date belongs to the value only if a digit follows it.
  | ' ' :: c :: rest =>
    if isDate word && c.isDigit then
      if isTimeOfDay ((c :: rest).takeWhile isWordChar) then
        some (.other, (c :: rest).dropWhile isWordChar)
      else none
    else (scalar? word).map (·, ' ' :: c :: rest)
  | rest => (scalar? word).map (·, rest)

-- The items of an array up to its closing bracket. A comma may follow the last one.
def items? (item? : List Char → Option (Value × List Char)) (cs : List Char) :
    Option (List Value × List Char) :=
  match skipGaps false cs with
  | ']' :: rest => some ([], rest)
  | start =>
    match item? start with
    | none => none
    | some (v, rest) =>
      match skipGaps false rest with
      | ',' :: rest =>
        if rest.length < cs.length then
          (items? item? rest).map fun (vs, rest) => (v :: vs, rest)
        else none
      | ']' :: rest => some ([v], rest)
      | _ => none
termination_by cs.length

structure Assignment where
  path : List String
  key : String
  value : Value

def Assignment.apply (a : Assignment) (t : Value) : Option Value :=
  t.assign a.path a.key a.value

def assignment? (value? : List Char → Option (Value × List Char)) (cs : List Char) :
    Option (Assignment × List Char) := do
  let (path, key, rest) ← key? cs
  match rest with
  | '=' :: rest => (value? (skipBlanks rest)).map fun (value, rest) => (⟨path, key, value⟩, rest)
  | _ => none

def assignments? (value? : List Char → Option (Value × List Char)) (t : Value) (cs : List Char) :
    Option (Value × List Char) :=
  match assignment? value? cs with
  | none => none
  | some (a, rest) =>
    match a.apply t, skipBlanks rest with
    | some t, ',' :: rest => if rest.length < cs.length then assignments? value? t rest else none
    | some t, '\x7d' :: rest => some (t, rest)
    | _, _ => none
termination_by cs.length

def braces? (value? : List Char → Option (Value × List Char)) (cs : List Char) :
    Option (Value × List Char) :=
  match skipBlanks cs with
  | '\x7d' :: rest => some (.table .braces [], rest)
  | cs => assignments? value? (.table .braces []) cs

def value? (depth : Nat) (cs : List Char) : Option (Value × List Char) :=
  match cs with
  | '"' :: _ | '\'' :: _ => (quoted? cs).map fun (text, rest) => (.text (String.ofList text), rest)
  | '[' :: rest =>
    match depth with
    | 0 => none
    | depth + 1 => (items? (value? depth) rest).map fun (items, rest) => (.array items, rest)
  | '\x7b' :: rest =>
    match depth with
    | 0 => none
    | depth + 1 => braces? (value? depth) rest
  | cs => word? cs

inductive Statement where
  -- A header in brackets: the table at the end of the path is opened.
  | table (path : List String) (key : String)
  -- A header in double brackets: a table is added to those at the end of the path.
  | next (path : List String) (key : String)
  | assign (assignment : Assignment)

def statement? (cs : List Char) : Option (Statement × List Char) :=
  match cs with
  | '[' :: '[' :: rest =>
    match key? rest with
    | some (path, key, ']' :: ']' :: rest) => some (.next path key, rest)
    | _ => none
  | '[' :: rest =>
    match key? rest with
    | some (path, key, ']' :: rest) => some (.table path key, rest)
    | _ => none
  | cs => (assignment? (value? depthLimit) cs).map fun (a, rest) => (.assign a, rest)

def statements? (cs : List Char) : Option (List Statement) :=
  match skipGaps false cs with
  | [] => some []
  | start =>
    match statement? start with
    | none => none
    | some (s, rest) =>
      match endLine? rest with
      | none => none
      | some rest =>
        if rest.length < cs.length then (statements? rest).map (s :: ·) else none
termination_by cs.length

structure Draft where
  root : Value := .table .header []
  current : List String := []

def Draft.step (d : Draft) : Statement → Option Draft
  | .table path key =>
    (d.root.atHeader (·.openTable key) path).map fun root => ⟨root, path ++ [key]⟩
  | .next path key =>
    (d.root.atHeader (·.openNext key) path).map fun root => ⟨root, path ++ [key]⟩
  | .assign a => (d.root.atHeader a.apply d.current).map fun root => { d with root }

-- The table of a text. A mark of the byte order in front does not count.
def parse? (text : String) : Option Value := do
  let cs := match text.toList with
    | c :: rest => if c.toNat = 0xFEFF then rest else c :: rest
    | [] => []
  let statements ← statements? (unifyBreaks cs)
  let draft ← statements.foldlM Draft.step {}
  pure draft.root

end ApiContract.Toml
