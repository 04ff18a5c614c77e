set_option autoImplicit false

namespace ApiContract.Toml

/-- What made a table. -/
inductive Origin where
  -- Braces; nothing can be added.
  | braces
  -- A header of its own, or the beginning of the document.
  | header
  -- A header of a table in it.
  | innerHeader
  -- A key with dots.
  | dots
  deriving DecidableEq

inductive Value where
  | text (text : String)
  | bool (value : Bool)
  | int (value : Int)
  -- A number that is not whole, a date or a time, of which nothing more is kept.
  | other
  | array (items : List Value)
  | table (origin : Origin) (entries : List (String × Value))
  -- Tables that have a header each; the last one is still open.
  | tables (items : List Value)

namespace Value

def replaceEntry (key : String) (v : Value) : List (String × Value) → List (String × Value)
  | [] => [(key, v)]
  | e :: es => if e.1 = key then (key, v) :: es else e :: replaceEntry key v es

/-- What a header or a key refers to: of tables in a row, the last one. -/
def onOpen (f : Value → Option Value) : Value → Option Value
  | .tables items => do
    let last ← items.getLast?
    let changed ← f last
    pure (.tables (items.dropLast ++ [changed]))
  | v => f v

def Origin.isOpenToDots (o : Origin) : Bool :=
  o == .innerHeader || o == .dots

def atHeader (f : Value → Option Value) : List String → Value → Option Value
  | [], v => f v
  | key :: path, .table origin entries => do
    let child := (entries.lookup key).getD (.table .innerHeader [])
    let changed ← onOpen (fun t =>
      match t with
      | .table .braces _ => none
      | t => atHeader f path t) child
    pure (.table origin (replaceEntry key changed entries))
  | _ :: _, _ => none

/-- Changes the table at the end of a path of dotted keys. Missing tables are made. A table with a
header of its own cannot be led through. -/
def atDots (f : Value → Option Value) : List String → Value → Option Value
  | [], v => f v
  | key :: path, .table origin entries => do
    let child := (entries.lookup key).getD (.table .dots [])
    let changed ←
      match child with
      | .table o _ => if Origin.isOpenToDots o then atDots f path child else none
      | .tables _ => onOpen (atDots f path) child
      | _ => none
    pure (.table origin (replaceEntry key changed entries))
  | _ :: _, _ => none

def addEntry (t : Value) (key : String) (v : Value) : Option Value :=
  match t with
  | .table origin entries =>
    if (entries.lookup key).isSome then none else some (.table origin (entries ++ [(key, v)]))
  | _ => none

/-- Adds an entry whose key may have dots. The table it goes into must have been made by dots, if it
is not the one that the key is relative to. -/
def assign (t : Value) (path : List String) (key : String) (v : Value) : Option Value :=
  if path.isEmpty then t.addEntry key v
  else
    atDots (fun inner =>
      match inner with
      | .table .dots _ => inner.addEntry key v
      | _ => none) path t

def openTable (key : String) : Value → Option Value
  | .table origin entries =>
    match entries.lookup key with
    | none => some (.table origin (entries ++ [(key, .table .header [])]))
    | some (.table .innerHeader inner) =>
      some (.table origin (replaceEntry key (.table .header inner) entries))
    | some _ => none
  | _ => none

def openNext (key : String) : Value → Option Value
  | .table origin entries =>
    match entries.lookup key with
    | none => some (.table origin (entries ++ [(key, .tables [.table .header []])]))
    | some (.tables items) =>
      some (.table origin (replaceEntry key (.tables (items ++ [.table .header []])) entries))
    | some _ => none
  | _ => none

end Value

end ApiContract.Toml
