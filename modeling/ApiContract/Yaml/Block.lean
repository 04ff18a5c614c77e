import ApiContract.Yaml.Character

set_option autoImplicit false

namespace ApiContract.Yaml.Block

inductive Chomping where
  | clip
  | strip
  | keep

structure Header where
  chomping : Chomping := .clip
  increment : Option Nat := none

def chomping? : Char → Option Chomping
  | '+' => some .keep
  | '-' => some .strip
  | _ => none

def increment? (c : Char) : Option Nat :=
  if '1' ≤ c && c ≤ '9' then some (c.toNat - '0'.toNat) else none

def header? : List Char → Option (Header × Nat)
  | a :: b :: _ =>
    match chomping? a with
    | some chomping =>
      if b.isDigit then (increment? b).map fun n => (⟨chomping, some n⟩, 2)
      else some (⟨chomping, none⟩, 1)
    | none =>
      if a.isDigit then
        (increment? a).map fun n =>
          match chomping? b with
          | some chomping => (⟨chomping, some n⟩, 2)
          | none => (⟨.clip, some n⟩, 1)
      else some ({}, 0)
  | [a] =>
    match chomping? a with
    | some chomping => some (⟨chomping, none⟩, 1)
    | none => if a.isDigit then (increment? a).map fun n => (⟨.clip, some n⟩, 1) else some ({}, 0)
  | [] => some ({}, 0)

/-- The deepest indentation up to the first line with text, a `column` of which has been read. Tabs
do not indent. -/
def deepestIndent? (column deepest : Nat) : List Char → Option Nat
  | [] => some (max column deepest)
  | c :: rest =>
    if c == ' ' then deepestIndent? (column + 1) deepest rest
    else if c == '\t' then none
    else if isBreak c then deepestIndent? 0 (max column deepest) rest
    else some (max column deepest)

structure Progress where
  place : Place
  text : List Char := []
  lastBreak : List Char := []
  emptyLines : List Char := []
  -- Whether the last line with text begins with a blank.
  indented : Bool := false
  inLine : Bool := false

-- A line with text begins; where lines are folded, the break before it may become a space.
def Progress.beginLine (p : Progress) (folds : Bool) (c : Char) : Progress :=
  let joined :=
    if folds && p.lastBreak == ['\n'] && !p.indented && !isBlank c then
      if p.emptyLines.isEmpty then [' '] else p.emptyLines
    else p.emptyLines ++ p.lastBreak
  { place := p.place.advance 1
    text := c :: (joined ++ p.text)
    indented := isBlank c
    inLine := true }

def read? (folds : Bool) (indent : Nat) (p : Progress) : List Char → Option (Progress × List Char)
  | [] => some (p, [])
  | c :: rest =>
    if p.inLine then
      if isBreak c then
        read? folds indent
          { p with place := p.place.nextLine, lastBreak := [c], inLine := false } rest
      else read? folds indent { p with place := p.place.advance 1, text := c :: p.text } rest
    else if p.place.column < indent && c == ' ' then
      read? folds indent { p with place := p.place.advance 1 } rest
    else if p.place.column < indent && c == '\t' then none
    else if isBreak c then
      read? folds indent
        { p with place := p.place.nextLine, emptyLines := c :: p.emptyLines } rest
    else if p.place.column == indent then read? folds indent (p.beginLine folds c) rest
    else some (p, c :: rest)

def Progress.chomped (p : Progress) : Chomping → List Char
  | .strip => p.text.reverse
  | .clip => (p.lastBreak ++ p.text).reverse
  | .keep => (p.emptyLines ++ p.lastBreak ++ p.text).reverse

/-- The scalar after the indicator of its style, and what follows it. The indentation of its parent
is `parent`, below zero at the top. -/
def scalar? (folds : Bool) (parent : Int) (c : Cursor) : Option (List Char × Cursor) := do
  let (header, count) ← header? c.rest
  let c ← (c.skip count).endLine?
  let least := (max (parent + 1) 1).toNat
  let indent ← match header.increment with
    | some n => some ((max parent 0).toNat + n)
    | none => (deepestIndent? 0 0 c.rest).map (max · least)
  let (p, rest) ← read? folds indent { place := c.place } c.rest
  pure (p.chomped header.chomping, ⟨rest, p.place⟩)

end ApiContract.Yaml.Block
