import ApiContract.Yaml.Character

set_option autoImplicit false

namespace ApiContract.Yaml

-- The blanks and breaks since the last word, the latest first.
structure Gap where
  blanks : List Char := []
  broken : Bool := false
  firstBreak : Option Char := none
  laterBreaks : List Char := []

namespace Gap

def pushBlank (g : Gap) (c : Char) : Gap :=
  if g.broken then g else { g with blanks := c :: g.blanks }

def pushBreak (g : Gap) (c : Char) : Gap :=
  if g.broken then { g with laterBreaks := c :: g.laterBreaks }
  else { broken := true, firstBreak := some c }

/-- The text that the gap stands for, the latest character first. -/
def folded (g : Gap) : List Char :=
  if g.broken then
    match g.firstBreak with
    | some '\n' => if g.laterBreaks.isEmpty then [' '] else g.laterBreaks
    | some c => g.laterBreaks ++ [c]
    | none => g.laterBreaks
  else g.blanks

end Gap

end ApiContract.Yaml
