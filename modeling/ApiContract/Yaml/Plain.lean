import ApiContract.Yaml.Folding

set_option autoImplicit false

namespace ApiContract.Yaml.Plain

structure Progress where
  place : Place
  text : List Char := []
  gap : Gap := {}
  afterGap : Bool := false

def Progress.push (p : Progress) (c : Char) : Progress where
  place := p.place.advance 1
  text := c :: (p.gap.folded ++ p.text)

def Progress.pushBlank (p : Progress) (c : Char) : Progress :=
  { p with place := p.place.advance 1, gap := p.gap.pushBlank c, afterGap := true }

def Progress.pushBreak (p : Progress) (c : Char) : Progress :=
  { p with place := p.place.nextLine, gap := p.gap.pushBreak c, afterGap := true }

def isFlowIndicator (c : Char) : Bool :=
  c == ',' || c == '[' || c == ']' || c == '\x7b' || c == '\x7d'

/-- Whether a scalar that goes on here on a new line or after blanks has come to its end. -/
def endsAfterGap (inFlow : Bool) (indent : Nat) (place : Place) (rest : List Char) : Bool :=
  (!inFlow && place.column < indent) || (place.column == 0 && atMarker rest) ||
    rest.head? == some '#'

def endsBefore (inFlow : Bool) (c : Char) (rest : List Char) : Bool :=
  (c == ':' && atGap rest) || (inFlow && isFlowIndicator c)

-- Whether these characters are refused in a flow collection: a colon before one of its characters,
-- or before a question mark.
def isRefused (inFlow : Bool) (c : Char) (rest : List Char) : Bool :=
  inFlow && c == ':' && rest.head?.any fun next => isFlowIndicator next || next == '?'

def read? (inFlow : Bool) (indent : Nat) (p : Progress) :
    List Char → Option (Progress × List Char)
  | [] => some (p, [])
  | c :: rest =>
    if isBlank c then
      if p.gap.broken && p.place.column < indent && c == '\t' then none
      else read? inFlow indent (p.pushBlank c) rest
    else if isBreak c then read? inFlow indent (p.pushBreak c) rest
    else if p.afterGap && endsAfterGap inFlow indent p.place (c :: rest) then some (p, c :: rest)
    else if isRefused inFlow c rest then none
    else if endsBefore inFlow c rest then some (p, c :: rest)
    else read? inFlow indent (p.push c) rest

end ApiContract.Yaml.Plain
