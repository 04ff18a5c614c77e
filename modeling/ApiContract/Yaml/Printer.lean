import ApiContract.Settings
import ApiContract.Text.Hex
import ApiContract.Yaml.Character
import ApiContract.Yaml.Scalar

set_option autoImplicit false

namespace ApiContract.Yaml

namespace Scalar

def looksBoolean (text : String) : Bool :=
  ["y", "Y", "yes", "Yes", "YES", "n", "N", "no", "No", "NO", "true", "True", "TRUE",
    "false", "False", "FALSE", "on", "On", "ON", "off", "Off", "OFF"].contains text

/-- Whether the text would not be read as a text, or not by everyone, if it were written plainly. -/
def isAmbiguous (text : String) : Bool :=
  looksBoolean text || !isText text || hasLeadingZero text.toList

def isPrintable (c : Char) : Bool :=
  let n := c.toNat
  n == 0x0A || (0x20 ≤ n && n ≤ 0x7E) || (0xA0 ≤ n && n ≤ 0xFFFD && n != 0xFEFF)

def anyAdjacent (p : Char → Char → Bool) (cs : List Char) : Bool :=
  (cs.zip cs.tail).any fun (a, b) => p a b

def beginsLikeMarkup : List Char → Bool
  | '-' :: '-' :: '-' :: _ | '.' :: '.' :: '.' :: _ => true
  | ['-'] | ['?'] => true
  | '-' :: c :: _ | '?' :: c :: _ => isBlank c
  | c :: _ => "#,[]\x7b\x7d&*!|>'\"%@`".toList.contains c
  | [] => false

def holdsMarkup (cs : List Char) : Bool :=
  cs.getLast? == some ':' || anyAdjacent (fun a b => a == ':' && isBlank b) cs ||
    anyAdjacent (fun a b => isBlank a && b == '#') cs

def allowsPlain (cs : List Char) : Bool :=
  cs.head? != some ' ' && cs.getLast? != some ' ' &&
    cs.all (fun c => isPrintable c && !isBreak c) && !beginsLikeMarkup cs && !holdsMarkup cs

-- Single quotes keep neither a blank at the end of a line nor one at its beginning.
def allowsSingleQuotes (cs : List Char) : Bool :=
  cs.all isPrintable && !anyAdjacent (fun a b => a == ' ' && isBreak b) cs &&
    !anyAdjacent (fun a b => isBreak a && b == ' ') cs

-- Line by line, no line may end in a blank.
def allowsLines (cs : List Char) : Bool :=
  cs.all isPrintable && cs.getLast? != some ' ' &&
    !anyAdjacent (fun a b => a == ' ' && isBreak b) cs

def singleQuoted (cs : List Char) : List Char :=
  let rec go (afterBreak : Bool) : List Char → List Char
    | [] => if afterBreak then [' ', ' ', '\''] else ['\'']
    | c :: cs =>
      if isBreak c then c :: go true cs
      else (if afterBreak then [' ', ' '] else []) ++ (if c = '\'' then ['\'', '\''] else [c]) ++
        go false cs
  '\'' :: go false cs

def escapeChar (c : Char) : List Char :=
  let n := c.toNat
  if c = '"' || c = '\\' then ['\\', c]
  else if isPrintable c && !isBreak c then [c]
  else match n with
    | 0x00 => ['\\', '0']
    | 0x07 => ['\\', 'a']
    | 0x08 => ['\\', 'b']
    | 0x09 => ['\\', 't']
    | 0x0A => ['\\', 'n']
    | 0x0B => ['\\', 'v']
    | 0x0C => ['\\', 'f']
    | 0x0D => ['\\', 'r']
    | 0x1B => ['\\', 'e']
    | 0x85 => ['\\', 'N']
    | 0x2028 => ['\\', 'L']
    | 0x2029 => ['\\', 'P']
    | n =>
      if n < 0x100 then '\\' :: 'x' :: Text.paddedHex 2 n
      else if n < 0x10000 then '\\' :: 'u' :: Text.paddedHex 4 n
      else '\\' :: 'U' :: Text.paddedHex 8 n

def doubleQuoted (cs : List Char) : List Char :=
  '"' :: cs.flatMap escapeChar ++ ['"']

-- How the breaks at the end of a text that is written line by line are to be kept.
def chomping (cs : List Char) : List Char :=
  match cs.reverse with
  | [] => ['-']
  | c :: rest =>
    if !isBreak c then ['-']
    else match rest with
      | [] => ['+']
      | d :: _ => if isBreak d then ['+'] else []

def lines (cs : List Char) : List Char :=
  let rec go (afterBreak : Bool) : List Char → List Char
    | [] => if afterBreak then [] else ['\n']
    | c :: cs =>
      if isBreak c then c :: go true cs
      else (if afterBreak then [' ', ' '] else []) ++ c :: go false cs
  let indentation := match cs with
    | c :: _ => if c = ' ' || isBreak c then ['2'] else []
    | [] => []
  '|' :: indentation ++ chomping cs ++ '\n' :: go true cs

def write (text : String) : String :=
  let cs := text.toList
  -- A text of several lines is written line by line or with escapes, never folded.
  if cs.contains '\n' && allowsLines cs then String.ofList (lines cs)
  else
    let inLine :=
      if !cs.contains '\n' && !isAmbiguous text && allowsPlain cs then cs
      else if !cs.contains '\n' && allowsSingleQuotes cs then singleQuoted cs
      else doubleQuoted cs
    String.ofList inLine ++ "\n"

end Scalar

def writeSetting (name : String) : Setting → String
  | .text text => name ++ ": " ++ Scalar.write text
  | .flag value => name ++ ": " ++ (if value then "true" else "false") ++ "\n"
  | .texts [] => name ++ ": []\n"
  | .texts texts => name ++ ":\n" ++ String.join (texts.map fun t => "- " ++ Scalar.write t)

def write (settings : Settings) : String :=
  String.join (settings.map fun s => writeSetting s.1 s.2)

end ApiContract.Yaml
