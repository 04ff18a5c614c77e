import ApiContract.Settings
import ApiContract.Text.Hex

set_option autoImplicit false

namespace ApiContract.Toml

-- Whether the character needs an escape; a tab and a line feed may do without.
def isControl (c : Char) : Bool :=
  (c.toNat < 0x20 && c != '\t' && c != '\n') || c.toNat == 0x7F

def longestRun (quote : Char) (run : Nat) : List Char → Nat
  | [] => run
  | c :: cs => if c = quote then longestRun quote (run + 1) cs else max run (longestRun quote 0 cs)

def escapeChar (c : Char) : List Char :=
  match c with
  | '\x08' => ['\\', 'b']
  | '\t' => ['\\', 't']
  | '\x0c' => ['\\', 'f']
  | '\r' => ['\\', 'r']
  | '\\' => ['\\', '\\']
  | c => if isControl c then '\\' :: 'u' :: Text.paddedHex 4 c.toNat else [c]

def basic (cs : List Char) : List Char :=
  '"' :: cs.flatMap (fun c =>
    if c = '"' then ['\\', '"'] else if c = '\n' then ['\\', 'n'] else escapeChar c) ++ ['"']

/-- The text with every third double quote in a row escaped. -/
def escapeThird (run : Nat) : List Char → List Char
  | [] => []
  | c :: cs =>
    if c = '"' then
      if run = 2 then '\\' :: '"' :: escapeThird 0 cs else '"' :: escapeThird (run + 1) cs
    else (if c = '\n' then [c] else escapeChar c) ++ escapeThird 0 cs

-- Between three quotes, a text of several lines begins on a line of its own.
def long (quote : Char) (cs written : List Char) : List Char :=
  let quotes := [quote, quote, quote]
  quotes ++ (if cs.contains '\n' then ['\n'] else []) ++ written ++ quotes

def writeText (text : String) : String :=
  let cs := text.toList
  let plain := !cs.any isControl
  let lines := cs.contains '\n'
  let backslash := cs.contains '\\'
  let doubles := longestRun '"' 0 cs
  let singles := longestRun '\'' 0 cs
  String.ofList <|
    if plain && !backslash && doubles == 0 && !lines then basic cs
    else if plain && singles == 0 && !lines then '\'' :: cs ++ ['\'']
    else if plain && !backslash && doubles ≤ 2 then long '"' cs (escapeThird 0 cs)
    else if plain && singles ≤ 2 then long '\'' cs cs
    else if lines then long '"' cs (escapeThird 0 cs)
    else basic cs

def writeTexts : List String → String
  | [] => "[]"
  | [text] => "[" ++ writeText text ++ "]"
  | texts => "[\n" ++ String.join (texts.map fun t => "    " ++ writeText t ++ ",\n") ++ "]"

def writeSetting : Setting → String
  | .text text => writeText text
  | .flag value => if value then "true" else "false"
  | .texts texts => writeTexts texts

def write (settings : Settings) : String :=
  String.join (settings.map fun s => s.1 ++ " = " ++ writeSetting s.2 ++ "\n")

end ApiContract.Toml
