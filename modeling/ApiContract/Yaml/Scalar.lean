import ApiContract.Text.Decimal
import ApiContract.Text.Hex

set_option autoImplicit false

namespace ApiContract.Yaml.Scalar

def isNull (text : String) : Bool :=
  text == "null" || text == "Null" || text == "NULL" || text == "~"

def bool? (text : String) : Option Bool :=
  if text = "true" || text = "True" || text = "TRUE" then some true
  else if text = "false" || text = "False" || text = "FALSE" then some false
  else none

def unsigned (cs : List Char) : List Char :=
  match cs with
  | '+' :: rest => rest
  | cs => cs

def number? (base : Nat) (digits : List Char) : Option Nat := do
  let values ← digits.mapM Text.hexValue?
  if values.isEmpty || !values.all (· < base) then none
  else some (values.foldl (fun n d => base * n + d) 0)

def marked? (cs : List Char) : Option Nat :=
  match cs with
  | '0' :: 'x' :: rest => number? 16 rest
  | '0' :: 'o' :: rest => number? 8 rest
  | '0' :: 'b' :: rest => number? 2 rest
  | _ => none

def hasLeadingZero (cs : List Char) : Bool :=
  let digits := match cs with
    | '-' :: rest | '+' :: rest => rest
    | cs => cs
  1 < digits.length && digits.head? == some '0' && digits.all Char.isDigit

def natural? (text : String) : Option Nat :=
  let cs := text.toList
  match marked? (unsigned cs) with
  | some n => some n
  | none => if hasLeadingZero cs then none else number? 10 (unsigned cs)

/-- A number with a marked base that fits 128 bits, with or without a sign. -/
def isMarkedInteger (cs : List Char) : Bool :=
  match cs with
  | '-' :: rest => (marked? rest).any (· ≤ Nat.pow 2 127)
  | cs => (marked? (unsigned cs)).any (· < Nat.pow 2 128)

def isInfinityName (cs : List Char) : Bool :=
  cs == ".inf".toList || cs == ".Inf".toList || cs == ".INF".toList

def isFloat (text : String) : Bool :=
  let cs := text.toList
  let (negative, digits) := match cs with
    | '-' :: rest => (true, rest)
    | cs => (false, unsigned cs)
  isInfinityName digits || (Text.decimal? digits).any (·.isFinite) ||
    (!negative && (text == ".nan" || text == ".NaN" || text == ".NAN"))

def isText (text : String) : Bool :=
  text ≠ "" && !isNull text && (bool? text).isNone && !isMarkedInteger text.toList &&
    (hasLeadingZero text.toList || !isFloat text)

end ApiContract.Yaml.Scalar
