import ApiContract.Text.Decimal
import ApiContract.Text.Hex
import ApiContract.Toml.Value

set_option autoImplicit false

namespace ApiContract.Toml

-- Digits, between any two of which there may be one underscore.
def isGrouped (isDigit : Char → Bool) : List Char → Bool
  | [] => false
  | [c] => isDigit c
  | c :: '_' :: rest => isDigit c && isGrouped isDigit rest
  | c :: rest => isDigit c && isGrouped isDigit rest

def ungroup (cs : List Char) : List Char :=
  cs.filter (· != '_')

def splitSign (cs : List Char) : Bool × List Char :=
  match cs with
  | '-' :: rest => (true, rest)
  | '+' :: rest => (false, rest)
  | cs => (false, cs)

def isWhole (cs : List Char) : Bool :=
  cs == ['0'] || (cs.head? != some '0' && isGrouped Char.isDigit cs)

-- The first number that is too large for 64 bits with a sign.
def integerLimit : Nat :=
  Nat.pow 2 63

def based? (base : Nat) (cs : List Char) : Option Value := do
  let values ← (ungroup cs).mapM Text.hexValue?
  let n := values.foldl (fun n d => base * n + d) 0
  let isDigit (c : Char) : Bool := (Text.hexValue? c).any (· < base)
  if isGrouped isDigit cs && n < integerLimit then some (.int n) else none

def whole? (cs : List Char) : Option Value :=
  match cs with
  | '0' :: 'x' :: rest => based? 16 rest
  | '0' :: 'o' :: rest => based? 8 rest
  | '0' :: 'b' :: rest => based? 2 rest
  | cs =>
    let (negative, digits) := splitSign cs
    let n := Text.digitsValue (ungroup digits)
    if !isWhole digits then none
    else if negative then if n ≤ integerLimit then some (.int (-(n : Int))) else none
    else if n < integerLimit then some (.int n) else none

def isExponent (cs : List Char) : Bool :=
  isGrouped Char.isDigit (splitSign cs).2

def isFractional (cs : List Char) : Bool :=
  let whole := cs.takeWhile fun c => c.isDigit || c == '_'
  isWhole whole &&
    match cs.drop whole.length with
    | '.' :: rest =>
      let fraction := rest.takeWhile fun c => c.isDigit || c == '_'
      isGrouped Char.isDigit fraction &&
        match rest.drop fraction.length with
        | [] => true
        | e :: rest => (e == 'e' || e == 'E') && isExponent rest
    | e :: rest => (e == 'e' || e == 'E') && isExponent rest
    | [] => false

/-- A number that is not whole, infinity, or the value that is no number. What is too large to be
finite must be negative. -/
def isFloat (cs : List Char) : Bool :=
  let (negative, digits) := splitSign cs
  digits == "inf".toList || digits == "nan".toList ||
    (isFractional digits && (negative || (Text.decimal? (ungroup digits)).any (·.isFinite)))

def twoDigits? (a b : Char) : Option Nat :=
  if a.isDigit && b.isDigit then some (Text.digitsValue [a, b]) else none

def daysInMonth (year month : Nat) : Nat :=
  if month = 2 then
    if year % 4 = 0 && (year % 100 ≠ 0 || year % 400 = 0) then 29 else 28
  else if month = 4 || month = 6 || month = 9 || month = 11 then 30
  else 31

def isDate (cs : List Char) : Bool :=
  match cs with
  | [a, b, c, d, '-', e, f, '-', g, h] =>
    match twoDigits? a b, twoDigits? c d, twoDigits? e f, twoDigits? g h with
    | some century, some year, some month, some day =>
      1 ≤ month && month ≤ 12 && 1 ≤ day && day ≤ daysInMonth (100 * century + year) month
    | _, _, _, _ => false
  | _ => false

def isClock (a b c d : Char) : Bool :=
  match twoDigits? a b, twoDigits? c d with
  | some hour, some minute => hour < 24 && minute < 60
  | _, _ => false

def isOffset (cs : List Char) : Bool :=
  match cs with
  | ['Z'] | ['z'] => true
  | [sign, a, b, ':', c, d] => (sign == '+' || sign == '-') && isClock a b c d
  | _ => false

-- A time up to the second, or a part of it; what follows must pass a test. The second may be a leap
-- second.
def isTimeThen (rest? : List Char → Bool) (cs : List Char) : Bool :=
  match cs with
  | a :: b :: ':' :: c :: d :: ':' :: e :: f :: rest =>
    isClock a b c d && (twoDigits? e f).any (· ≤ 60) &&
      match rest with
      | '.' :: rest =>
        (rest.head?.any Char.isDigit) && rest? (rest.dropWhile Char.isDigit)
      | rest => rest? rest
  | _ => false

def isTime (cs : List Char) : Bool :=
  isTimeThen List.isEmpty cs

def isTimeOfDay (cs : List Char) : Bool :=
  isTimeThen (fun rest => rest.isEmpty || isOffset rest) cs

def isMoment (cs : List Char) : Bool :=
  match cs.drop 10 with
  | t :: rest => isDate (cs.take 10) && (t == 'T' || t == 't') && isTimeOfDay rest
  | [] => false

def scalar? (cs : List Char) : Option Value :=
  if cs = "true".toList then some (.bool true)
  else if cs = "false".toList then some (.bool false)
  else if isDate cs || isTime cs || isMoment cs || isFloat cs then some .other
  else whole? cs

end ApiContract.Toml
