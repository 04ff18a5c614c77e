set_option autoImplicit false

namespace ApiContract.Text

/-- A numeral without its sign: digits, times a power of ten. -/
structure Decimal where
  digits : List Char
  exponent : Int

def digitsValue (digits : List Char) : Nat :=
  digits.foldl (fun n c => 10 * n + (c.toNat - '0'.toNat)) 0

def exponent? (cs : List Char) : Option Int :=
  match cs with
  | [] => some 0
  | e :: rest =>
    if e == 'e' || e == 'E' then
      let (negative, digits) := match rest with
        | '-' :: rest => (true, rest)
        | '+' :: rest => (false, rest)
        | rest => (false, rest)
      if digits.isEmpty || !digits.all Char.isDigit then none
      else if negative then some (-(digitsValue digits : Int))
      else some (digitsValue digits : Int)
    else none

def decimal? (cs : List Char) : Option Decimal := do
  let whole := cs.takeWhile Char.isDigit
  let rest := cs.dropWhile Char.isDigit
  let (fraction, rest) := match rest with
    | '.' :: rest => (rest.takeWhile Char.isDigit, rest.dropWhile Char.isDigit)
    | rest => ([], rest)
  let exponent ← exponent? rest
  if whole.isEmpty && fraction.isEmpty then none
  else some { digits := whole ++ fraction, exponent := exponent - fraction.length }

/-- Half way between the largest finite double and the next power of two, where numbers begin to
be rounded to infinity. -/
def infinityThreshold : Nat :=
  Nat.pow 2 1024 - Nat.pow 2 970

-- Whether the double nearest to a numeral is finite. Numerals far from the threshold are told by
-- their number of digits.
def Decimal.isFinite (d : Decimal) : Bool :=
  let digits := d.digits.dropWhile (· == '0')
  let magnitude : Int := d.exponent + digits.length
  if digits.isEmpty || magnitude < 300 then true
  else if 310 < magnitude then false
  else if 0 ≤ d.exponent then
    digitsValue digits * Nat.pow 10 d.exponent.toNat < infinityThreshold
  else digitsValue digits < infinityThreshold * Nat.pow 10 (-d.exponent).toNat

end ApiContract.Text
