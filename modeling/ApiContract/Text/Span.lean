set_option autoImplicit false

namespace ApiContract.Text

structure Span where
  first : Nat
  last : Nat

def Span.contains (s : Span) (n : Nat) : Bool :=
  s.first ≤ n && n ≤ s.last

-- Every `step`-th code point from `first` on, up to `last`.
structure Stride where
  first : Nat
  last : Nat
  step : Nat

def Stride.contains (s : Stride) (n : Nat) : Bool :=
  s.first ≤ n && n ≤ s.last && (n - s.first) % s.step == 0

structure Shift where
  stride : Stride
  shift : Int

def Shift.image? (s : Shift) (n : Nat) : Option Nat :=
  if s.stride.contains n then some (n + s.shift).toNat else none

end ApiContract.Text
