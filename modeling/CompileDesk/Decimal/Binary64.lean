/-! # Finite numbers of 64 bits

A magnitude is a dyadic rational `mantissa * 2 ^ exponent` with at most 53 bits and an exponent
not below -1074. Rounding goes to the nearest such number, a tie to the even mantissa, and is
computed exactly on natural numbers. A number is a magnitude with a sign, so that there is a
negative zero.
-/

namespace CompileDesk.Decimal

def twoTo (n : Nat) : Nat := Nat.pow 2 n

def tenTo (n : Nat) : Nat := Nat.pow 10 n

/-- The value `mantissa * 2 ^ exponent`. -/
structure Magnitude where
  mantissa : Nat
  exponent : Int
  deriving DecidableEq, Repr

namespace Magnitude

def zero : Magnitude := ⟨0, -1074⟩

def isZero (x : Magnitude) : Bool := x.mantissa == 0

def num (x : Magnitude) : Nat := x.mantissa * twoTo x.exponent.toNat

/-- The denominator of the value, a power of two. -/
def den (x : Magnitude) : Nat := twoTo (-x.exponent).toNat

end Magnitude

/-- The nearest natural number to `num / den`, a tie going to the even one. -/
def roundHalfEven (num den : Nat) : Nat :=
  let q := num / den
  let r := num % den
  if 2 * r < den then q
  else if den < 2 * r then q + 1
  else if q % 2 == 0 then q else q + 1

/-- The whole exponent `k` with `2 ^ k ≤ num / den < 2 ^ (k + 1)`, for positive arguments. -/
def binaryOrder (num den : Nat) : Int :=
  let guess : Int := (Nat.log2 num : Int) - (Nat.log2 den : Int)
  let low := num * twoTo (-guess).toNat < den * twoTo guess.toNat
  if low then guess - 1 else guess

/-- The nearest magnitude to `num / den`; `none` when that is beyond the largest one. -/
def nearest? (num den : Nat) : Option Magnitude :=
  if num == 0 then some .zero
  else
    let exponent := max (binaryOrder num den - 52) (-1074)
    let mantissa := roundHalfEven (num * twoTo (-exponent).toNat) (den * twoTo exponent.toNat)
    let x : Magnitude :=
      if mantissa == twoTo 53 then ⟨twoTo 52, exponent + 1⟩ else ⟨mantissa, exponent⟩
    if x.exponent > 971 then none else some x

def powerOfTen? (k : Nat) : Option Magnitude := nearest? (tenTo k) 1

def Magnitude.mul? (x y : Magnitude) : Option Magnitude :=
  nearest? (x.num * y.num) (x.den * y.den)

/-- The rounded quotient by a number that is not zero. -/
def Magnitude.div? (x y : Magnitude) : Option Magnitude :=
  nearest? (x.num * y.den) (x.den * y.num)

structure Binary64 where
  negative : Bool
  magnitude : Magnitude
  deriving DecidableEq, Repr

/-- The magnitude nearest to `significand * 10 ^ exponent`, rounded once. Exponents that are out of
every reach are decided without computing the power of ten. -/
def ofDecimal? (significand : Nat) (exponent : Int) : Option Magnitude :=
  if significand == 0 then some .zero
  else if exponent > 400 then none
  else if exponent + Nat.log2 significand < -400 then some .zero
  else nearest? (significand * tenTo exponent.toNat) (tenTo (-exponent).toNat)

/-- Divides by `1e308` until the power of ten that remains is in the table of powers, then by that
power; every step rounds. -/
def scaledDown (x : Magnitude) (places : Nat) : Option Magnitude :=
  if places ≤ 308 then do
    x.div? (← powerOfTen? places)
  else if x.isZero then some x
  else do
    scaledDown (← x.div? (← powerOfTen? 308)) (places - 308)
termination_by places

/-- The magnitude of `significand * 10 ^ exponent` reached in rounded steps: the significand is
rounded first, and each multiplication or division by a power of ten rounds again. `none` when
the number is too large. -/
def inSteps? (significand : Nat) (exponent : Int) : Option Magnitude := do
  let x ← nearest? significand 1
  if exponent < 0 then scaledDown x exponent.natAbs
  else if exponent ≤ 308 then x.mul? (← powerOfTen? exponent.natAbs)
  else if x.isZero then some x else none

end CompileDesk.Decimal
