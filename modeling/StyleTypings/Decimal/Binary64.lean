import StyleTypings.Decimal.Powers

/-!
# Binary numbers of 64 bits

A floating-point number is kept as its 64 bits, and all arithmetic on it that the library does
is exact arithmetic on natural numbers. A finite number is `mantissa * 2 ^ exponent`; `nearest`
rounds a quotient of natural numbers to the nearest such number, and to the one with the even
mantissa of two that are equally near.
-/

namespace StyleTypings

/-- A floating-point number by its bits. -/
structure Binary64 where
  /-- Sign, biased exponent and fraction, from the highest bit down. -/
  bits : UInt64
  deriving DecidableEq, Repr

namespace Binary64

/-- Whether the sign bit is set. -/
def negative (x : Binary64) : Bool := x.bits.toNat / twoTo 63 == 1

/-- The biased exponent. -/
def biased (x : Binary64) : Nat := x.bits.toNat / twoTo 52 % twoTo 11

/-- The fraction bits. -/
def fraction (x : Binary64) : Nat := x.bits.toNat % twoTo 52

/-- Whether the number is finite. -/
def isFinite (x : Binary64) : Bool := x.biased != 2047

/-- Whether the value is no number. -/
def isNaN (x : Binary64) : Bool := x.biased == 2047 && x.fraction != 0

/-- The mantissa of the size of a finite number. -/
def mantissa (x : Binary64) : Nat :=
  if x.biased = 0 then x.fraction else twoTo 52 + x.fraction

/-- The exponent of two that belongs to the mantissa. -/
def exponent (x : Binary64) : Int := if x.biased = 0 then -1074 else (x.biased : Int) - 1075

/-- The number with the given sign and the other bits. -/
def ofParts (negative : Bool) (rest : Nat) : Binary64 :=
  ⟨UInt64.ofNat ((if negative then twoTo 63 else 0) + rest)⟩

/-- The infinity of a sign. -/
def infinity (negative : Bool) : Binary64 := ofParts negative (2047 * twoTo 52)

/-- The value that is no number. -/
def nan : Binary64 := ofParts false (2047 * twoTo 52 + twoTo 51)

/-- A quotient rounded to the nearest natural number, and to the even one of two. -/
def roundQuotient (num den : Nat) : Nat :=
  let floor := num / den
  let twice := 2 * (num % den)
  if twice < den then floor
  else if den < twice then floor + 1
  else if floor % 2 = 0 then floor else floor + 1

/-- The greatest `e` with `2 ^ e ≤ num / den`, for positive `num` and `den`. -/
def binaryExponent (num den : Nat) : Int :=
  let guess : Int := (num.log2 : Int) - (den.log2 : Int)
  let fits := if 0 ≤ guess then den * twoTo guess.toNat ≤ num else den ≤ num * twoTo (-guess).toNat
  if fits then guess else guess - 1

/-- The number nearest to `num / den` with the given sign. -/
def nearest (negative : Bool) (num den : Nat) : Binary64 :=
  if num = 0 then ofParts negative 0
  else
    let exponent := max (binaryExponent num den - 52) (-1074)
    let mantissa :=
      if 0 ≤ exponent then roundQuotient num (den * twoTo exponent.toNat)
      else roundQuotient (num * twoTo (-exponent).toNat) den
    let rest := (exponent + 1074).toNat * twoTo 52 + mantissa
    if 2047 * twoTo 52 ≤ rest then infinity negative else ofParts negative rest

/-- The number nearest to `digits * 10 ^ power`. Powers far outside the range of the format are
settled without computing them. -/
def ofDecimal (negative : Bool) (digits : Nat) (power : Int) : Binary64 :=
  if digits = 0 then ofParts negative 0
  else
    let size : Int := (Nat.toDigits 10 digits).length + power
    if 400 < size then infinity negative
    else if size < -400 then ofParts negative 0
    else if 0 ≤ power then nearest negative (digits * tenTo power.toNat) 1
    else nearest negative digits (tenTo (-power).toNat)

/-- The number of the machine with the same bits. -/
def toFloat (x : Binary64) : Float := Float.ofBits x.bits

/-- The bits of a number of the machine. -/
def ofFloat (x : Float) : Binary64 := ⟨x.toBits⟩

/-- The whole number that a number equals, if there is one. -/
def toInt? (x : Binary64) : Option Int :=
  if !x.isFinite then none
  else
    let size : Option Nat :=
      if 0 ≤ x.exponent then some (x.mantissa * twoTo x.exponent.toNat)
      else
        let unit := twoTo (-x.exponent).toNat
        if x.mantissa % unit = 0 then some (x.mantissa / unit) else none
    size.map fun n => if x.negative then -(n : Int) else n

end Binary64

end StyleTypings
