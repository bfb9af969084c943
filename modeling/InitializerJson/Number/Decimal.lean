import InitializerJson.Character.Basic

namespace InitializerJson

/-!
# Decimal numbers and their nearest doubles

A decimal number is a sign, a whole coefficient and a power of ten.  It is
rounded to the nearest IEEE 754 double with ties to the even neighbour, in
exact arithmetic.  A magnitude from `Decimal.overflowBound` on, which is half a
unit above the greatest double, has no finite neighbour.
-/

open Character

/-- The number `coefficient · 10 ^ exponent`, or its opposite. -/
structure Decimal where
  negative : Bool
  coefficient : Nat
  exponent : Int
  deriving Repr, DecidableEq

namespace Decimal

/-- A sign, which may be absent, and the text after it. -/
def readSign : List Char → Bool × List Char
  | '-' :: rest => (true, rest)
  | '+' :: rest => (false, rest)
  | text => (false, text)

/-- The signed number that a sign and digits write. -/
def signedValue
    (negative : Bool)
    (digits : List Char) :
    Int :=
  if negative then
    -(positionalValue 10 digits : Int)
  else
    positionalValue 10 digits

/-- The decimal of a sign, digits before and after the point, and an exponent. -/
def ofParts
    (negative : Bool)
    (whole fraction : List Char)
    (exponent : Int) :
    Decimal where
  negative :=
    negative
  coefficient :=
    positionalValue 10 (whole ++ fraction)
  exponent :=
    exponent - fraction.length

/-- The digits behind a decimal point, and the text after them. -/
def readFraction : List Char → List Char × List Char
  | '.' :: rest => (rest.takeWhile Char.isDigit, rest.dropWhile Char.isDigit)
  | text => ([], text)

/-- The exponent that a text writes as a whole; the empty text writes zero. -/
def exponent? : List Char → Option Int
  | [] => some 0
  | mark :: rest =>
      let signed := readSign rest
      if mark.toLower = 'e' && !signed.2.isEmpty && signed.2.all Char.isDigit then
        some (signedValue signed.1 signed.2)
      else
        none

/--
The decimal that a text writes as a whole: a sign, digits with a point before,
among or behind them, and an exponent, of which only the digits are required.
-/
def ofText?
    (text : List Char) :
    Option Decimal :=
  let signed := readSign text
  let whole := signed.2.takeWhile Char.isDigit
  let fraction := readFraction (signed.2.dropWhile Char.isDigit)
  if whole.isEmpty && fraction.1.isEmpty then
    none
  else
    (exponent? fraction.2).map (ofParts signed.1 whole fraction.1)

/-- The least magnitude that no finite double is nearest to. -/
def overflowBound : Nat :=
  Nat.pow 2 1024 - Nat.pow 2 970

/--
Whether the magnitude has a finite double nearest to it.  The outer tests only
keep powers of ten in bounds: from `10 ^ 310` on every magnitude overflows, and
below one none does.
-/
def isFinite
    (decimal : Decimal) :
    Bool :=
  if decimal.coefficient = 0 then
    true
  else if 0 ≤ decimal.exponent then
    decimal.exponent < 310 &&
      decimal.coefficient * Nat.pow 10 decimal.exponent.toNat < overflowBound
  else
    decimal.coefficient.log2 < decimal.exponent.natAbs ||
      decimal.coefficient < overflowBound * Nat.pow 10 decimal.exponent.natAbs

/-- A quotient rounded to the nearest whole number, a tie to the even one. -/
def roundedQuotient
    (numerator denominator : Nat) :
    Nat :=
  let quotient := numerator / denominator
  let doubled := 2 * (numerator % denominator)
  if denominator < doubled || (doubled = denominator && quotient % 2 = 1) then
    quotient + 1
  else
    quotient

/-- The greatest power of two, by its exponent, that is at most a quotient. -/
def binaryExponent
    (numerator denominator : Nat) :
    Int :=
  let estimate := (numerator.log2 : Int) - denominator.log2
  if denominator * Nat.pow 2 estimate.toNat ≤ numerator * Nat.pow 2 (-estimate).toNat then
    estimate
  else
    estimate - 1

/--
The bits of the double nearest to a positive quotient.  Doubles of one binary
exponent lie evenly, fifty-two bits below it apart but never closer than
`2 ^ -1074`; the bits count them upwards from zero.
-/
def nearestBits
    (numerator denominator : Nat) :
    Nat :=
  let unit := max (binaryExponent numerator denominator - 52) (-1074)
  (unit + 1074).toNat * Nat.pow 2 52 +
    roundedQuotient
      (numerator * Nat.pow 2 (-unit).toNat)
      (denominator * Nat.pow 2 unit.toNat)

/-- The bits of the nearest double's magnitude, where that is finite. -/
def magnitudeBits
    (decimal : Decimal) :
    Nat :=
  if decimal.coefficient = 0 then
    0
  else if 0 ≤ decimal.exponent then
    nearestBits (decimal.coefficient * Nat.pow 10 decimal.exponent.toNat) 1
  else if decimal.coefficient.log2 + 331 ≤ decimal.exponent.natAbs then
    0
  else
    nearestBits decimal.coefficient (Nat.pow 10 decimal.exponent.natAbs)

/-- The bits of the nearest double, unless that is infinite. -/
def toDouble?
    (decimal : Decimal) :
    Option UInt64 :=
  if decimal.isFinite then
    some (UInt64.ofNat
      ((if decimal.negative then Nat.pow 2 63 else 0) + decimal.magnitudeBits))
  else
    none

end Decimal

end InitializerJson
