import InitializerJson.Number.Decimal

namespace InitializerJson

/-!
# Numbers

Integers are exact.  Real numbers keep their decimal text, so that trailing
zeros and exponents are shown as they were written.
-/

/-- A number, either whole or kept as decimal text. -/
inductive Number where
  | integer (value : Int)
  | real (text : String)
  deriving Repr, DecidableEq

/-- A number in the sense of JSON readers: a bounded integer or a double. -/
inductive JsonNumber where
  | integer (value : Int)
  | double (bits : UInt64)
  deriving Repr, DecidableEq

namespace Number

/-- The text of a number. -/
def text : Number → String
  | integer value => toString value
  | real text => text

/-- Whether a number is whole by its form. -/
def isInteger : Number → Bool
  | integer _ => true
  | real _ => false

/--
The number as JSON readers see it.  Integers must fit in 64 bits, with or
without a sign; real numbers go to the nearest double, which must be finite.
-/
def toJsonNumber? : Number → Option JsonNumber
  | integer value =>
      if -(Nat.pow 2 63 : Nat) ≤ value && value < (Nat.pow 2 64 : Nat) then
        some (.integer value)
      else
        none
  | real text =>
      ((Decimal.ofText? text.toList).bind Decimal.toDouble?).map .double

end Number

end InitializerJson
