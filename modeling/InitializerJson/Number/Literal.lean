import InitializerJson.Number.Basic

namespace InitializerJson

/-!
# Numbers from numeric literals

A literal loses its underscores and its type suffix.  Hexadecimal and binary
integers become exact integers; a point, an exponent or a real suffix makes a
decimal literal a real number, whose text is put into the form that JSON
requires: no zero before another whole digit, a digit before the point, and
`.0` behind a number that has neither fraction nor exponent.
-/

open Character

/-- The parts of a decimal numeral as written. -/
structure RealNumeral where
  whole : List Char
  /-- The digits behind the point, where there is a point. -/
  fraction : Option (List Char)
  /-- The sign and digits behind the exponent mark, where there is one. -/
  exponent : Option (List Char)
  deriving Repr, DecidableEq

namespace RealNumeral

/-- A text and what follows the first place of a mark in it, if that occurs. -/
def splitAt
    (mark : Char)
    (text : List Char) :
    List Char × Option (List Char) :=
  (text.takeWhile (· != mark), (text.dropWhile (· != mark)).tail?)

/-- Digits, one at least. -/
def areDigits
    (text : List Char) :
    Bool :=
  !text.isEmpty && text.all Char.isDigit

/-- The parts are well formed: some digits, and digits behind each mark. -/
def isWellFormed
    (numeral : RealNumeral) :
    Bool :=
  numeral.whole.all Char.isDigit
    && (!numeral.whole.isEmpty || numeral.fraction.isSome)
    && numeral.fraction.all areDigits
    && numeral.exponent.all fun exponent => areDigits (Decimal.readSign exponent).2

/-- The parts of a numeral, marked by a point and by `e`. -/
def ofText?
    (text : List Char) :
    Option RealNumeral :=
  let scaled := splitAt 'e' text
  let pointed := splitAt '.' scaled.1
  let numeral : RealNumeral := ⟨pointed.1, pointed.2, scaled.2⟩
  if numeral.isWellFormed then
    some numeral
  else
    none

/-- The whole digits without leading zeros, but never none. -/
def leadingDigits
    (numeral : RealNumeral) :
    List Char :=
  match numeral.whole.dropWhile (· == '0') with
  | [] => ['0']
  | digits => digits

/-- What follows the whole digits; `.0` where nothing was written. -/
def trailingText
    (numeral : RealNumeral) :
    List Char :=
  match numeral.fraction, numeral.exponent with
  | none, none => ['.', '0']
  | none, some exponent => 'e' :: exponent
  | some fraction, none => '.' :: fraction
  | some fraction, some exponent => '.' :: (fraction ++ 'e' :: exponent)

/-- The numeral in the form that JSON requires. -/
def render
    (negative : Bool)
    (numeral : RealNumeral) :
    List Char :=
  (if negative then ['-'] else []) ++ numeral.leadingDigits ++ numeral.trailingText

/-- The number that the numeral writes. -/
def toDecimal
    (negative : Bool)
    (numeral : RealNumeral) :
    Decimal :=
  let exponent :=
    match numeral.exponent with
    | none => 0
    | some text =>
        let signed := Decimal.readSign text
        Decimal.signedValue signed.1 signed.2
  Decimal.ofParts negative numeral.whole (numeral.fraction.getD []) exponent

end RealNumeral

namespace Number

/-- The letters of an integer's type suffix. -/
def isIntegerSuffix
    (character : Char) :
    Bool :=
  character == 'u' || character == 'l'

/-- The letters of a real number's type suffix. -/
def isRealSuffix
    (character : Char) :
    Bool :=
  character == 'f' || character == 'd' || character == 'm'

/-- A text without the letters of an integer suffix at its end. -/
def withoutIntegerSuffix
    (text : List Char) :
    List Char :=
  (text.reverse.dropWhile isIntegerSuffix).reverse

/-- A literal in small letters and without separators. -/
def clean
    (text : List Char) :
    List Char :=
  (text.filter (· != '_')).map Char.toLower

/-- A digit of a positional system up to base sixteen. -/
def isDigitOf
    (base : Nat)
    (character : Char) :
    Bool :=
  isHexDigit character && digitValue character < base

/-- A text without one plus sign in front. -/
def withoutPlus : List Char → List Char
  | '+' :: rest => rest
  | text => text

/--
The integer that digits write, which must be below `2 ^ 64` before it is
negated.  One plus sign may stand before the digits.
-/
def ofDigits?
    (base : Nat)
    (negative : Bool)
    (text : List Char) :
    Option Number :=
  let digits := withoutPlus text
  let value := positionalValue base digits
  if !digits.isEmpty && digits.all (isDigitOf base) && value < Nat.pow 2 64 then
    some (.integer (if negative then -value else value))
  else
    none

/-- The real number that a numeral writes, which must round to a finite double. -/
def ofRealText?
    (negative : Bool)
    (text : List Char) :
    Option Number :=
  (RealNumeral.ofText? text).bind fun numeral =>
    if (numeral.toDecimal negative).isFinite then
      some (.real (String.ofList (numeral.render negative)))
    else
      none

/-- The number of a cleaned decimal literal. -/
def ofDecimalText?
    (negative : Bool)
    (text : List Char) :
    Option Number :=
  if text.getLast?.any isRealSuffix then
    ofRealText? negative text.dropLast
  else
    let body := withoutIntegerSuffix text
    if body.contains '.' || body.contains 'e' then
      ofRealText? negative body
    else
      ofDigits? 10 negative body

/-- The number of a cleaned literal. -/
def ofCleanText?
    (negative : Bool) :
    List Char → Option Number
  | '0' :: 'x' :: digits => ofDigits? 16 negative (withoutIntegerSuffix digits)
  | '0' :: 'b' :: digits => ofDigits? 2 negative (withoutIntegerSuffix digits)
  | text => ofDecimalText? negative text

/-- The number that a literal writes, negated if asked. -/
def ofLiteral?
    (text : String)
    (negative : Bool) :
    Option Number :=
  ofCleanText? negative (clean text.toList)

end Number

end InitializerJson
