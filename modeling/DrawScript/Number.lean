import DrawScript.Number.Decimal

set_option autoImplicit false

namespace DrawScript

inductive Number where
  | int (n : Int)
  | float (x : Binary64)
  deriving DecidableEq, Repr

namespace Number

def isInt : Number → Bool
  | .int _ => true
  | .float _ => false

def ofBinary64 : Binary64 → Number
  | .finite negative mantissa exponent =>
      let whole := Binary64.wholePart mantissa exponent
      if Binary64.isWhole mantissa exponent && whole < 1 <<< 63 then
        .int (Binary64.signed negative whole)
      else .float (.finite negative mantissa exponent)
  | x => .float x

def ofDigits (whole fraction : List Char) : Number :=
  .ofBinary64 (.ofRatio (Nat.ofDigitChars 10 (whole ++ fraction) 0) (Nat.pow 10 fraction.length))

/-- Digits of other writing systems have no value. -/
def ofText? (text : List Char) : Option Number :=
  if text.all fun c => c.isDigit || c = '.' then
    some (ofDigits (text.takeWhile (· ≠ '.')) ((text.dropWhile (· ≠ '.')).drop 1))
  else none

def text : Number → String
  | .int n => toString n
  | .float x => x.text

def clampInt64 (n : Int) : Int := max Int64.minValue.toInt (min n Int64.maxValue.toInt)

/-- The integer part, held in 64 bits; what is not a number counts as zero. -/
def truncate : Number → Int
  | .int n => n
  | .float .nan => 0
  | .float (.infinite negative) => (if negative then Int64.minValue else Int64.maxValue).toInt
  | .float (.finite negative mantissa exponent) =>
      clampInt64 (Binary64.signed negative (Binary64.wholePart mantissa exponent))

end Number

end DrawScript
