import DrawScript.Number.Binary64

set_option autoImplicit false

/-!
# Shortest decimals

The decimal with the fewest digits among those that round to a given double, and its two layouts.
-/

namespace DrawScript

/-- The value `0.d₁d₂… * 10 ^ point`, without a leading or trailing zero. -/
structure Decimal where
  digits : List Char
  point : Int
  deriving DecidableEq, Repr

namespace Decimal

/-- The reals that round to one double, over the common denominator `den`. -/
structure Interval where
  low : Nat
  value : Nat
  high : Nat
  den : Nat
  closed : Bool

-- Below a power of two the doubles lie twice as close as above it.
def Interval.ofDouble (mantissa : Nat) (exponent : Int) : Interval :=
  let scale := 1 <<< (exponent - 2).toNat
  let narrow := mantissa = 1 <<< 52 && Binary64.leastExponent < exponent
  { low := (4 * mantissa - if narrow then 1 else 2) * scale
    value := 4 * mantissa * scale
    high := (4 * mantissa + 2) * scale
    den := 1 <<< (2 - exponent).toNat
    closed := mantissa % 2 = 0 }

def Interval.holds (i : Interval) (num unit : Nat) : Bool :=
  if i.closed then i.low * unit ≤ num && num ≤ i.high * unit
  else i.low * unit < num && num < i.high * unit

def pointOf (num den : Nat) : Int :=
  let estimate := ((num.log2 : Int) - den.log2) * 30103 / 100000
  let below (point : Int) : Bool := num * Nat.pow 10 (-point).toNat < den * Nat.pow 10 point.toNat
  ([estimate - 1, estimate, estimate + 1, estimate + 2].find? below).getD (estimate + 3)

/-- The multiple of `10 ^ place` nearest to the value among its two neighbours that lie in the
interval; the greater one when both are equally near. -/
def Interval.multiple? (i : Interval) (place : Int) : Option Nat :=
  let unit := Nat.pow 10 (-place).toNat
  let step := Nat.pow 10 place.toNat * i.den
  let below := i.value * unit / step
  let nearer := if 2 * (i.value * unit - below * step) < step then below else below + 1
  match i.holds (below * step) unit, i.holds ((below + 1) * step) unit with
  | true, true => some nearer
  | true, false => some below
  | false, true => some (below + 1)
  | false, false => none

def ofMultiple (multiple count : Nat) (point : Int) : Decimal :=
  if multiple = Nat.pow 10 count then ⟨['1'], point + 1⟩ else ⟨Nat.toDigits 10 multiple, point⟩

def shortest (mantissa : Nat) (exponent : Int) : Decimal :=
  let interval := Interval.ofDouble mantissa exponent
  let point := pointOf interval.value interval.den
  let withDigits (count : Nat) : Option Decimal :=
    (interval.multiple? (point - count)).map (ofMultiple · count point)
  ((List.range' 1 17).findSome? withDigits).getD ⟨['0'], 1⟩

def zeros (n : Int) : List Char := List.replicate n.toNat '0'

def positional (d : Decimal) : String :=
  let count : Int := d.digits.length
  String.ofList <|
    if d.point ≤ 0 then '0' :: '.' :: zeros (-d.point) ++ d.digits
    else if count ≤ d.point then d.digits ++ zeros (d.point - count)
    else d.digits.take d.point.toNat ++ '.' :: d.digits.drop d.point.toNat

def scientific (d : Decimal) : String :=
  let fraction := d.digits.drop 1
  String.ofList (d.digits.take 1 ++ if fraction = [] then [] else '.' :: fraction)
    ++ "e" ++ toString (d.point - 1)

end Decimal

namespace Binary64

def withSign (negative : Bool) (text : String) : String :=
  if negative then "-" ++ text else text

def withFraction (text : String) : String :=
  if text.toList.contains '.' then text else text ++ ".0"

def text : Binary64 → String
  | .nan => "NaN"
  | .infinite negative => withSign negative "inf"
  | .finite negative mantissa exponent =>
      withSign negative <|
        if mantissa = 0 then "0.0"
        else withFraction (Decimal.shortest mantissa exponent).positional

/-- As `text`, but in scientific form below 10⁻⁴ and from 10¹⁶ on. -/
def compactText : Binary64 → String
  | .nan => "NaN"
  | .infinite negative => withSign negative "inf"
  | .finite negative mantissa exponent =>
      withSign negative <|
        if mantissa = 0 then "0.0"
        else
          let decimal := Decimal.shortest mantissa exponent
          if -4 < decimal.point ∧ decimal.point ≤ 16 then withFraction decimal.positional
          else decimal.scientific

end Binary64

end DrawScript
