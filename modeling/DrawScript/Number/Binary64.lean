set_option autoImplicit false

namespace DrawScript

inductive Binary64 where
  | nan
  | infinite (negative : Bool)
  | finite (negative : Bool) (mantissa : Nat) (exponent : Int)
  deriving DecidableEq, Repr

namespace Binary64

def leastExponent : Int := -1074

def greatestExponent : Int := 971

def roundDiv (num den : Nat) : Nat :=
  let quotient := num / den
  let remainder := num % den
  if 2 * remainder < den then quotient
  else if den < 2 * remainder then quotient + 1
  else quotient + quotient % 2

def scaled (num den : Nat) (exponent : Int) : Nat × Nat :=
  (num <<< (-exponent).toNat, den <<< exponent.toNat)

/-- The exponent with which `num / den` keeps the most bits in a mantissa of 53. -/
def exponentOf (num den : Nat) : Int :=
  let guess := max leastExponent ((num.log2 : Int) - den.log2 - 53)
  let (top, bottom) := scaled num den guess
  if top < bottom <<< 53 then guess else guess + 1

-- Rounding up may reach 2 ^ 53, which is 2 ^ 52 with the next exponent.
def carried (mantissa : Nat) (exponent : Int) : Nat × Int :=
  if mantissa = 1 <<< 53 then (1 <<< 52, exponent + 1) else (mantissa, exponent)

def bounded (number : Nat × Int) : Binary64 :=
  if greatestExponent < number.2 then .infinite false else .finite false number.1 number.2

def ofRatio (num den : Nat) : Binary64 :=
  if num = 0 then .finite false 0 leastExponent
  else
    let exponent := exponentOf num den
    let ratio := scaled num den exponent
    bounded (carried (roundDiv ratio.1 ratio.2) exponent)

def ofBits (bits : UInt64) : Binary64 :=
  let negative := bits.toNat.testBit 63
  let biased : Nat := (bits.toNat >>> 52) % 2048
  let fraction := bits.toNat % (1 <<< 52)
  if biased = 2047 then
    if fraction = 0 then .infinite negative else .nan
  else if biased = 0 then .finite negative fraction leastExponent
  else .finite negative ((1 <<< 52) + fraction) ((biased : Int) - 1075)

def wholePart (mantissa : Nat) (exponent : Int) : Nat :=
  (mantissa <<< exponent.toNat) >>> (-exponent).toNat

def isWhole (mantissa : Nat) (exponent : Int) : Bool :=
  (mantissa <<< exponent.toNat) % (1 <<< (-exponent).toNat) = 0

def signed (negative : Bool) (magnitude : Nat) : Int :=
  if negative then -(magnitude : Int) else magnitude

end Binary64

end DrawScript
