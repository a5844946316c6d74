-- The floating number nearest to a fraction: ties go to the even mantissa, and a fraction that
-- lies beyond the largest floating number has none.
import Folio.Number.Magnitude

namespace Folio.Number

/-- A fraction rounded to the nearest whole number, a half to the even one. -/
def roundHalfEven (q : Rat) : Nat :=
  let below := q.floor.toNat
  let rest := q - below
  if rest < 1 / 2 then below
  else if rest = 1 / 2 then (if below % 2 == 0 then below else below + 1)
  else below + 1

/-- The exponent of the unit in which the mantissa of a positive fraction is counted. -/
def unitExponent (q : Rat) : Int :=
  let estimate : Int := (q.num.natAbs.log2 : Int) - q.den.log2 - 53
  let exponent := if q < (2 : Rat) ^ (estimate + 53) then estimate else estimate + 1
  max exponent leastExponent

/-- The bits of the floating number nearest to a fraction that is not negative. A mantissa that
rounds up to the next power of two carries into the exponent by itself. -/
def nearestBits? (q : Rat) : Option Nat :=
  if q = 0 then some 0
  else
    let exponent := unitExponent q
    let bits := (exponent - leastExponent).toNat * Nat.pow 2 fractionBits
      + roundHalfEven (q / (2 : Rat) ^ exponent)
    if bits < 2047 * Nat.pow 2 fractionBits then some bits else none

def infinityBits : Nat := 2047 * Nat.pow 2 fractionBits

/-- A floating number from its sign and the bits of its size. -/
def ofBits (negative : Bool) (bits : Nat) : Float :=
  Float.ofBits (UInt64.ofNat (bits + if negative then Nat.pow 2 63 else 0))

def infinity (negative : Bool) : Float := ofBits negative infinityBits

/-- The floating number nearest to a fraction, if it lies in their range. -/
def nearest? (q : Rat) : Option Float :=
  (nearestBits? (if q < 0 then -q else q)).map (ofBits (decide (q < 0)))

/-- The floating number nearest to a whole number, if it lies in their range. -/
def ofInt? (n : Int) : Option Float := nearest? n

end Folio.Number
