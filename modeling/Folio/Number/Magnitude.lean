-- What a floating number stands for, exactly: a binary fraction, an infinity, or nothing. Order
-- and sameness are read off these values, so that they are exact between whole and floating
-- numbers of any size.
namespace Folio.Number

/-- The exact value of a number. -/
inductive Magnitude where
  | finite (q : Rat)
  | infinite (negative : Bool)
  | undefined
  deriving DecidableEq

namespace Magnitude

/-- Sameness of values; the undefined one is not even the same as itself. -/
def same : Magnitude → Magnitude → Bool
  | finite p, finite q => p == q
  | infinite s, infinite t => s == t
  | _, _ => false

/-- The order of values; the undefined one stands before and behind nothing. -/
def less : Magnitude → Magnitude → Bool
  | finite p, finite q => decide (p < q)
  | finite _, infinite negative => !negative
  | infinite negative, finite _ => negative
  | infinite s, infinite t => s && !t
  | _, _ => false

def atMost (a b : Magnitude) : Bool := less a b || same a b

end Magnitude

/-- The parts of a finite floating number `(-1)^negative * mantissa * 2^exponent`. -/
structure Parts where
  negative : Bool
  mantissa : Nat
  exponent : Int

/-- Bits of the fraction of a floating number. -/
def fractionBits : Nat := 52

/-- The exponent of the smallest floating numbers, those without a leading bit. -/
def leastExponent : Int := -1074

def signBit (x : Float) : Bool := decide (Nat.pow 2 63 ≤ x.toBits.toNat)

def exponentField (x : Float) : Nat := x.toBits.toNat / Nat.pow 2 fractionBits % 2048

def fractionField (x : Float) : Nat := x.toBits.toNat % Nat.pow 2 fractionBits

/-- The parts of a number, or none when it is not finite. -/
def parts? (x : Float) : Option Parts :=
  if exponentField x == 2047 then none
  else if exponentField x == 0 then some ⟨signBit x, fractionField x, leastExponent⟩
  else some ⟨signBit x, fractionField x + Nat.pow 2 fractionBits, exponentField x - 1075⟩

def Parts.value (p : Parts) : Rat :=
  (if p.negative then -1 else 1) * p.mantissa * (2 : Rat) ^ p.exponent

/-- The exact value of a floating number. -/
def magnitude (x : Float) : Magnitude :=
  match parts? x with
  | some p => .finite p.value
  | none => if fractionField x == 0 then .infinite (signBit x) else .undefined

def ofWhole (n : Int) : Magnitude := .finite n

end Folio.Number
