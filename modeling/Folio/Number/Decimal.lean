-- The decimal text of whole numbers, and the shortest decimal that reads back as a floating
-- number: of the grids of one, two, three, ... digits the first that has a point in the interval
-- which rounds to the number, and of its points the one nearest to the number.
import Folio.Number.Magnitude

namespace Folio.Number

/-- The character of a digit below ten. -/
def digitChar (d : Nat) : Char := Char.ofNat (d + 48)

/-- The digits of a natural number, the highest first. -/
def digits (n : Nat) : List Char :=
  if n < 10 then [digitChar n] else digits (n / 10) ++ [digitChar (n % 10)]
termination_by n

/-- The decimal text of a whole number. -/
def wholeText (n : Int) : List Char :=
  if n < 0 then '-' :: digits n.natAbs else digits n.natAbs

/-- The number `digits * 10^exponent`. -/
structure Decimal where
  digits : Nat
  exponent : Int

/-- The fractions that round to a given floating number. -/
structure Interval where
  low : Rat
  high : Rat
  closed : Bool

def Interval.holds (i : Interval) (q : Rat) : Bool :=
  if i.closed then decide (i.low ≤ q) && decide (q ≤ i.high)
  else decide (i.low < q) && decide (q < i.high)

/-- The interval of a positive floating number. Below a power of two the numbers lie twice as
close; the ends belong to it when the mantissa is even, since ties go there. -/
def interval (mantissa : Nat) (exponent : Int) : Interval :=
  let unit : Rat := (2 : Rat) ^ exponent
  let value := mantissa * unit
  let gap := if mantissa = Nat.pow 2 fractionBits ∧ leastExponent < exponent then unit / 4 else unit / 2
  ⟨value - gap, value + unit / 2, mantissa % 2 == 0⟩

/-- The place of the leading digit: the least `k` near an estimate with `q < 10^k`. -/
def leadingPlace (q : Rat) : Int :=
  let binary : Int := (q.num.natAbs.log2 : Int) - q.den.log2
  let estimate := binary * 30103 / 100000
  ((List.range 4).map (fun (i : Nat) => estimate - 1 + i)).find?
    (fun k => decide (q < (10 : Rat) ^ k)) |>.getD (estimate + 3)

/-- The best point of the grid of multiples of `10^exponent` inside the interval. -/
def onGrid? (i : Interval) (value : Rat) (exponent : Int) : Option Decimal :=
  let unit : Rat := (10 : Rat) ^ exponent
  let below := (value / unit).floor.toNat
  let under := below * unit
  let above := (below + 1 : Nat) * unit
  match i.holds under, i.holds above with
  | true, true =>
    let toUnder := value - under
    let toAbove := above - value
    if toUnder < toAbove then some ⟨below, exponent⟩
    else if toAbove < toUnder then some ⟨below + 1, exponent⟩
    else some ⟨if below % 2 == 0 then below else below + 1, exponent⟩
  | true, false => some ⟨below, exponent⟩
  | false, true => some ⟨below + 1, exponent⟩
  | false, false => none

/-- Moves the zeros at the end of the digits into the exponent. -/
def Decimal.trim : Nat → Decimal → Decimal
  | 0, d => d
  | fuel + 1, d =>
    if d.digits ≠ 0 ∧ d.digits % 10 = 0 then trim fuel ⟨d.digits / 10, d.exponent + 1⟩ else d

/-- The shortest decimal that rounds to a positive floating number. Seventeen digits always do. -/
def shortest (mantissa : Nat) (exponent : Int) : Decimal :=
  let value : Rat := mantissa * (2 : Rat) ^ exponent
  let place := leadingPlace value
  let found := (List.range 17).findSome? (fun (n : Nat) =>
    onGrid? (interval mantissa exponent) value (place - 1 - n))
  (found.getD ⟨mantissa, 0⟩).trim 17

/-- How the digits of a decimal are laid out. -/
structure Layout where
  /-- The decimal point stands at most so many places to the left of the first digit. -/
  leadingZeros : Int
  /-- The decimal point stands at most so many places to the right of the first digit. -/
  wholePlaces : Int
  /-- The exponent has at least so many digits. -/
  exponentDigits : Nat

/-- Numbers are written out up to sixteen places before the point and with up to three zeros
behind it; beyond that they get an exponent of two digits or more. -/
def plainLayout : Layout := ⟨3, 16, 2⟩

def zerosText (n : Int) : List Char := List.replicate n.toNat '0'

/-- The exponent as text, with its sign. -/
def exponentText (layout : Layout) (exponent : Int) : List Char :=
  let written := digits exponent.natAbs
  (if exponent < 0 then '-' else '+') ::
    (List.replicate (layout.exponentDigits - written.length) '0' ++ written)

/-- The text of a positive decimal. -/
def Decimal.text (layout : Layout) (d : Decimal) : List Char :=
  let written := Number.digits d.digits
  let point : Int := written.length + d.exponent
  if -layout.leadingZeros ≤ point ∧ point ≤ layout.wholePlaces then
    if point ≤ 0 then '0' :: '.' :: (zerosText (-point) ++ written)
    else if written.length ≤ point then
      written ++ zerosText (point - written.length) ++ ['.', '0']
    else written.take point.toNat ++ '.' :: written.drop point.toNat
  else
    let fraction := written.drop 1
    written.take 1 ++ (if fraction.isEmpty then [] else '.' :: fraction)
      ++ 'e' :: exponentText layout (point - 1)

/-- The text of a floating number: the fewest digits that read back. -/
def floatText (x : Float) : List Char :=
  match parts? x with
  | some p =>
    (if p.negative then ['-'] else []) ++
      (if p.mantissa == 0 then ['0', '.', '0']
       else (shortest p.mantissa p.exponent).text plainLayout)
  | none =>
    if fractionField x == 0 then (if signBit x then ['-'] else []) ++ ['i', 'n', 'f']
    else ['n', 'a', 'n']

end Folio.Number
