-- Reading numbers from free text: layout around the number, digits of any script, and single
-- underscores between digits are allowed. Where a whole number cannot be read it is said why.
import Folio.Character.Blank
import Folio.Character.Decimal
import Folio.Number.Nearest
import Folio.Text.Quoted

namespace Folio.Number

open Folio.Character

/-! ## Plain characters -/

/-- The characters that lay out plain text. -/
def isLayout (c : Char) : Bool :=
  c == ' ' || c == '\t' || c == '\n' || c == '\r' || c == '\x0b' || c == '\x0c'

/-- Stands for a character that no number holds. -/
def foreign : Char := '?'

/-- Blanks and digits of other scripts become plain ones; what else is not plain ends the text. -/
def plainChars : List Char → List Char
  | [] => []
  | c :: rest =>
    if c.toNat < 0x7F then c :: plainChars rest
    else if isBlank c then ' ' :: plainChars rest
    else match digit? c with
      | some d => Char.ofNat (d + 48) :: plainChars rest
      | none => [foreign]

/-- The plain form of a text; a plain text is its own. -/
def plainForm (text : List Char) : List Char :=
  if text.all (fun c => c.toNat < 0x80) then text else plainChars text

/-- The text without layout at its ends. -/
def withoutLayout (text : List Char) : List Char :=
  ((text.dropWhile isLayout).reverse.dropWhile isLayout).reverse

/-- Takes out underscores, each of which has to stand between two digits. -/
def withoutUnderscores? (afterDigit : Bool) : List Char → Option (List Char)
  | [] => some []
  | '_' :: rest =>
    match rest with
    | c :: _ => if afterDigit && c.isDigit then withoutUnderscores? false rest else none
    | [] => none
  | c :: rest => (withoutUnderscores? c.isDigit rest).map (c :: ·)

/-- Splits off a sign; true when it is a minus. -/
def signOf : List Char → Bool × List Char
  | '-' :: rest => (true, rest)
  | '+' :: rest => (false, rest)
  | text => (false, text)

/-- The value of plain decimal digits. -/
def valueOf (text : List Char) : Nat :=
  text.foldl (fun n c => 10 * n + (c.toNat - 48)) 0

def signed (negative : Bool) (n : Nat) : Int := if negative then -(n : Int) else n

/-! ## Whole numbers -/

/-- A whole number is read from at most so many digits. -/
def digitLimit : Nat := 4300

/-- Why a text is no whole number. -/
inductive NoWhole where
  | malformed
  | tooLong (digits : Nat)
  deriving DecidableEq

def tooLongMessage (digits : Nat) : String :=
  s!"Exceeds the limit ({digitLimit} digits) for integer string conversion: value has {digits} "
    ++ "digits; use sys.set_int_max_str_digits() to increase the limit"

/-- Of a text that is no number so many characters are shown, quotes included. -/
def shownLimit : Nat := 200

def NoWhole.message (text : List Char) : NoWhole → String
  | malformed =>
    "invalid literal for int() with base 10: "
      ++ String.ofList ((Text.quoted text).take shownLimit)
  | tooLong digits => tooLongMessage digits

/-- A whole number: a sign and digits. A number that is too long is refused as such whatever
follows it. -/
def readWhole (text : List Char) : Except NoWhole Int :=
  let (negative, unsigned) := signOf ((plainForm text).dropWhile isLayout)
  let isFigure (c : Char) := c.isDigit || c == '_'
  match withoutUnderscores? false (unsigned.takeWhile isFigure) with
  | none | some [] => .error .malformed
  | some digits =>
    if digits.length > digitLimit then .error (.tooLong digits.length)
    else if !(unsigned.dropWhile isFigure).all isLayout then .error .malformed
    else .ok (signed negative (valueOf digits))

def readWhole? (text : List Char) : Option Int := (readWhole text).toOption

/-! ## Floating numbers -/

/-- A decimal in parts: its figures and the power of ten of the last one. -/
structure Scientific where
  figures : List Char
  exponent : Int

/-- Whole figures, a point with figures behind it, and an exponent; one of the two groups of
figures has to be there. -/
def scientific? (text : List Char) : Option Scientific := do
  let whole := text.takeWhile Char.isDigit
  let afterWhole := text.dropWhile Char.isDigit
  let (fraction, afterFraction) := match afterWhole with
    | '.' :: rest => (rest.takeWhile Char.isDigit, rest.dropWhile Char.isDigit)
    | _ => ([], afterWhole)
  if whole.isEmpty && fraction.isEmpty then none
  let figures := whole ++ fraction
  match afterFraction with
  | [] => some ⟨figures, -fraction.length⟩
  | e :: rest =>
    let (negative, power) := signOf rest
    if (e == 'e' || e == 'E') && !power.isEmpty && power.all Char.isDigit then
      let shift : Int := if negative then -(valueOf power : Int) else valueOf power
      some ⟨figures, shift - fraction.length⟩
    else none

/-- Beyond this power of ten a number is infinite, and below its inverse it is zero. -/
def extremePower : Int := 400

/-- The size of a decimal as a floating number. -/
def Scientific.sizeBits (s : Scientific) : Nat :=
  let significant := s.figures.dropWhile (· == '0')
  if significant.isEmpty then 0
  else
    let place : Int := significant.length + s.exponent
    if place > extremePower then infinityBits
    else if place < -extremePower then 0
    else (nearestBits? (valueOf significant * (10 : Rat) ^ s.exponent)).getD infinityBits

def smallLetter (c : Char) : Char := if 'A' ≤ c && c ≤ 'Z' then Char.ofNat (c.toNat + 32) else c

/-- The size of a floating number from its unsigned text. -/
def sizeBits? (text : List Char) : Option Nat :=
  let word := String.ofList (text.map smallLetter)
  if word == "inf" || word == "infinity" then some infinityBits
  else if word == "nan" then some (infinityBits + Nat.pow 2 51)
  else (scientific? text).map Scientific.sizeBits

/-- A floating number without anything around it: a sign and a decimal, or the word for an
infinity or for no number. -/
def float? (text : List Char) : Option Float :=
  let (negative, rest) := signOf text
  (sizeBits? rest).map (ofBits negative)

/-- A floating number in free text. -/
def readFloat? (text : List Char) : Option Float := do
  float? (← withoutUnderscores? false (withoutLayout (plainForm text)))

end Folio.Number
