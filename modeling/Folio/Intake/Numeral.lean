-- Numbers that fields hold as text. A whole number may have leading zeros, a fraction of zeros
-- and single underscores; a floating number is read as it stands, and failing that without its
-- underscores. Digits are plain ones.
import Folio.Number.Reading

namespace Folio.Intake

open Folio.Character Folio.Number

/-- The text without the white space at its ends. -/
def withoutSpace (text : List Char) : List Char :=
  ((text.dropWhile isSpace).reverse.dropWhile isSpace).reverse

/-- Whether two underscores stand side by side. -/
def doublesUnderscore : List Char → Bool
  | '_' :: '_' :: _ => true
  | _ :: rest => doublesUnderscore rest
  | [] => false

/-- The text without its underscores, which may stand neither side by side nor at an end. -/
def withoutSingles? (text : List Char) : Option (List Char) :=
  if text.head? == some '_' || text.getLast? == some '_' || doublesUnderscore text then none
  else some (text.filter (· != '_'))

/-! ## Whole numbers -/

/-- Digits without a leading zero, behind a minus or not. The minus counts for the length. -/
def plainWhole? (text : List Char) : Option Int :=
  let (negative, digits) := match text with
    | '-' :: rest => (true, rest)
    | _ => (false, text)
  let leadsWithZero := digits.head? == some '0' && digits.length > 1
  if digits.isEmpty || !digits.all Char.isDigit || leadsWithZero || text.length > digitLimit then none
  else some (signed negative (valueOf digits))

/-- What is left behind a zero when further zeros and underscores are dropped. A zero before a
point is kept, and so is the last character. -/
def behindZero (last : Char) : List Char → Option (List Char)
  | [] => some [last]
  | c :: rest =>
    if c == '0' || c == '_' then behindZero c rest
    else if c.isDigit || c == '-' then some (c :: rest)
    else if c == '.' then some (last :: c :: rest)
    else none

/-- The text without leading zeros. -/
def withoutZeros? : List Char → Option (List Char)
  | '0' :: rest => behindZero '0' rest
  | c :: rest => if c.isDigit || c == '-' then some (c :: rest) else none
  | [] => none

/-- The text without a fraction that holds nothing but zeros. -/
def withoutZeroFraction (text : List Char) : List Char :=
  if ((text.dropWhile (· != '.')).drop 1).all (· == '0') then text.takeWhile (· != '.') else text

/-- The text without a plus, behind which no minus may stand. -/
def withoutPlus? : List Char → Option (List Char)
  | '+' :: '-' :: _ => none
  | '+' :: rest => some rest
  | text => some text

/-- The digits of a whole number that is not written plainly. -/
def cleaned? (text : List Char) : Option (List Char) := do
  let digits := withoutZeroFraction (← withoutZeros? (← withoutPlus? (withoutSpace text)))
  return (withoutSingles? digits).getD digits

/-- A whole number in the text of a field. -/
def wholeOfText? (text : List Char) : Option Int :=
  (plainWhole? text).orElse (fun _ => (cleaned? text).bind plainWhole?)

/-! ## Floating numbers -/

/-- A floating number in the text of a field. -/
def floatOfText? (text : List Char) : Option Float :=
  (float? (withoutSpace text)).orElse (fun _ => (withoutSingles? text).bind float?)

end Folio.Intake
