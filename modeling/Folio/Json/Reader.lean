-- Reading JSON text. Fields keep the order of the text, and a name that comes again replaces the
-- value of the first; the words for numbers that are not finite are understood.
import Folio.Number.Reading
import Folio.Text.Hex
import Folio.Value.Basic

namespace Folio.Json

open Folio.Text

/-- Why a text is not read. -/
inductive Unreadable where
  /-- It does not have the form of a value. -/
  | malformed
  /-- A whole number has more figures than are read. -/
  | tooManyFigures
  /-- Lists and objects stand too deep inside one another. -/
  | tooDeep
  deriving DecidableEq

def orMalformed {α : Type} (found : Option α) : Except Unreadable α :=
  match found with
  | some a => .ok a
  | none => .error .malformed

def isSpace (c : Char) : Bool := c == ' ' || c == '\n' || c == '\r' || c == '\t'

def skipSpace (text : List Char) : List Char := text.dropWhile isSpace

/-! ## Texts -/

/-- The code units of a text up to its closing quote, and what follows. -/
def units? : List Char → Option (List Nat × List Char)
  | [] => none
  | '"' :: rest => some ([], rest)
  | '\\' :: 'u' :: a :: b :: c :: d :: rest => do
    let unit ← hexNumber? [a, b, c, d]
    let (units, after) ← units? rest
    return (unit :: units, after)
  | '\\' :: c :: rest => do
    let unit ← match c with
      | '"' => some 0x22
      | '\\' => some 0x5c
      | '/' => some 0x2f
      | 'b' => some 0x08
      | 'f' => some 0x0c
      | 'n' => some 0x0a
      | 'r' => some 0x0d
      | 't' => some 0x09
      | _ => none
    let (units, after) ← units? rest
    return (unit :: units, after)
  | c :: rest => do
    if c.toNat < 0x20 then none
    let (units, after) ← units? rest
    return (c.toNat :: units, after)

/-- Characters from code units: two halves of a pair make one character, and a half that stands
alone is replaced. -/
def charsOf : List Nat → List Char
  | [] => []
  | [unit] => [if 0xd800 ≤ unit && unit < 0xe000 then '\ufffd' else Char.ofNat unit]
  | high :: low :: rest =>
    if 0xd800 ≤ high && high < 0xdc00 && 0xdc00 ≤ low && low < 0xe000 then
      Char.ofNat (0x10000 + (high - 0xd800) * 0x400 + (low - 0xdc00)) :: charsOf rest
    else
      (if 0xd800 ≤ high && high < 0xe000 then '\ufffd' else Char.ofNat high) :: charsOf (low :: rest)

def string? (text : List Char) : Option (String × List Char) :=
  (units? text).map (fun (units, rest) => (String.ofList (charsOf units), rest))

/-! ## Numbers -/

/-- Figures behind a mark, if there are any. -/
def fraction (text : List Char) : List Char × List Char :=
  match text with
  | '.' :: rest =>
    let figures := rest.takeWhile Char.isDigit
    if figures.isEmpty then ([], text) else ('.' :: figures, rest.dropWhile Char.isDigit)
  | _ => ([], text)

def exponent (text : List Char) : List Char × List Char :=
  match text with
  | e :: rest =>
    let (sign, figures) := match rest with
      | '+' :: after => (['+'], after)
      | '-' :: after => (['-'], after)
      | _ => ([], rest)
    let power := figures.takeWhile Char.isDigit
    if (e == 'e' || e == 'E') && !power.isEmpty then
      (e :: sign ++ power, figures.dropWhile Char.isDigit)
    else ([], text)
  | [] => ([], text)

/-- A number: a whole one if it has neither fraction nor exponent. No zeros may lead. -/
def number (text : List Char) : Except Unreadable (Value × List Char) := do
  let (sign, unsigned) := match text with
    | '-' :: rest => (['-'], rest)
    | _ => ([], text)
  let figures := unsigned.takeWhile Char.isDigit
  let whole := if figures.head? == some '0' then ['0'] else figures
  if whole.isEmpty then throw .malformed
  let (point, afterPoint) := fraction (unsigned.drop whole.length)
  let (power, rest) := exponent afterPoint
  if point.isEmpty && power.isEmpty then
    let some n := Number.readWhole? (sign ++ whole) | throw .tooManyFigures
    return (.int n, rest)
  return (.float (← orMalformed (Number.readFloat? (sign ++ whole ++ point ++ power))), rest)

/-- The words that stand for values. -/
def words : List (String × Value) := [
  ("null", .null), ("true", .flag true), ("false", .flag false),
  ("NaN", .float (Number.ofBits false (Number.infinityBits + Nat.pow 2 51))),
  ("Infinity", .float (Number.infinity false)), ("-Infinity", .float (Number.infinity true))]

def word? (text : List Char) : Option (Value × List Char) :=
  words.findSome? (fun (word, v) =>
    if word.toList.isPrefixOf text then some (v, text.drop word.length) else none)

/-! ## Values -/

/-- How many lists and objects may stand inside one another. -/
def nestingLimit : Nat := 950

mutual

/-- A value at the start of the text, and what follows it. So many lists and objects may still
stand inside one another. -/
def value : Nat → Nat → List Char → Except Unreadable (Value × List Char)
  | 0, _, _ => .error .malformed
  | fuel + 1, levels, text =>
    match text, levels with
    | '"' :: rest, _ => do
      let (s, after) ← orMalformed (string? rest)
      return (.text s, after)
    | '[' :: _, 0 | '\x7b' :: _, 0 => .error .tooDeep
    | '[' :: rest, levels + 1 =>
      match skipSpace rest with
      | ']' :: after => .ok (.list [], after)
      | inner => do
        let (items, after) ← items fuel levels inner
        return (.list items, after)
    | '\x7b' :: rest, levels + 1 =>
      match skipSpace rest with
      | '\x7d' :: after => .ok (.object [], after)
      | inner => do
        let (fields, after) ← members fuel levels inner
        return (.object (Named.ofList fields), after)
    | _, _ => match word? text with
      | some found => .ok found
      | none => number text

/-- The items of a list up to its closing bracket. -/
def items : Nat → Nat → List Char → Except Unreadable (List Value × List Char)
  | 0, _, _ => .error .malformed
  | fuel + 1, levels, text => do
    let (v, rest) ← value fuel levels text
    match skipSpace rest with
    | ']' :: after => return ([v], after)
    | ',' :: more =>
      let (others, after) ← items fuel levels (skipSpace more)
      return (v :: others, after)
    | _ => throw .malformed

/-- The fields of an object up to its closing brace. -/
def members : Nat → Nat → List Char → Except Unreadable (Fields × List Char)
  | 0, _, _ => .error .malformed
  | fuel + 1, levels, text => do
    let .cons '"' quoted := text | throw .malformed
    let (name, afterName) ← orMalformed (string? quoted)
    let .cons ':' afterColon := skipSpace afterName | throw .malformed
    let (v, rest) ← value fuel levels (skipSpace afterColon)
    match skipSpace rest with
    | '\x7d' :: after => return ([(name, v)], after)
    | ',' :: more =>
      let (others, after) ← members fuel levels (skipSpace more)
      return ((name, v) :: others, after)
    | _ => throw .malformed

end

/-- The value that a whole text writes. Each level of nesting and each item takes at least one
character, so the length of the text bounds the recursion. -/
def read (text : String) : Except Unreadable Value := do
  let chars := text.toList
  let (v, rest) ← value (chars.length + 1) nestingLimit (skipSpace chars)
  if (skipSpace rest).isEmpty then return v else throw .malformed

def read? (text : String) : Option Value := (read text).toOption

end Folio.Json
