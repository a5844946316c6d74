-- Values as JSON text with sorted field names and nothing beyond ASCII. In the compact layout the
-- text is canonical: it depends on the value alone, not on the order of its fields.
import Folio.Number.Decimal
import Folio.Ordered
import Folio.Text.Hex
import Folio.Text.Words
import Folio.Value.Basic

namespace Folio.Json

open Folio.Text

/-! ## Texts -/

/-- A code unit of sixteen bits as an escape. -/
def unitEscape (unit : Nat) : List Char := '\\' :: 'u' :: hexText 4 unit

/-- One character inside a text; beyond sixteen bits it is written as two code units. -/
def charText (c : Char) : List Char :=
  if c == '"' then ['\\', '"']
  else if c == '\\' then ['\\', '\\']
  else if c == '\n' then ['\\', 'n']
  else if c == '\r' then ['\\', 'r']
  else if c == '\t' then ['\\', 't']
  else if c == '\x08' then ['\\', 'b']
  else if c == '\x0c' then ['\\', 'f']
  else if ' ' ≤ c && c ≤ '~' then [c]
  else if c.toNat < 0x10000 then unitEscape c.toNat
  else unitEscape (0xd800 + (c.toNat - 0x10000) / 0x400)
    ++ unitEscape (0xdc00 + (c.toNat - 0x10000) % 0x400)

def textText (s : String) : List Char := '"' :: s.toList.flatMap charText ++ ['"']

/-! ## Values -/

/-- A floating number, with words for those that are not finite. -/
def floatText (x : Float) : List Char :=
  match Number.magnitude x with
  | .finite _ => Number.floatText x
  | .infinite negative => (if negative then "-Infinity" else "Infinity").toList
  | .undefined => "NaN".toList

def scalarText : Scalar → List Char
  | .text s => textText s
  | .int n => Number.wholeText n
  | .float x => floatText x
  | .flag b => (if b then "true" else "false").toList

/-- What stands between the items and behind the names. -/
structure Layout where
  comma : List Char
  colon : List Char

/-- Without blanks. -/
def Layout.compact : Layout := ⟨[','], [':']⟩

/-- With a blank behind each comma and colon. -/
def Layout.spaced : Layout := ⟨[',', ' '], [':', ' ']⟩

/-- Fields in the order of their names. -/
def byName {α : Type} (fields : List (String × α)) : List (String × α) :=
  sortedBy (fun a b => decide (a.1 ≤ b.1)) fields

mutual

/-- The text of a value. -/
def valueText (layout : Layout) : Value → List Char
  | .null => "null".toList
  | .scalar s => scalarText s
  | .list items => '[' :: joined layout.comma (itemTexts layout items) ++ [']']
  | .object fields =>
    '\x7b' :: joined layout.comma
      ((byName (fieldTexts layout fields)).map (fun field => textText field.1 ++ layout.colon ++ field.2))
      ++ ['\x7d']

def itemTexts (layout : Layout) : List Value → List (List Char)
  | [] => []
  | v :: rest => valueText layout v :: itemTexts layout rest

def fieldTexts (layout : Layout) : List (String × Value) → List (String × List Char)
  | [] => []
  | (name, v) :: rest => (name, valueText layout v) :: fieldTexts layout rest

end

/-- The canonical text of a value. -/
def canonical (v : Value) : String := String.ofList (valueText .compact v)

end Folio.Json
