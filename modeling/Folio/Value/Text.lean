-- The text of a value. A text by itself stands as it is; inside a list or an object it stands
-- between quotes.
import Folio.Number.Decimal
import Folio.Text.Quoted
import Folio.Text.Words
import Folio.Value.Basic

namespace Folio

open Folio.Text

def flagText (b : Bool) : List Char := (if b then "True" else "False").toList

/-- A scalar as it stands inside a list. -/
def Scalar.quoted : Scalar → List Char
  | .text s => Text.quoted s.toList
  | .int n => Number.wholeText n
  | .float x => Number.floatText x
  | .flag b => flagText b

/-- The text of a scalar. -/
def Scalar.shown : Scalar → String
  | .text s => s
  | a => String.ofList a.quoted

namespace Value

mutual

/-- A value as it stands inside a list. -/
def quotedText : Value → List Char
  | .null => "None".toList
  | .scalar s => s.quoted
  | .list items => '[' :: joined ", ".toList (itemTexts items) ++ [']']
  | .object fields => '\x7b' :: joined ", ".toList (fieldTexts fields) ++ ['\x7d']

def itemTexts : List Value → List (List Char)
  | [] => []
  | v :: rest => quotedText v :: itemTexts rest

def fieldTexts : List (String × Value) → List (List Char)
  | [] => []
  | (name, v) :: rest => (Text.quoted name.toList ++ ": ".toList ++ quotedText v) :: fieldTexts rest

end

/-- The value between quotes, where it needs them. -/
def quoted (v : Value) : String := String.ofList v.quotedText

/-- The text of a value. -/
def shown : Value → String
  | .text s => s
  | v => v.quoted

end Value

end Folio
