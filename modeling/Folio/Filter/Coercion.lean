-- From free-form input to operands. A text is read by the type of the attribute, other scalars
-- stand as they are, and operators that compare with several values take a list or a text with
-- commas.
import Folio.Character.Lower
import Folio.Filter.Fault
import Folio.Filter.FieldType
import Folio.Filter.Operand

namespace Folio

open Folio.Text

/-- Whether a text has the form of a whole number: digits of any script behind one sign or none. -/
def isWholeText (text : List Char) : Bool :=
  let figures := (Number.signOf text).2
  !figures.isEmpty && figures.all Character.isDecimal

def trueWords : List String := ["true", "1", "yes"]

def falseWords : List String := ["false", "0", "no"]

/-- Reads the text of a number. A whole number is read exactly, whatever the type. -/
def readNumber? (type : FieldType) (text : List Char) : Option Scalar :=
  if isWholeText text then (Number.readWhole? text).map .int
  else if type.isWhole then none
  else (Number.readFloat? text).map .float

/-- Reads a text by the type of one item. -/
def parseText (raw : String) (type : FieldType) : Except FilterFault (Option Scalar) :=
  let text := trimmed raw.toList
  let small := String.ofList (Character.lowerText text)
  if small == "null" then .ok none
  else if type.isNumeric then
    match readNumber? type text with
    | some s => .ok (some s)
    | none => .error (.unreadable raw (type.getD "None"))
  else if type.isBoolean then
    if trueWords.contains small then .ok (some (.flag true))
    else if falseWords.contains small then .ok (some (.flag false))
    else .error (.notBoolean raw)
  else .ok (some (.text raw))

/-- Reads one input by the type of the attribute, or of its items; none stands for null. -/
def parseScalar (raw : Value) (type : FieldType) : Except FilterFault (Option Scalar) :=
  match raw with
  | .null => .ok none
  | .text s => parseText s (if type.isArray then type.element else type)
  | .scalar s => .ok (some s)
  | v => .error (.unsupportedValue v.quoted)

/-- The operand of one input. -/
def parseOperand (raw : Value) (type : FieldType) : Except FilterFault Operand :=
  (parseScalar raw type).map fun
    | some s => .one s
    | none => .nothing

/-- Reads the inputs one by one, leaving nulls out. -/
def parseItems (type : FieldType) : List Value → Except FilterFault (List Scalar)
  | [] => .ok []
  | raw :: rest => do
    let first ← parseScalar raw type
    let others ← parseItems type rest
    return first.toList ++ others

/-- The items of a text with commas, without blanks around them and without empty ones. -/
def commaItems (text : String) : List Value :=
  (((pieces ',' text.toList).map trimmed).filter (!·.isEmpty)).map (fun t => .text (String.ofList t))

/-- The inputs that a raw value holds for an operator; none if it stands for one input. -/
def inputs? (op : Operator) : Value → Option (List Value)
  | .list items => some items
  | raw => if op.takesMany then some (commaItems raw.shown) else none

/-- The operand that an operator makes of a raw value. -/
def coerce (op : Operator) (raw : Value) (type : FieldType) : Except FilterFault Operand :=
  match inputs? op raw with
  | some items => (parseItems type items).map .many
  | none => parseOperand raw type

end Folio
