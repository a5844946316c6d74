-- Operands: the values that filters compare with. An operand is nothing, one scalar or a list of
-- scalars; its kind can be read off it.
import Folio.Intake.Readers
import Folio.Value.Text

namespace Folio

/-- The value that a filter compares with. -/
inductive Operand where
  | nothing
  | one (s : Scalar)
  | many (items : List Scalar)
  deriving DecidableEq, Inhabited

/-- The kinds of operands. -/
inductive OperandKind where
  | text
  | number
  | flag
  | array
  | nothing
  deriving DecidableEq

namespace OperandKind

def all : List OperandKind := [text, number, flag, array, nothing]

def name : OperandKind → String
  | text => "string"
  | number => "number"
  | flag => "boolean"
  | array => "array"
  | nothing => "null"

def ofName? (name : String) : Option OperandKind := all.find? (·.name == name)

end OperandKind

/-- The kind of operand that a scalar makes. -/
def Scalar.operandKind : Scalar → OperandKind
  | .text _ => .text
  | .int _ | .float _ => .number
  | .flag _ => .flag

/-- A scalar as readers see it; truth is written small. -/
def Scalar.display : Scalar → String
  | .flag b => if b then "true" else "false"
  | s => s.shown

def Value.scalar? : Value → Option Scalar
  | .scalar s => some s
  | _ => none

namespace Operand

def kind : Operand → OperandKind
  | nothing => .nothing
  | one s => s.operandKind
  | many _ => .array

/-- The operand as a value of a request. -/
def toValue : Operand → Value
  | nothing => .null
  | one s => .scalar s
  | many items => .list (items.map .scalar)

/-- The first item of a list, and a scalar itself. -/
def first : Operand → Value
  | many (s :: _) => .scalar s
  | many [] => .null
  | operand => operand.toValue

/-- The items of a list, and a scalar as the only item. -/
def items : Operand → List Value
  | many items => items.map .scalar
  | operand => [operand.toValue]

def isArray : Operand → Bool
  | many _ => true
  | _ => false

/-- The operand as readers see it; of a list only three items are shown. -/
def display : Operand → String
  | nothing => "null"
  | one s => s.display
  | many items =>
    let shown := ", ".intercalate ((items.take 3).map Scalar.display)
    if items.length > 3 then "[" ++ shown ++ ", ...]" else "[" ++ shown ++ "]"

/-- The operand that a value makes, if it makes one. -/
def ofValue? : Value → Option Operand
  | .null => some nothing
  | .scalar s => some (one s)
  | .list items => (items.mapM Value.scalar?).map many
  | .object _ => none

/-- The operand that a value makes, if it is of the given kind. -/
def ofKind? (kind : OperandKind) (data : Value) : Option Operand :=
  (ofValue? data).filter (·.kind == kind)

/-- An operand with its kind spelled out, as it is stored. -/
def record (operand : Operand) : Value :=
  .object [("kind", .text operand.kind.name), ("data", operand.toValue)]

/-- Reads an operand and the kind it is said to have. -/
def read : Reader Operand := Reader.object fun fields =>
  let given := Checked.both
    ((fields.needed "kind" (Reader.word OperandKind.ofName?)).map Prod.mk)
    (fields.optional "data" .null Reader.any)
  given.andThen fun (kind, data) =>
    match ofKind? kind data with
    | some operand => .sound operand
    | none =>
      .flawed [⟨none, some ("data " ++ data.quoted ++ " does not match kind '" ++ kind.name ++ "'")⟩]

end Operand

end Folio
