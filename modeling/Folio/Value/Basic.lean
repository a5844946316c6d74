-- The values that documents, filters and requests are made of: nothing, a scalar, a list or an
-- object. The fields of an object keep the order in which they were first put there.
import Folio.Named

namespace Folio

/-- A value without parts. -/
inductive Scalar where
  | text (s : String)
  | int (n : Int)
  | float (x : Float)
  | flag (b : Bool)
  deriving DecidableEq, Inhabited

/-- A value of any shape. -/
inductive Value where
  | null
  | scalar (s : Scalar)
  | list (items : List Value)
  | object (fields : List (String × Value))
  deriving Inhabited

/-- The named values of an object. -/
abbrev Fields := Named Value

namespace Value

@[match_pattern] abbrev text (s : String) : Value := .scalar (.text s)
@[match_pattern] abbrev int (n : Int) : Value := .scalar (.int n)
@[match_pattern] abbrev float (x : Float) : Value := .scalar (.float x)
@[match_pattern] abbrev flag (b : Bool) : Value := .scalar (.flag b)

/-- A value that may be missing. -/
def ofOption {α : Type} (view : α → Value) : Option α → Value
  | some a => view a
  | none => .null

def nat (n : Nat) : Value := .int n

def texts (items : List String) : Value := .list (items.map .text)

def isNull : Value → Bool
  | .null => true
  | _ => false

/-- The items of a list. -/
def items? : Value → Option (List Value)
  | .list items => some items
  | _ => none

/-- The fields of an object. -/
def fields? : Value → Option Fields
  | .object fields => some fields
  | _ => none

def text? : Value → Option String
  | .text s => some s
  | _ => none

end Value

/-- The name of a kind of scalar. -/
def Scalar.kindName : Scalar → String
  | .text _ => "str"
  | .int _ => "int"
  | .float _ => "float"
  | .flag _ => "bool"

/-- The name of a kind of value. -/
def Value.kindName : Value → String
  | .null => "NoneType"
  | .scalar s => s.kindName
  | .list _ => "list"
  | .object _ => "dict"

/-- The value under a name, null when there is none. -/
def Fields.get (fields : Fields) (name : String) : Value := (fields.get? name).getD .null

end Folio
