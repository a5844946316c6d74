-- Values without numbers that are not finite, for which JSON has no words of its own.
import Folio.Number.Magnitude
import Folio.Value.Basic

namespace Folio

/-- Null in the place of a number that is not finite. -/
def Scalar.finite : Scalar → Value
  | .float x =>
    match Number.magnitude x with
    | .finite _ => .float x
    | _ => .null
  | a => .scalar a

namespace Value

mutual

/-- Null in the place of every number that is not finite. -/
def finite : Value → Value
  | .null => .null
  | .scalar a => a.finite
  | .list items => .list (finiteItems items)
  | .object fields => .object (finiteFields fields)

def finiteItems : List Value → List Value
  | [] => []
  | v :: rest => finite v :: finiteItems rest

def finiteFields : List (String × Value) → List (String × Value)
  | [] => []
  | (name, v) :: rest => (name, finite v) :: finiteFields rest

end

end Value

end Folio
