-- Why a filter cannot be made.
import Folio.Filter.Operator

namespace Folio

/-- Why a filter is refused. -/
inductive FilterFault where
  | unknownOperator (name : String)
  | noAttribute
  /-- The operator does not fit the type of the attribute. -/
  | unfitOperator (attr type : String) (op : Operator)
  /-- The value has parts where a scalar is needed; it is given as text. -/
  | unsupportedValue (quoted : String)
  /-- The text is none of the type's. -/
  | unreadable (raw type : String)
  | notBoolean (raw : String)
  /-- Nothing to compare with. -/
  | noValues (op : Operator)
  deriving DecidableEq

namespace FilterFault

/-- The code under which a refusal is reported. -/
def code : FilterFault → String
  | unknownOperator _ | noAttribute => "filter_error"
  | unfitOperator _ _ _ => "invalid_operator"
  | _ => "invalid_value"

/-- The family of a refusal. -/
def family : FilterFault → String
  | unknownOperator _ | noAttribute => "FilterError"
  | unfitOperator _ _ _ => "InvalidOperatorForType"
  | _ => "ValueCoercionError"

def message : FilterFault → String
  | unknownOperator name => "unknown operator '" ++ name ++ "'"
  | noAttribute => "attribute required"
  | unfitOperator attr type op =>
    "operator '" ++ op.name ++ "' is not valid for attribute '" ++ attr ++ "' of type '"
      ++ type ++ "'"
  | unsupportedValue quoted => "unsupported value " ++ quoted
  | unreadable raw type => "'" ++ raw ++ "' is not a valid " ++ type
  | notBoolean raw => "'" ++ raw ++ "' is not a valid boolean"
  | noValues op => "operator '" ++ op.name ++ "' needs at least one value"

end FilterFault

end Folio
