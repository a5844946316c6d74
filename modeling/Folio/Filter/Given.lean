-- Filters made of parts of any kind, as programs may give them. The operator is looked at first,
-- then the attribute and the value; that the id and the attribute are texts is checked last.
import Folio.Collection.Filter
import Folio.Fault
import Folio.Filter.Predicate

namespace Folio

/-- The operator that a value names. -/
def Operator.ofValue (v : Value) : Except Failure Operator :=
  match v.text?.bind Operator.ofName? with
  | some op => .ok op
  | none => .error ⟨.badValue, v.quoted ++ " is not a valid OperatorKind"⟩

namespace Predicate

/-- Makes a filter of parts of any kind. Nothing is known about an attribute whose name is no text,
and what could be no key cannot be looked up. -/
def ofParts (id attr operator raw : Value) (registry : Option Registry) :
    Except Fault Predicate := do
  let some op := operator.text?.bind Operator.ofName?
    | throw (.filter (.unknownOperator operator.shown))
  if !attr.isTrue then throw (.filter .noAttribute)
  if registry.isSome && !attr.isKey then throw (.failure (.noKey attr))
  let known := attr.text?.bind fun name => registry.bind (·.typeOf? name)
  let type := known.getD assumedType
  let operand ← (operandFor attr.shown op raw type).mapError Fault.filter
  Checked.orFault ((fun id attr => mk id attr type known.isNone op operand operand.display)
    <$> (Reader.text id).within "id" <*> (Reader.text attr).within "attribute")

end Predicate

end Folio
