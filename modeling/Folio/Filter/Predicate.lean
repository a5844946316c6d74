-- Filters on one attribute. A filter is made for the type that the attribute has at that time; if
-- the attribute is not known yet it is taken for text, and the filter is made anew once the type
-- is known.
import Folio.Filter.Attribute
import Folio.Filter.Coercion

namespace Folio

/-- A filter on one attribute. -/
structure Predicate where
  id : String
  attr : String
  attrType : String
  /-- The attribute was not known, and its type is a guess. -/
  typeAssumed : Bool
  operator : Operator
  operand : Operand
  display : String
  deriving DecidableEq

namespace Predicate

/-- What identifies a filter apart from its id. -/
def triple (p : Predicate) : String × Operator × Operand := (p.attr, p.operator, p.operand)

def tripleValue (p : Predicate) : Value :=
  .list [.text p.attr, .text p.operator.name, p.operand.toValue]

def toValue (p : Predicate) : Value := .object [
  ("id", .text p.id),
  ("attribute", .text p.attr),
  ("attribute_type", .text p.attrType),
  ("type_assumed", .flag p.typeAssumed),
  ("operator", .text p.operator.name),
  ("value", p.operand.record),
  ("display_value", .text p.display)]

def read : Reader Predicate := Reader.object fun fields =>
  mk <$> fields.needed "id" Reader.text
    <*> fields.needed "attribute" Reader.name
    <*> fields.optional "attribute_type" "string" Reader.text
    <*> fields.optional "type_assumed" false Reader.flag
    <*> fields.needed "operator" (Reader.word Operator.ofName?)
    <*> fields.needed "value" Operand.read
    <*> fields.optional "display_value" "" Reader.text

/-- The type that attributes have until they are known. -/
def assumedType : String := "string"

/-- The operand for an operator, which has to fit the type and to get something to compare with. -/
def operandFor (attr : String) (op : Operator) (raw : Value) (type : String) :
    Except FilterFault Operand := do
  if !FieldType.allows (some type) true op then throw (.unfitOperator attr type op)
  let operand ← coerce op raw (some type)
  if op.takesMany && operand.items.isEmpty then throw (.noValues op)
  return operand

/-- Makes a filter for an operator that is known. -/
def build (id attr : String) (op : Operator) (raw : Value) (registry : Registry) :
    Except FilterFault Predicate := do
  if attr == "" then throw .noAttribute
  let known := registry.typeOf? attr
  let type := known.getD assumedType
  let operand ← operandFor attr op raw type
  return ⟨id, attr, type, known.isNone, op, operand, operand.display⟩

/-- Makes a filter. -/
def make (id attr operator : String) (raw : Value) (registry : Registry) :
    Except FilterFault Predicate :=
  match Operator.ofName? operator with
  | some op => build id attr op raw registry
  | none => .error (.unknownOperator operator)

/-- Makes a filter in the place of another one. -/
def replace (existing : Predicate) (attr operator : String) (raw : Value)
    (registry : Registry) : Except FilterFault Predicate :=
  make existing.id attr operator raw registry

/-- Makes a filter with a guessed type anew when the type is known. A filter that does not fit
the type is left as it is. -/
def retype (p : Predicate) (registry : Registry) : Predicate :=
  if p.typeAssumed && registry.has p.attr then
    match build p.id p.attr p.operator p.operand.toValue registry with
    | .ok q => q
    | .error _ => p
  else p

end Predicate

/-! ## Descriptions -/

/-- One line for readers: the search text and the filters. -/
def describeFilters (predicates : List Predicate) (searchText : String) : String :=
  let text := String.ofList (Text.trimmed searchText.toList)
  let search := if text == "" then [] else ["Search: \"" ++ text ++ "\""]
  let filters := predicates.map fun p =>
    let shown := if p.display == "" then p.operand.toValue.shown else p.display
    p.attr ++ " " ++ p.operator.label ++ " " ++ shown
  match search ++ filters with
  | [] => "No filters"
  | parts => " AND ".intercalate parts

end Folio
