-- The types of attributes, as a schema spells them, and the operators that fit each type.
import Folio.Filter.Operator

namespace Folio

/-- The type of an attribute as the schema spells it, or none when no type is known. -/
abbrev FieldType := Option String

namespace FieldType

def startsWith (word : String) (type : String) : Bool := word.toList.isPrefixOf type.toList

/-- Types of lists: the one without an item type, and those spelled with brackets. -/
def isArray : FieldType → Bool
  | some t => t == "array" || startsWith "[]" t
  | none => false

/-- The type of the items of a list; a type that is none of a list stands for itself. -/
def element : FieldType → FieldType
  | some t =>
    if startsWith "[]" t then some (String.ofList (t.toList.drop 2))
    else if t == "array" then none
    else some t
  | none => none

/-- Numbers, or lists of numbers. -/
def isNumeric (type : FieldType) : Bool :=
  match type.element with
  | some t => t == "number" || startsWith "int" t || startsWith "uint" t || startsWith "float" t
  | none => false

/-- Whole numbers alone. -/
def isWhole : FieldType → Bool
  | some t => startsWith "int" t || startsWith "uint" t
  | none => false

/-- Truth values, or lists of them. -/
def isBoolean (type : FieldType) : Bool :=
  type.element == some "bool" || type.element == some "boolean"

/-- Whether an operator fits a type. Token operators need a text attribute that takes part in
full-text search. -/
def allows (type : FieldType) (fullText : Bool) (op : Operator) : Bool :=
  if type.isArray then
    op.isContainment || op.isEquality || op == .contains || (type.isNumeric && op.isOnItems)
  else if type.isNumeric then op.isEquality || op.isOrdering || op.isMembership
  else if type.isBoolean then op.isEquality || op.isMembership
  else
    op.isEquality || op.isOrdering || op.isMembership || op.isPattern
      || (fullText && op.onTokens)

/-- The operators that fit a type. -/
def operators (type : FieldType) (fullText : Bool) : List Operator :=
  Operator.all.filter (type.allows fullText)

end FieldType

end Folio
