-- The operators of filters: their names, their tokens in requests and their labels for readers.
namespace Folio

/-- What a filter asks about an attribute. -/
inductive Operator where
  | equals
  | notEquals
  | greater
  | greaterOrEqual
  | less
  | lessOrEqual
  | isIn
  | notIn
  | contains
  | fits
  | notFits
  | fitsAnyCase
  | notFitsAnyCase
  | pattern
  | anyLess
  | anyLessOrEqual
  | anyGreater
  | anyGreaterOrEqual
  | arrayContains
  | notArrayContains
  | containsAny
  | notContainsAny
  | containsAllTokens
  | containsTokenSequence
  deriving DecidableEq

namespace Operator

def all : List Operator := [
  equals, notEquals, greater, greaterOrEqual, less, lessOrEqual, isIn, notIn, contains, fits,
  notFits, fitsAnyCase, notFitsAnyCase, pattern, anyLess, anyLessOrEqual, anyGreater,
  anyGreaterOrEqual, arrayContains, notArrayContains, containsAny, notContainsAny,
  containsAllTokens, containsTokenSequence]

/-- The name by which an operator is chosen. -/
def name : Operator → String
  | equals => "equals"
  | notEquals => "not_equals"
  | greater => "greater"
  | greaterOrEqual => "greater_or_equal"
  | less => "less"
  | lessOrEqual => "less_or_equal"
  | isIn => "in"
  | notIn => "not_in"
  | contains => "contains"
  | fits => "matches"
  | notFits => "not_matches"
  | fitsAnyCase => "imatches"
  | notFitsAnyCase => "not_imatches"
  | pattern => "regex"
  | anyLess => "any_lt"
  | anyLessOrEqual => "any_lte"
  | anyGreater => "any_gt"
  | anyGreaterOrEqual => "any_gte"
  | arrayContains => "array_contains"
  | notArrayContains => "not_array_contains"
  | containsAny => "contains_any"
  | notContainsAny => "not_contains_any"
  | containsAllTokens => "contains_all_tokens"
  | containsTokenSequence => "contains_token_sequence"

def ofName? (name : String) : Option Operator := all.find? (·.name == name)

/-- The token of an operator in a request. -/
def token : Operator → String
  | equals => "Eq"
  | notEquals => "NotEq"
  | greater => "Gt"
  | greaterOrEqual => "Gte"
  | less => "Lt"
  | lessOrEqual => "Lte"
  | isIn => "In"
  | notIn => "NotIn"
  | contains | fits => "Glob"
  | notFits => "NotGlob"
  | fitsAnyCase => "IGlob"
  | notFitsAnyCase => "NotIGlob"
  | pattern => "Regex"
  | anyLess => "AnyLt"
  | anyLessOrEqual => "AnyLte"
  | anyGreater => "AnyGt"
  | anyGreaterOrEqual => "AnyGte"
  | arrayContains => "Contains"
  | notArrayContains => "NotContains"
  | containsAny => "ContainsAny"
  | notContainsAny => "NotContainsAny"
  | containsAllTokens => "ContainsAllTokens"
  | containsTokenSequence => "ContainsTokenSequence"

/-- The operator in a description for readers. -/
def label : Operator → String
  | equals => "="
  | notEquals => "!="
  | greater => ">"
  | greaterOrEqual => ">="
  | less => "<"
  | lessOrEqual => "<="
  | isIn => "in"
  | notIn => "not in"
  | contains => "contains"
  | fits => "matches"
  | notFits => "does not match"
  | fitsAnyCase => "matches (case-insensitive)"
  | notFitsAnyCase => "does not match (case-insensitive)"
  | pattern => "matches regex"
  | anyLess => "has any <"
  | anyLessOrEqual => "has any <="
  | anyGreater => "has any >"
  | anyGreaterOrEqual => "has any >="
  | arrayContains => "contains"
  | notArrayContains => "does not contain"
  | containsAny => "contains any of"
  | notContainsAny => "contains none of"
  | containsAllTokens => "contains all tokens"
  | containsTokenSequence => "contains phrase"

/-- Operators that compare with several values. -/
def takesMany : Operator → Bool
  | isIn | notIn | containsAny | notContainsAny => true
  | _ => false

/-- Operators on the tokens of a text. -/
def onTokens : Operator → Bool
  | containsAllTokens | containsTokenSequence => true
  | _ => false

/-! ## Families -/

def isEquality : Operator → Bool
  | equals | notEquals => true
  | _ => false

def isOrdering : Operator → Bool
  | greater | greaterOrEqual | less | lessOrEqual => true
  | _ => false

def isMembership : Operator → Bool
  | isIn | notIn => true
  | _ => false

def isPattern : Operator → Bool
  | contains | fits | notFits | fitsAnyCase | notFitsAnyCase | pattern => true
  | _ => false

def isContainment : Operator → Bool
  | arrayContains | notArrayContains | containsAny | notContainsAny => true
  | _ => false

/-- Operators that compare each item of a list. -/
def isOnItems : Operator → Bool
  | anyLess | anyLessOrEqual | anyGreater | anyGreaterOrEqual => true
  | _ => false

end Operator

end Folio
