-- Which documents pass a filter. A filter is a test of one attribute, or it negates or joins other
-- filters; a list in none of these forms is refused.
import Folio.Failure
import Folio.Text.Glob
import Folio.Text.Pattern.Matcher
import Folio.Text.Token
import Folio.Value.Order

namespace Folio

namespace Failure

/-! ## Failures of evaluation -/

/-- The first item was asked for where there is none. -/
def noFirst : Failure := ⟨.badIndex, "list index out of range"⟩

/-- An item was asked for of something that has none. -/
def notIndexed (v : Value) : Failure :=
  ⟨.badType, "'" ++ v.kindName ++ "' object is not subscriptable"⟩

/-- An object has no field of that number. -/
def noField (n : Nat) : Failure := ⟨.missingKey, toString n⟩

/-- A test needs exactly three parts. -/
def tooFewParts (n : Nat) : Failure :=
  ⟨.badValue, "not enough values to unpack (expected 3, got " ++ toString n ++ ")"⟩

def tooManyParts : Failure := ⟨.badValue, "too many values to unpack (expected 3)"⟩

/-- A value with parts cannot be looked up. -/
def noKey (v : Value) : Failure := ⟨.badType, "unhashable type: '" ++ v.kindName ++ "'"⟩

def unordered (u : Unordered) : Failure := ⟨.badType, u.message⟩

/-- Only a text can be looked for in a text. -/
def notInText (v : Value) : Failure :=
  ⟨.badType, "'in <string>' requires string as left operand, not " ++ v.kindName⟩

/-- Membership was asked for in something without members. -/
def noMembers (v : Value) : Failure :=
  ⟨.badType, "argument of type '" ++ v.kindName ++ "' is not iterable"⟩

def notIterable (v : Value) : Failure :=
  ⟨.badType, "'" ++ v.kindName ++ "' object is not iterable"⟩

/-- A value that was taken for an object. -/
def noMethod (v : Value) (name : String) : Failure :=
  ⟨.noMember, "'" ++ v.kindName ++ "' object has no attribute '" ++ name ++ "'"⟩

/-- A pattern that cannot be read. -/
def ofRefusal (pattern : List Char) (r : Text.Pattern.Refusal) : Failure :=
  let kind := match r with
    | .tooManyRepeats | .tooLargeCode => .overflow
    | .tooManyFigures _ | .mixedScripts => .badValue
    | _ => .badPattern
  ⟨kind, r.message pattern⟩

/-- A match in which a group ends before it starts. -/
def tornGroup : Failure :=
  ⟨.internal, "The span of capturing group is wrong, please report a bug for the re module."⟩

def unsupportedOperator (op : Value) : Failure :=
  ⟨.badValue, "400 Bad Request: unsupported filter operator '" ++ op.shown ++ "'"⟩

end Failure

namespace Collection

/-- The value of an attribute, null when there is none. -/
def attributeOf (doc : Fields) (attr : Value) : Except Failure Value :=
  match attr with
  | .text name => .ok (doc.get name)
  | .null | .scalar _ => .ok .null
  | v => .error (.noKey v)

/-- The items of a list; any other value is its own only item, and null has none. -/
def itemsOf : Value → List Value
  | .list items => items
  | .null => []
  | v => [v]

/-- The relation that an ordering token asks for. -/
def relationOf? : String → Option Relation
  | "Lt" | "AnyLt" => some .less
  | "Lte" | "AnyLte" => some .atMost
  | "Gt" | "AnyGt" => some .more
  | "Gte" | "AnyGte" => some .atLeast
  | _ => none

/-- Values without an order do not stand in any relation. -/
def stands (v : Value) (r : Relation) (reference : Value) : Bool :=
  match v.compare r reference with
  | .ok b => b
  | .error _ => false

/-- Whether a value is one of those that a reference holds. -/
def memberOf (v reference : Value) : Except Failure Bool :=
  if !reference.isTrue then .ok false
  else match reference, v with
    | .list items, v => .ok (v.occursIn items)
    | .text whole, .text part => .ok (Text.occursIn part.toList whole.toList)
    | .text _, v => .error (.notInText v)
    | .object fields, .text name => .ok (Named.has fields name)
    | .object _, v => if v.isKey then .ok false else .error (.noKey v)
    | reference, _ => .error (.noMembers reference)

/-- Whether a glob stands for a text value. -/
def fitsGlob (v reference : Value) : Bool :=
  match v with
  | .text s => Text.globMatches reference.shown s
  | _ => false

/-- The same in small letters. -/
def fitsGlobAnyCase (v reference : Value) : Bool :=
  match v with
  | .text s =>
    Text.Glob.fits (Text.Glob.read (Character.lowerText reference.shown.toList))
      (Character.lowerText s.toList)
  | _ => false

/-- Whether a pattern is found in a text value. -/
def findsPattern (v reference : Value) : Except Failure Bool :=
  match v with
  | .text s =>
    let pattern := reference.shown.toList
    match Text.Pattern.compile pattern with
    | .ok program =>
      match program.firstMatch? s.toList with
      | some marks => if marks.isTorn then .error .tornGroup else .ok true
      | none => .ok false
    | .error r => .error (.ofRefusal pattern r)
  | _ => .ok false

/-- Whether all tokens of the reference are tokens of the value. -/
def holdsTokens (v reference : Value) : Bool :=
  let held := Text.tokens v
  (Text.tokens reference).all held.contains

/-- Whether the tokens of the reference follow each other in the value. -/
def holdsPhrase (v reference : Value) : Bool :=
  let wanted := Text.joined [' '] (Text.tokens reference)
  let held := Text.joined [' '] (Text.tokens v)
  !wanted.isEmpty && Text.occursIn (' ' :: wanted ++ [' ']) (' ' :: held ++ [' '])

/-- One test by its token. -/
def testValue (v : Value) (token : String) (reference : Value) : Except Failure Bool :=
  match token with
  | "Eq" => .ok (v.same reference)
  | "NotEq" => .ok (!v.same reference)
  | "In" => memberOf v reference
  | "NotIn" => (memberOf v reference).map (!·)
  | "Glob" => .ok (fitsGlob v reference)
  | "NotGlob" => .ok (!fitsGlob v reference)
  | "IGlob" => .ok (fitsGlobAnyCase v reference)
  | "NotIGlob" => .ok (!fitsGlobAnyCase v reference)
  | "Regex" => findsPattern v reference
  | "Contains" => .ok (reference.occursIn (itemsOf v))
  | "NotContains" => .ok (!reference.occursIn (itemsOf v))
  | "ContainsAny" => .ok ((itemsOf reference).any (·.occursIn (itemsOf v)))
  | "NotContainsAny" => .ok (!(itemsOf reference).any (·.occursIn (itemsOf v)))
  | "ContainsAllTokens" => .ok (holdsTokens v reference)
  | "ContainsTokenSequence" => .ok (holdsPhrase v reference)
  | "Lt" | "Lte" | "Gt" | "Gte" =>
    .ok (!v.isNull && match relationOf? token with
      | some r => stands v r reference
      | none => false)
  | "AnyLt" | "AnyLte" | "AnyGt" | "AnyGte" =>
    .ok ((itemsOf v).any (fun item => match relationOf? token with
      | some r => stands item r reference
      | none => false))
  | _ => .error (.unsupportedOperator (.text token))

/-- The test that three parts make. -/
def passesTest (doc : Fields) (attr op reference : Value) : Except Failure Bool := do
  let v ← attributeOf doc attr
  match op with
  | .text token => testValue v token reference
  | op => throw (.unsupportedOperator op)

/-- Lists that join no filters have to be tests. -/
def passesParts (doc : Fields) : List Value → Except Failure Bool
  | [] => .error .noFirst
  | [attr, op, reference] => passesTest doc attr op reference
  | parts => .error (if parts.length < 3 then .tooFewParts parts.length else .tooManyParts)

mutual

/-- Whether a document passes a filter. -/
def passes (doc : Fields) : Value → Except Failure Bool
  | .null => .ok true
  | .list [.text "And", .list filters] => passesAll doc filters
  | .list [.text "Or", .list filters] => passesAny doc filters
  | .list [.text "Not", filter] => (passes doc filter).map (!·)
  | .list parts => passesParts doc parts
  | .text s =>
    if s == "" then .error ⟨.badIndex, "string index out of range"⟩
    else passesParts doc (s.toList.map (fun c => .text (String.singleton c)))
  | .object _ => .error (.noField 0)
  | v => .error (.notIndexed v)

/-- Whether it passes all; the first that it does not pass decides. -/
def passesAll (doc : Fields) : List Value → Except Failure Bool
  | [] => .ok true
  | filter :: rest => do
    if ← passes doc filter then passesAll doc rest else return false

/-- Whether it passes any; the first that it passes decides. -/
def passesAny (doc : Fields) : List Value → Except Failure Bool
  | [] => .ok false
  | filter :: rest => do
    if ← passes doc filter then return true else passesAny doc rest

end

/-- The documents that pass, in their order. -/
def select (filter : Value) : List Fields → Except Failure (List Fields)
  | [] => .ok []
  | doc :: rest => do
    let kept ← passes doc filter
    let others ← select filter rest
    return if kept then doc :: others else others

end Collection

end Folio
