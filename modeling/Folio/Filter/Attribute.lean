-- What is known about the attributes of a collection: the type of each, whether full-text search
-- covers it, and what the documents seen so far say about it.
import Folio.Character.Lower
import Folio.Filter.FieldType
import Folio.Intake.Readers

namespace Folio

/-- What is known about one attribute. -/
structure Attribute where
  name : String
  type : String
  fullText : Bool
  /-- The number of documents with the attribute. -/
  frequency : Int
  /-- The number of documents looked at. -/
  total : Int
  samples : List Value
  /-- The least and the greatest number, if there are numbers. -/
  range : Option (Float × Float)

namespace Attribute

/-- An attribute of which only the declaration is known. -/
def declared (name type : String) (fullText : Bool) : Attribute :=
  ⟨name, type, fullText, 0, 0, [], none⟩

def toValue (a : Attribute) : Value := .object [
  ("name", .text a.name),
  ("type", .text a.type),
  ("is_full_text_enabled", .flag a.fullText),
  ("frequency", .int a.frequency),
  ("total_documents", .int a.total),
  ("sample_values", .list a.samples),
  ("value_range", .ofOption (fun (low, high) => .list [.float low, .float high]) a.range)]

def read : Reader Attribute := Reader.object fun fields =>
  mk <$> fields.needed "name" Reader.text
    <*> fields.optional "type" "string" Reader.text
    <*> fields.optional "is_full_text_enabled" false Reader.flag
    <*> fields.optional "frequency" 0 Reader.whole
    <*> fields.optional "total_documents" 0 Reader.whole
    <*> fields.optional "sample_values" [] (Reader.listOf Reader.any)
    <*> fields.optional "value_range" none (Reader.nullable (Reader.pair Reader.number))

end Attribute

/-- The attributes of a collection, each name once, in the order in which they became known. -/
structure Registry where
  attributes : List Attribute

namespace Registry

def empty : Registry := ⟨[]⟩

def get? (r : Registry) (name : String) : Option Attribute :=
  r.attributes.find? (·.name == name)

def typeOf? (r : Registry) (name : String) : Option String := (r.get? name).map (·.type)

def has (r : Registry) (name : String) : Bool := (r.get? name).isSome

def names (r : Registry) : List String := r.attributes.map (·.name)

def size (r : Registry) : Nat := r.attributes.length

/-- Puts an attribute in the place of the one of its name, or behind all others. -/
def put (r : Registry) (a : Attribute) : Registry :=
  if r.has a.name then
    ⟨r.attributes.map (fun b => if b.name == a.name then a else b)⟩
  else ⟨r.attributes ++ [a]⟩

def ofList (attributes : List Attribute) : Registry := attributes.foldl put empty

/-- Puts an attribute that has been found. What is known about full-text search is kept, since
documents do not show it. -/
def learn (r : Registry) (a : Attribute) : Registry :=
  match r.get? a.name with
  | some known => r.put (if known.fullText then { a with fullText := true } else a)
  | none => r.put a

def merge (r : Registry) (found : List Attribute) : Registry := found.foldl learn r

/-- Names of attributes that hold keys and times rather than text. -/
def keyNames : List String := ["id", "uuid", "key", "created_at", "updated_at"]

def isKeyName (name : String) : Bool :=
  keyNames.contains (String.ofList (Character.lowerText name.toList))

/-- The attributes that full-text search may look at: those said to take part, and if there are
none, all of text that hold no keys. -/
def fullTextCandidates (r : Registry) : List String :=
  let said := r.attributes.filter (·.fullText)
  if !said.isEmpty then said.map (·.name)
  else
    (r.attributes.filter (fun a =>
      (a.type == "string" || a.type == "[]string") && !isKeyName a.name)).map (·.name)

end Registry

end Folio
