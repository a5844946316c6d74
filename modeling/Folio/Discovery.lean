-- What documents and schemas tell about attributes.
import Folio.Collection.Sort
import Folio.Collection.Filter
import Folio.Fault
import Folio.Filter.Attribute
import Folio.Json.Writer
import Folio.Limit

namespace Folio.Discovery

/-! ## Types of values -/

/-- Whether a text starts with a date: four digits, two and two, with dashes between them. -/
def startsWithDate (text : List Char) : Bool :=
  text.length ≥ 10 && ((text.take 10).zipIdx.all (fun (c, i) =>
    if i == 4 || i == 7 then c == '-' else Character.isDecimal c))

def isWhole : Value → Bool
  | .int _ => true
  | _ => false

def isNumber : Value → Bool
  | .int _ | .float _ => true
  | _ => false

def isFlag : Value → Bool
  | .flag _ => true
  | _ => false

def isText : Value → Bool
  | .text _ => true
  | _ => false

/-- The type of a list by its items. -/
def arrayType (items : List Value) : String :=
  if items.isEmpty then "array"
  else if items.all isFlag then "[]bool"
  else if items.all isWhole then "[]int32"
  else if items.all isNumber then "[]float64"
  else if items.all isText then "[]string"
  else "array"

/-- The type of a value; null has none. -/
def typeOf? : Value → Option String
  | .null => none
  | .flag _ => some "boolean"
  | .int _ | .float _ => some "number"
  | .text s => some (if startsWithDate s.toList then "date" else "string")
  | .list items => some (arrayType items)
  | .object _ => some "object"

/-! ## Documents -/

/-- Fields of every document that are no attributes. -/
def reserved : List String := ["id", "vector", "$dist", "attributes"]

/-- The most different scalars that are remembered, and how many of them are shown. -/
def uniqueLimit : Nat := 100

def scalarSampleLimit : Nat := 20

/-- The attributes of a document: those in a field of their own, if there are any, or else the
fields themselves. -/
def attributesOf (doc : Fields) : Fields :=
  match doc.get "attributes" with
  | .object (first :: rest) => (first :: rest).filter (fun field => !reserved.contains field.1)
  | _ => doc.filter (fun field => !reserved.contains field.1)

/-- What has been seen of an attribute. -/
structure Evidence where
  type : Option String
  frequency : Nat
  /-- Different scalars and objects, each with the text that identifies it. -/
  uniques : Fields
  /-- Different items of lists. -/
  elements : Fields
  numbers : List Value

def Evidence.none : Evidence := ⟨Option.none, 0, [], [], []⟩

/-- The text that identifies a value. -/
def identity (v : Value) : String := String.ofList (Json.valueText .spaced v)

def addUnique (seen : Fields) (v : Value) : Fields :=
  if seen.has (identity v) then seen else seen ++ [(identity v, v)]

/-- Takes one value into account. -/
def Evidence.add (e : Evidence) (v : Value) : Evidence :=
  let e := { e with frequency := e.frequency + 1, type := (typeOf? v).or e.type }
  match v with
  | .list items => { e with elements := (items.filter (!·.isNull)).foldl addUnique e.elements }
  | .null => e
  | v =>
    { e with
      uniques := if e.uniques.length < uniqueLimit then addUnique e.uniques v else e.uniques
      numbers := if isNumber v then e.numbers ++ [v] else e.numbers }

/-- Adds a value to what has been seen of its attribute. -/
def note (known : Named Evidence) (name : String) (v : Value) : Named Evidence :=
  known.put name (((known.get? name).getD .none).add v)

/-- All that documents tell about attributes. -/
def evidence (docs : List Fields) : Named Evidence :=
  docs.foldl (fun known doc =>
    (attributesOf doc).foldl (fun known field => note known field.1 field.2) known) []

/-- Whether one value stands before another; values without an order do not. -/
def before (a b : Value) : Except Empty Bool := .ok (Collection.stands a .less b)

def textBefore (a b : Value) : Except Empty Bool := .ok (decide (a.shown < b.shown))

/-- Numbers by value, and mixed samples by their texts. -/
def sortSamples (items : List Value) : List Value :=
  match Collection.sortBy (if items.all isNumber then before else textBefore) items with
  | .ok sorted => sorted

/-- The first value that no other is better than. -/
def best (better : Value → Value → Bool) : List Value → Option Value
  | [] => none
  | v :: rest => some (rest.foldl (fun a b => if better b a then b else a) v)

/-- The least and the greatest number. -/
def rangeOf (numbers : List Value) : Checked (Option (Float × Float)) :=
  match best (fun a b => Collection.stands a .less b) numbers,
    best (fun a b => Collection.stands a .more b) numbers with
  | some low, some high =>
    (Reader.pair Reader.number (.list [low, high])).map some |>.within "value_range"
  | _, _ => .sound none

/-- An attribute from what has been seen of it. -/
def Evidence.attribute (e : Evidence) (name : String) (total : Nat) (limit : Int) :
    Checked Attribute :=
  let samples := if e.elements.isEmpty then (e.uniques.map (·.2)).take scalarSampleLimit
    else upTo limit (sortSamples (e.elements.map (·.2)))
  (rangeOf e.numbers).map fun range =>
    ⟨name, e.type.getD "string", false, e.frequency, total, samples, range⟩

/-- The attributes that documents show, by name. -/
def ofDocuments (docs : List Fields) (limit : Int) : Checked (List Attribute) :=
  let known := sortedBy (fun a b => decide (a.1 ≤ b.1)) (evidence docs)
  known.foldr (fun (name, e) rest =>
    (e.attribute name docs.length limit).andThen fun a => rest.map (a :: ·)) (.sound [])

/-- The attributes that rows show, all of which have to be documents. -/
def ofRows (rows : List Value) (limit : Int) : Except Fault (List Attribute) := do
  let docs ← rows.mapM fun
    | .object fields => .ok fields
    | v => .error (Fault.failure (.noMethod v "get"))
  (ofDocuments docs limit).orFault

/-! ## Schemas -/

/-- An attribute as a schema declares it. -/
def declaration (name : String) (spec : Value) : Except Failure Attribute :=
  if !spec.isTrue then .ok (.declared name "string" false)
  else match spec with
    | .object fields =>
      let type := Fields.get fields "type"
      .ok (.declared name (if type.isTrue then type.shown else "string")
        (Fields.get fields "full_text_search").isTrue)
    | v => .error (.noMethod v "get")

/-- The declarations in the order of their names. -/
def declarations : List (String × Value) → Except Failure (List Attribute)
  | [] => .ok []
  | (name, spec) :: rest => do
    if name == "$dist" || name == "attributes" then declarations rest
    else
      let first ← declaration name spec
      let others ← declarations rest
      return first :: others

/-- The attributes that a schema declares, by name. -/
def ofSchema (schema : Value) : Except Failure (List Attribute) :=
  match schema with
  | .object fields => declarations (sortedBy (fun a b => decide (a.1 ≤ b.1)) fields)
  | v => .error (.noMethod v "items")

/-- The schema that documents themselves show. -/
def schemaOf (docs : List Fields) : Fields :=
  docs.foldl (fun schema doc => doc.foldl (fun (schema : Fields) (name, v) =>
    match typeOf? v with
    | some type =>
      if name == "vector" then schema else schema.put name (.object [("type", .text type)])
    | none => schema) schema) []

end Folio.Discovery
