-- Counting documents, all together or in groups of equal values. An aggregate counts the documents
-- that have an attribute, or all of them.
import Folio.Collection.Score

namespace Folio

namespace Failure

def unsupportedAggregate (label : String) : Failure :=
  ⟨.badValue, "400 Bad Request: unsupported aggregate '" ++ label ++ "'"⟩

end Failure

namespace Collection

/-- An aggregate: its label, and the attribute whose presence is counted. -/
structure Count where
  label : String
  attr : Option Value

/-- Reads an aggregate; nothing but counting is known. -/
def readCount (label : String) (parts : Value) : Except Failure Count :=
  if !parts.isTrue then .error (.unsupportedAggregate label)
  else match parts with
    | .list (.text "Count" :: rest) => .ok ⟨label, rest.head?⟩
    | .list _ | .text _ => .error (.unsupportedAggregate label)
    | .object _ => .error (.noField 0)
    | v => .error (.notIndexed v)

def readCounts : Fields → Except Failure (List Count)
  | [] => .ok []
  | (label, parts) :: rest => do
    let first ← readCount label parts
    let others ← readCounts rest
    return first :: others

/-- How many documents have a value under an attribute. -/
def countPresent (attr : Value) : List Fields → Except Failure Nat
  | [] => .ok 0
  | doc :: rest => do
    let v ← attributeOf doc attr
    let others ← countPresent attr rest
    return if v.isNull then others else others + 1

/-- The number that an aggregate gives for some documents. -/
def Count.of (c : Count) (docs : List Fields) : Except Failure Nat :=
  match c.attr with
  | some attr => countPresent attr docs
  | none => .ok docs.length

/-- Puts the numbers of all aggregates under their labels. -/
def putCounts (docs : List Fields) (fields : Fields) : List Count → Except Failure Fields
  | [] => .ok fields
  | c :: rest => do putCounts docs (fields.put c.label (.nat (← c.of docs))) rest

/-! ## Groups -/

/-- The values of several attributes. -/
def valuesOf (doc : Fields) : List Value → Except Failure (List Value)
  | [] => .ok []
  | attr :: rest => do
    let v ← attributeOf doc attr
    let others ← valuesOf doc rest
    return v :: others

/-- Documents with the same texts of their values. -/
structure Group where
  key : List String
  members : List Fields

/-- Puts a document into the group of its key, or into a new one behind all others. -/
def addToGroup (key : List String) (doc : Fields) : List Group → List Group
  | [] => [⟨key, [doc]⟩]
  | g :: rest =>
    if g.key == key then { g with members := g.members ++ [doc] } :: rest
    else g :: addToGroup key doc rest

/-- Documents in groups, in the order in which the groups occur. -/
def groupBy (attrs : List Value) (groups : List Group) : List Fields → Except Failure (List Group)
  | [] => .ok groups
  | doc :: rest => do
    let key := (← valuesOf doc attrs).map Value.quoted
    groupBy attrs (addToGroup key doc groups) rest

/-- The values without those that are the same as an earlier one. -/
def withoutRepeats : List Value → List Value
  | [] => []
  | v :: rest => v :: (withoutRepeats rest).filter (!v.same ·)

/-- The values that the members of a group share, under the names of the attributes. -/
def sharedFields (attrs : List Value) (doc : Fields) : Except Failure Fields := do
  let distinct := withoutRepeats attrs
  return Named.ofList ((distinct.map Value.shown).zip (← valuesOf doc distinct))

/-- What is told about a group. -/
def describeGroup (attrs : List Value) (counts : List Count) (g : Group) :
    Except Failure Value := do
  let shared ← sharedFields attrs (g.members.headD [])
  return .object (← putCounts g.members shared counts)

/-- The answer to a request for aggregates. -/
def aggregate (docs : List Fields) (aggregates groupsBy : Value) : Except Failure Value := do
  let .object fields := aggregates | throw (.noMethod aggregates "items")
  let counts ← readCounts fields
  if !groupsBy.isTrue then
    return .object [("rows", .list []), ("aggregations", .object (← putCounts docs [] counts))]
  if docs.isEmpty then return .object [("rows", .list []), ("aggregation_groups", .list [])]
  let attrs ← elements groupsBy
  let groups ← groupBy attrs [] docs
  return .object [
    ("rows", .list []),
    ("aggregation_groups", .list (← groups.mapM (describeGroup attrs counts)))]

end Collection

end Folio
