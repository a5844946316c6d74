-- Requests to a backend: what documents are wanted, in what order and how many, or what is to be
-- counted instead.
import Folio.Query.RowKey

namespace Folio

/-- A request. What is not set does not stand in it. -/
structure Request where
  filters : Value
  rankBy : Value
  topK : Option Int
  includeAttributes : Option Bool
  aggregateBy : Option (Named (List Value))
  groupBy : Option (List String)

namespace Request

/-- Asks for nothing in particular. -/
def empty : Request := ⟨.null, .null, none, none, none, none⟩

/-- Counting goes with neither a ranking nor attributes. -/
def complaint? (r : Request) : Option String :=
  if r.aggregateBy.isSome && (!r.rankBy.isNull || r.includeAttributes.isSome) then
    some "aggregate_by cannot be combined with rank_by or include_attributes"
  else none

def aggregateFields (aggregates : Named (List Value)) : Fields :=
  aggregates.map (fun (label, parts) => (label, .list parts))

/-- Every field, unset ones as null. -/
def fields (r : Request) : Fields := [
  ("filters", r.filters),
  ("rank_by", r.rankBy),
  ("top_k", .ofOption .int r.topK),
  ("include_attributes", .ofOption .flag r.includeAttributes),
  ("aggregate_by", .ofOption (fun aggregates => .object (aggregateFields aggregates)) r.aggregateBy),
  ("group_by", .ofOption .texts r.groupBy)]

/-- The fields that are sent. -/
def toFields (r : Request) : Fields := r.fields.filter (fun field => !field.2.isNull)

def toValue (r : Request) : Value := .object r.toFields

/-- The parts of each aggregate. -/
def readAggregates : Reader (Named (List Value)) := Reader.object fun fields =>
  fields.foldr (fun (label, v) rest =>
    Checked.both ((Reader.listOf Reader.any v).map (fun parts all => (label, parts) :: all)) rest)
    (.sound [])

def read : Reader Request := Reader.object fun fields =>
  let request := mk <$> fields.optional "filters" .null Reader.any
    <*> fields.optional "rank_by" .null Reader.any
    <*> fields.optional "top_k" none (Reader.nullable Reader.whole)
    <*> fields.optional "include_attributes" none (Reader.nullable Reader.flag)
    <*> fields.optional "aggregate_by" none (Reader.nullable readAggregates)
    <*> fields.optional "group_by" none (Reader.nullable (Reader.listOf Reader.text))
  request.holding complaint?

end Request

/-- Which page is wanted: its number, how many documents it holds, and the key behind which it
starts. -/
structure PageRequest where
  page : Int
  pageSize : Int
  cursor : Option RowKey

namespace PageRequest

/-- The most documents on a page. -/
def sizeLimit : Int := 10000

def read : Reader PageRequest := Reader.object fun fields =>
  mk <$> fields.optional "page" 1 (Reader.wholeIn 1 none)
    <*> fields.optional "page_size" 100 (Reader.wholeIn 1 (some sizeLimit))
    <*> fields.optional "cursor" none (Reader.nullable RowKey.read)

end PageRequest

end Folio
