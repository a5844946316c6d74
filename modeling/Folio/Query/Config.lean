-- All that shapes a query: the filters, the search text, the ranking and the aggregations.
import Folio.Filter.Predicate
import Folio.Query.Rank

namespace Folio

/-- What the search text is looked for in. -/
inductive QueryMode where
  | browse
  | fulltext
  | vector
  deriving DecidableEq

namespace QueryMode

def all : List QueryMode := [browse, fulltext, vector]

def name : QueryMode → String
  | browse => "browse"
  | fulltext => "fulltext"
  | vector => "vector"

def ofName? (name : String) : Option QueryMode := all.find? (·.name == name)

end QueryMode

/-- Whether a ranking of the user's own is used. -/
inductive RankingMode where
  | simple
  | expression
  deriving DecidableEq

namespace RankingMode

def all : List RankingMode := [simple, expression]

def name : RankingMode → String
  | simple => "simple"
  | expression => "expression"

def ofName? (name : String) : Option RankingMode := all.find? (·.name == name)

end RankingMode

inductive SortDirection where
  | ascending
  | descending
  deriving DecidableEq

namespace SortDirection

def all : List SortDirection := [ascending, descending]

def name : SortDirection → String
  | ascending => "asc"
  | descending => "desc"

def ofName? (name : String) : Option SortDirection := all.find? (·.name == name)

end SortDirection

/-- How the scores of several text fields are combined. -/
inductive Combination where
  | sum
  | max
  | product
  deriving DecidableEq

namespace Combination

def all : List Combination := [sum, max, product]

def name : Combination → String
  | sum => "sum"
  | max => "max"
  | product => "product"

def ofName? (name : String) : Option Combination := all.find? (·.name == name)

/-- The name in a request. -/
def token : Combination → String
  | sum => "Sum"
  | max => "Max"
  | product => "Product"

end Combination

/-- A text field with its weight. -/
structure TextField where
  field : String
  weight : Float

namespace TextField

def toValue (f : TextField) : Value :=
  .object [("field", .text f.field), ("weight", .float f.weight)]

def read : Reader TextField := Reader.object fun fields =>
  mk <$> fields.needed "field" Reader.name
    <*> fields.optional "weight" 1.0 Reader.number

end TextField

/-- A number asked for instead of documents. -/
structure Aggregation where
  name : String
  function : String
  attr : Option String

namespace Aggregation

def toValue (a : Aggregation) : Value := .object [
  ("name", .text a.name),
  ("function", .text a.function),
  ("attribute", .ofOption .text a.attr)]

def read : Reader Aggregation := Reader.object fun fields =>
  mk <$> fields.needed "name" Reader.name
    <*> fields.optional "function" "Count" Reader.text
    <*> fields.optional "attribute" none (Reader.nullable Reader.text)

end Aggregation

/-- All that shapes a query. -/
structure QueryConfig where
  predicates : List Predicate
  searchText : String
  queryMode : QueryMode
  rankingMode : RankingMode
  sortAttr : Option String
  sortDirection : SortDirection
  vectorQuery : Option (List Float)
  vectorField : Option String
  textFields : List TextField
  combination : Combination
  ranking : Option RankNode
  aggregations : List Aggregation
  groupBy : List String

namespace QueryConfig

/-- Everything, by id. -/
def initial : QueryConfig :=
  ⟨[], "", .browse, .simple, none, .ascending, none, none, [], .sum, none, [], []⟩

def aggregates (c : QueryConfig) : Bool := !c.aggregations.isEmpty

/-- The search text without the blanks around it. -/
def search (c : QueryConfig) : String := String.ofList (Text.trimmed c.searchText.toList)

/-- Whether filters or a search text leave documents out. -/
def isFiltered (c : QueryConfig) : Bool := !c.predicates.isEmpty || c.search != ""

/-- Whether every document of the collection is looked at. -/
def browsesAll (c : QueryConfig) : Bool := c.queryMode == .browse && !c.isFiltered

/-- What shapes a query apart from filters and search text. -/
def shapeFields (c : QueryConfig) : Fields := [
  ("query_mode", .text c.queryMode.name),
  ("ranking_mode", .text c.rankingMode.name),
  ("sort_attribute", .ofOption .text c.sortAttr),
  ("sort_direction", .text c.sortDirection.name),
  ("vector_query", .ofOption (fun v => .list (v.map .float)) c.vectorQuery),
  ("vector_field", .ofOption .text c.vectorField),
  ("fulltext_fields", .list (c.textFields.map TextField.toValue)),
  ("fulltext_operator", .text c.combination.name),
  ("ranking_expression", .ofOption RankNode.toValue c.ranking),
  ("aggregations", .list (c.aggregations.map Aggregation.toValue)),
  ("group_by", .texts c.groupBy)]

def toValue (c : QueryConfig) : Value := .object (
  ("predicates", .list (c.predicates.map Predicate.toValue))
    :: ("search_text", .text c.searchText) :: c.shapeFields)

/-- Reads all but the filters, which are given. -/
def readWith (predicates : List Predicate) : Reader QueryConfig := Reader.object fun fields =>
  mk predicates <$> fields.optional "search_text" "" Reader.text
    <*> fields.optional "query_mode" .browse (Reader.word QueryMode.ofName?)
    <*> fields.optional "ranking_mode" .simple (Reader.word RankingMode.ofName?)
    <*> fields.optional "sort_attribute" none (Reader.nullable Reader.text)
    <*> fields.optional "sort_direction" .ascending (Reader.word SortDirection.ofName?)
    <*> fields.optional "vector_query" none (Reader.nullable (Reader.listOf Reader.number))
    <*> fields.optional "vector_field" none (Reader.nullable Reader.text)
    <*> fields.optional "fulltext_fields" [] (Reader.listOf TextField.read)
    <*> fields.optional "fulltext_operator" .sum (Reader.word Combination.ofName?)
    <*> fields.optional "ranking_expression" none (Reader.nullable RankNode.read)
    <*> fields.optional "aggregations" [] (Reader.listOf Aggregation.read)
    <*> fields.optional "group_by" [] (Reader.listOf Reader.text)

end QueryConfig

end Folio
