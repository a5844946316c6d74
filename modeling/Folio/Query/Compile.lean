-- From a query to requests. A filter is a list of attribute, token and value; several are joined,
-- and the page is entered by one more filter on the key. Of the rankings the first that applies is
-- used: the user's own, full-text search, the nearest vectors, and the order of an attribute.
import Folio.Query.Config
import Folio.Query.Request

namespace Folio

/-- Why no request can be made. -/
inductive QueryFault where
  /-- Full-text search has no attribute to look at. -/
  | noTextFields
  deriving DecidableEq

namespace QueryFault

def code : QueryFault → String
  | noTextFields => "no_searchable_fields"

def family : QueryFault → String
  | noTextFields => "NoSearchableFields"

def message : QueryFault → String
  | noTextFields =>
    "No text fields available for full-text search. Select fields in the full-text " ++
      "configuration or enable full-text search in the schema."

end QueryFault

namespace Query

/-- The attribute that holds the keys. -/
def keyAttribute : String := "id"

/-- The label under which matching documents are counted. -/
def countLabel : String := "count"

/-! ## Filters -/

/-- One test of an attribute. -/
def test (attr token : String) (reference : Value) : Value :=
  .list [.text attr, .text token, reference]

/-- What passes when another filter does not. -/
def negation (filter : Value) : Value := .list [.text "Not", filter]

/-- What passes when all of the filters do. -/
def conjunction (filters : List Value) : Value := .list [.text "And", .list filters]

/-- The glob for texts with a part. -/
def around (part : String) : Value := .text ("*" ++ part ++ "*")

/-- The filter of a predicate. On lists, equality and containment ask for one of the items. -/
def compilePredicate (p : Predicate) : Value :=
  let onArray := FieldType.isArray (some p.attrType)
  match p.operator with
  | .equals =>
    if onArray then test p.attr "ContainsAny" p.operand.first
    else test p.attr "Eq" p.operand.toValue
  | .notEquals =>
    if onArray then negation (test p.attr "ContainsAny" p.operand.first)
    else test p.attr "NotEq" p.operand.toValue
  | .contains =>
    if onArray then test p.attr "ContainsAny" p.operand.first
    else test p.attr "Glob" (around p.operand.first.shown)
  | .isIn | .notIn | .containsAny | .notContainsAny =>
    test p.attr p.operator.token (.list p.operand.items)
  | .arrayContains | .notArrayContains => test p.attr p.operator.token p.operand.first
  | op => test p.attr op.token p.operand.toValue

/-- No filter, the only one, or all together; null lets everything pass. -/
def combine : List Value → Value
  | [] => .null
  | [filter] => filter
  | filters => conjunction filters

/-- The filters of a query. When browsing, the search text is looked for in the keys. -/
def filtersOf (c : QueryConfig) : List Value :=
  (if c.search != "" && c.queryMode == .browse then [test keyAttribute "Glob" (around c.search)]
    else []) ++ c.predicates.map compilePredicate

/-- The filter of a query, without the start of the page. -/
def compileFilters (c : QueryConfig) : Value := combine (filtersOf c)

/-- Adds the start of a page. -/
def withCursor (filter : Value) : Option RowKey → Value
  | none => filter
  | some key =>
    let boundary := test keyAttribute "Gt" key.toValue
    if filter.isNull then boundary else conjunction [filter, boundary]

/-! ## Rankings -/

/-- Full-text search in one field. -/
def textRank (field text : String) : Value := .list [.text field, .text "BM25", .text text]

/-- A field with its weight; the weight one is left out. -/
def weighted (text : String) (f : TextField) : Value :=
  let rank := textRank f.field text
  if f.weight == 1.0 then rank
  else .list [.text "Product", .list [.float f.weight, rank]]

/-- The ranking of full-text search: the fields of the query, or one that the registry offers. -/
def compileTextRank (c : QueryConfig) (registry : Registry) : Except QueryFault Value :=
  match c.textFields with
  | [] =>
    match registry.fullTextCandidates with
    | [] => .error .noTextFields
    | field :: _ => .ok (textRank field c.search)
  | [f] => .ok (textRank f.field c.search)
  | fields => .ok (.list [.text c.combination.token, .list (fields.map (weighted c.search))])

/-- The order of an attribute. -/
def sortRank (c : QueryConfig) : Value :=
  let attr := match c.sortAttr with
    | some a => if a == "" then keyAttribute else a
    | none => keyAttribute
  .list [.text attr, .text c.sortDirection.name]

/-- The nearest vectors, if a vector is given. -/
def vectorRank? (c : QueryConfig) : Option Value :=
  match c.vectorQuery with
  | some (x :: rest) =>
    let field := match c.vectorField with
      | some f => if f == "" then "vector" else f
      | none => "vector"
    some (.list [.text field, .text "ANN", .list ((x :: rest).map .float)])
  | _ => none

/-- The ranking of a query. -/
def compileRank (c : QueryConfig) (registry : Registry) : Except QueryFault Value :=
  match c.rankingMode, c.ranking with
  | .expression, some node => .ok node.compile
  | _, _ =>
    if c.queryMode == .fulltext && c.search != "" then compileTextRank c registry
    else if c.queryMode == .vector then .ok ((vectorRank? c).getD (sortRank c))
    else .ok (sortRank c)

/-! ## Requests -/

/-- Aggregates by their labels; a label that comes again replaces the first. -/
def aggregatesOf (c : QueryConfig) : Named (List Value) :=
  .ofList (c.aggregations.map (fun a =>
    (a.name, .text a.function :: (match a.attr with
      | some attr => if attr == "" then [] else [.text attr]
      | none => []))))

/-- The request for a page. The first page starts nowhere in particular. -/
def compilePage (c : QueryConfig) (page : PageRequest) (registry : Registry) :
    Except QueryFault Request := do
  let filter := withCursor (compileFilters c) (if page.page > 1 then page.cursor else none)
  if c.aggregates then
    return { Request.empty with
      filters := filter
      topK := some page.pageSize
      aggregateBy := some (aggregatesOf c)
      groupBy := if c.groupBy.isEmpty then none else some c.groupBy }
  let rank ← compileRank c registry
  return { Request.empty with
    filters := filter
    rankBy := rank
    topK := some page.pageSize
    includeAttributes := some true }

/-- The request for the number of matching documents. -/
def compileCount (c : QueryConfig) : Request :=
  { Request.empty with
    filters := compileFilters c
    aggregateBy := some [(countLabel, [.text "Count", .text keyAttribute])] }

end Query

end Folio
