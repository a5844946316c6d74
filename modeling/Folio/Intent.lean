-- What a user can ask a browser to do.
import Folio.Fault
import Folio.Query.Config
import Folio.Query.Request

namespace Folio

/-- A wish of the user. -/
inductive Intent where
  | addFilter (attr operator : String) (value : Value)
  | updateFilter (filter attr operator : String) (value : Value)
  | removeFilter (filter : String)
  /-- Drops every filter and the search text. -/
  | clearFilters
  | setSearchText (text : String)
  | setQueryMode (mode : QueryMode)
  | setRankingMode (mode : RankingMode)
  | setRanking (ranking : Option RankNode)
  | setSort (attr : Option String) (direction : SortDirection)
  | setVectorQuery (vector : Option (List Float)) (field : Option String)
  | setTextFields (fields : List TextField) (combination : Combination)
  | setAggregations (aggregations : List Aggregation)
  | setGroupBy (attrs : List String)
  | setPageSize (size : Int)
  | goToPage (page : Int)
  /-- Loads the first page anew, whatever is known about it. -/
  | refresh
  | setCollection (name : Option String)

namespace Intent

/-- The name of a kind of intent. -/
def kind : Intent → String
  | addFilter _ _ _ => "add_filter"
  | updateFilter _ _ _ _ => "update_filter"
  | removeFilter _ => "remove_filter"
  | clearFilters => "clear_filters"
  | setSearchText _ => "set_search_text"
  | setQueryMode _ => "set_query_mode"
  | setRankingMode _ => "set_ranking_mode"
  | setRanking _ => "set_ranking_expression"
  | setSort _ _ => "set_sort"
  | setVectorQuery _ _ => "set_vector_query"
  | setTextFields _ _ => "set_fulltext_config"
  | setAggregations _ => "set_aggregations"
  | setGroupBy _ => "set_group_by"
  | setPageSize _ => "set_page_size"
  | goToPage _ => "go_to_page"
  | refresh => "refresh"
  | setCollection _ => "set_namespace"

/-- The fields of an intent beside its kind. -/
def fields : Intent → Fields
  | addFilter attr operator value =>
    [("attribute", .text attr), ("operator", .text operator), ("value", value)]
  | updateFilter filter attr operator value =>
    [("filter_id", .text filter), ("attribute", .text attr), ("operator", .text operator),
      ("value", value)]
  | removeFilter filter => [("filter_id", .text filter)]
  | clearFilters | refresh => []
  | setSearchText text => [("text", .text text)]
  | setQueryMode mode => [("mode", .text mode.name)]
  | setRankingMode mode => [("mode", .text mode.name)]
  | setRanking ranking => [("expression", .ofOption RankNode.toValue ranking)]
  | setSort attr direction =>
    [("attribute", .ofOption .text attr), ("direction", .text direction.name)]
  | setVectorQuery vector field =>
    [("vector", .ofOption (fun v => .list (v.map .float)) vector),
      ("field", .ofOption .text field)]
  | setTextFields fields combination =>
    [("fields", .list (fields.map TextField.toValue)), ("operator", .text combination.name)]
  | setAggregations aggregations =>
    [("aggregations", .list (aggregations.map Aggregation.toValue))]
  | setGroupBy attrs => [("attributes", .texts attrs)]
  | setPageSize size => [("page_size", .int size)]
  | goToPage page => [("page", .int page)]
  | setCollection name => [("namespace_id", .ofOption .text name)]

def toValue (i : Intent) : Value := .object (("kind", .text i.kind) :: i.fields)

/-- Reads the fields of an intent of a kind; none if there is no such kind. -/
def readKind? (kind : String) (fs : Fields) : Option (Checked Intent) :=
  let optionalText (name : String) := fs.optional name none (Reader.nullable Reader.text)
  match kind with
  | "add_filter" => some (addFilter <$> fs.needed "attribute" Reader.text
      <*> fs.needed "operator" Reader.text <*> fs.optional "value" .null Reader.any)
  | "update_filter" => some (updateFilter <$> fs.needed "filter_id" Reader.text
      <*> fs.needed "attribute" Reader.text <*> fs.needed "operator" Reader.text
      <*> fs.optional "value" .null Reader.any)
  | "remove_filter" => some (removeFilter <$> fs.needed "filter_id" Reader.text)
  | "clear_filters" => some (.sound clearFilters)
  | "set_search_text" => some (setSearchText <$> fs.optional "text" "" Reader.text)
  | "set_query_mode" => some (setQueryMode <$> fs.needed "mode" (Reader.word QueryMode.ofName?))
  | "set_ranking_mode" =>
    some (setRankingMode <$> fs.needed "mode" (Reader.word RankingMode.ofName?))
  | "set_ranking_expression" =>
    some (setRanking <$> fs.optional "expression" none (Reader.nullable RankNode.read))
  | "set_sort" => some (setSort <$> optionalText "attribute"
      <*> fs.optional "direction" .ascending (Reader.word SortDirection.ofName?))
  | "set_vector_query" =>
    some (setVectorQuery <$> fs.optional "vector" none (Reader.nullable (Reader.listOf Reader.number))
      <*> optionalText "field")
  | "set_fulltext_config" =>
    some (setTextFields <$> fs.optional "fields" [] (Reader.listOf TextField.read)
      <*> fs.optional "operator" .sum (Reader.word Combination.ofName?))
  | "set_aggregations" =>
    some (setAggregations <$> fs.optional "aggregations" [] (Reader.listOf Aggregation.read))
  | "set_group_by" =>
    some (setGroupBy <$> fs.optional "attributes" [] (Reader.listOf Reader.text))
  | "set_page_size" => some (setPageSize <$>
      fs.needed "page_size" (Reader.wholeIn 1 (some PageRequest.sizeLimit)))
  | "go_to_page" => some (goToPage <$> fs.needed "page" (Reader.wholeIn 1 none))
  | "refresh" => some (.sound refresh)
  | "set_namespace" => some (setCollection <$> optionalText "namespace_id")
  | _ => none

/-- What has no kind is no intent. -/
def withoutKind : Failure := ⟨.badType, "an intent has a kind"⟩

/-- There are no intents of a kind. -/
def unknownKind (kind : Value) : Failure := ⟨.missingKey, kind.quoted⟩

/-- Reads an intent by its kind. -/
def read (given : Value) : Except Fault Intent :=
  match given with
  | .object fs =>
    match Fields.get fs "kind" with
    | .text kind =>
      match readKind? kind fs with
      | some checked => checked.orFault
      | none => .error (.failure (unknownKind (.text kind)))
    | .list _ | .object _ => .error (.failure withoutKind)
    | v => .error (.failure (unknownKind v))
  | _ => .error (.failure withoutKind)

end Intent

end Folio
