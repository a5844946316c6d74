-- All that a view needs to know about a browser.
import Folio.Browser.State

namespace Folio

/-- A browser as a view sees it. -/
structure Snapshot where
  connection : Option String
  collection : Option String
  state : LoadState
  error : Option ErrorInfo
  view : View
  unfiltered : Option Int
  page : Int
  pageSize : Int
  pageCount : Option Int
  hasNext : Bool
  hasPrevious : Bool
  config : QueryConfig
  attributes : List Attribute

/-- The snapshot of a browser. There is a next page if the page shown ends with a key, and if it
is not known to be the last. -/
def Browser.snapshot (b : Browser) : Except Failure Snapshot := do
  let pages ← b.pageCount
  return {
    connection := b.connection
    collection := b.collection
    state := b.state
    error := b.problem.map (·.info)
    view := b.view
    unfiltered := b.unfiltered
    page := b.paging.page
    pageSize := b.paging.pageSize
    pageCount := pages
    hasNext := b.paging.next.isSome && pages.all (fun n => decide (b.paging.page < n))
    hasPrevious := decide (b.paging.page > 1)
    config := b.config
    attributes := b.registry.attributes }

def Snapshot.toValue (s : Snapshot) : Value := .object [
  ("connection_id", .ofOption .text s.connection),
  ("namespace_id", .ofOption .text s.collection),
  ("state", .text s.state.name),
  ("error", .ofOption ErrorInfo.toValue s.error),
  ("rows", .list (s.view.rows.map .object)),
  ("total_count", .ofOption .int s.view.total),
  ("unfiltered_total_count", .ofOption .int s.unfiltered),
  ("page", .int s.page),
  ("page_size", .int s.pageSize),
  ("page_count", .ofOption .int s.pageCount),
  ("has_next_page", .flag s.hasNext),
  ("has_previous_page", .flag s.hasPrevious),
  ("config", s.config.toValue),
  ("aggregations", .ofOption .object s.view.aggregations),
  ("aggregation_groups", .ofOption (fun groups => .list (groups.map .object)) s.view.groups),
  ("attributes", .list (s.attributes.map Attribute.toValue))]

end Folio
