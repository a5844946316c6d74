-- What users wish for: changes of the query, each of which loads the first page anew, and other
-- pages. A change of the search text waits for the next one before it loads.
import Folio.Session.Load

namespace Folio.Session

/-- Puts a new query in the place of the old one. When filters or search text may have changed,
the filters in use are noted. -/
def reconfigure (s : Session) (config : QueryConfig) (filters : Bool) : Session :=
  let s := s.renew (·.reconfigure config)
  if filters then s.spawn .logRecent else s

/-- Changes the query and loads its first page, which is what was pending before. -/
def change (s : Session) (config : QueryConfig) (filters : Bool) (after : AfterLoad) :
    Session × Outcome Pause Reply :=
  (s.reconfigure config filters).cancelRun.reloadFirst after

/-- Changes the search text; the first page is loaded when no other change follows for a while. -/
def changeSearch (s : Session) (text : String) : Session :=
  (s.reconfigure { s.browser.config with searchText := text } true).scheduleRun

/-- The reply of an action that has nothing to say. -/
def silently : AfterLoad := .reply .nothing

/-- Changes part of the query. -/
def configure (s : Session) (f : QueryConfig → QueryConfig) : Session × Outcome Pause Reply :=
  s.change (f s.browser.config) false silently

/-- Changes the filters. -/
def changeFilters (s : Session) (f : List Predicate → List Predicate) :
    Session × Outcome Pause Reply :=
  let config := s.browser.config
  s.change { config with predicates := f config.predicates } true silently

/-- Goes on with an action once the attributes are known. -/
def withAttributes (s : Session) : AfterSchema → Session × Outcome Pause Reply
  | .addFilter attr operator value =>
    let (s, id) := s.newId
    match Predicate.make id attr operator value s.browser.registry with
    | .ok p => s.changeFilters (· ++ [p])
    | .error f => (s, .raised (.filter f))
  | .replaceFilter existing attr operator value =>
    match existing.replace attr operator value s.browser.registry with
    | .ok p => s.changeFilters (·.map (fun q => if q.id == existing.id then p else q))
    | .error f => (s, .raised (.filter f))
  | .reload => s.reloadFirst silently
  | .attributes => (s, .done (.attributes s.browser.registry.attributes))

/-- Goes on with an action that has waited for a schema. -/
def resumeSchema (s : Session) (query : SchemaQuery) (after : AfterSchema) :
    Session × Outcome Pause Reply :=
  let (s, taken) := s.takeSchema query
  s.orRaise taken fun _ => s.withAttributes after

/-- Does something with a filter that has to be there. -/
def withFilter (s : Session) (id : String)
    (next : Predicate → Session × Outcome Pause Reply) : Session × Outcome Pause Reply :=
  match s.browser.findFilter? id with
  | some p => next p
  | none => (s, .raised (.browser (.filterNotFound ("filter '" ++ id ++ "' not found"))))

/-- Drops everything that was loaded before, and loads the schema and the first page anew. -/
def refresh (s : Session) : Session × Outcome Pause Reply :=
  let s := s.renew fun b => { b.invalidate with cache := b.cache.clear }
  andThen (s.loadSchema true) (.schema · .reload) fun s _ => s.withAttributes .reload

/-- Selects a collection; its remembered filters are read from the archive. -/
def selectCollection (s : Session) (collection : Option String) : Session :=
  let s := s.cancelRun.update fun b =>
    let b := b.select collection
    match b.place? with
    | some (connection, collection) => { b with history := b.history.load connection collection }
    | none => b
  s.note (.selected s.browser.generation)

/-- Does what a user wishes for. -/
def dispatch (s : Session) : Intent → Session × Outcome Pause Reply
  | .addFilter attr operator value =>
    andThen s.ensureAttributes (.schema · (.addFilter attr operator value)) fun s _ =>
      s.withAttributes (.addFilter attr operator value)
  | .updateFilter filter attr operator value =>
    s.withFilter filter fun existing =>
      andThen s.ensureAttributes (.schema · (.replaceFilter existing attr operator value))
        fun s _ => s.withAttributes (.replaceFilter existing attr operator value)
  | .removeFilter filter =>
    s.withFilter filter fun existing => s.changeFilters (·.filter (·.id != existing.id))
  | .clearFilters =>
    s.change { s.browser.config with predicates := [], searchText := "" } true silently
  | .setSearchText text => (s.changeSearch text, .done .nothing)
  | .setQueryMode mode => s.configure ({ · with queryMode := mode })
  | .setRankingMode mode => s.configure ({ · with rankingMode := mode })
  | .setRanking ranking => s.configure ({ · with ranking := ranking })
  | .setSort attr direction =>
    s.configure ({ · with sortAttr := attr, sortDirection := direction })
  | .setVectorQuery vector field =>
    s.configure ({ · with vectorQuery := vector, vectorField := field })
  | .setTextFields fields combination =>
    s.configure ({ · with textFields := fields, combination := combination })
  | .setAggregations aggregations => s.configure ({ · with aggregations := aggregations })
  | .setGroupBy attrs => s.configure ({ · with groupBy := attrs })
  | .setPageSize size =>
    (s.renew fun b =>
      { b with paging := .start size, generation := b.generation + 1 }).reloadFirst silently
  | .goToPage page => thenReply (s.loadDocuments (.int page) false) silently
  | .refresh => s.refresh
  | .setCollection name => (s.selectCollection name, .done .nothing)

end Folio.Session
