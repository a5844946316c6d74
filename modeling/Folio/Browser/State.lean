-- The state of a browser: the query, the page that is shown, and what is remembered on the way.
-- Every change of the query gives it a new generation, by which answers to earlier ones are told.
import Folio.Browser.View
import Folio.Cache.Fingerprint
import Folio.Cache.Pages
import Folio.Discovery
import Folio.History.Log
import Folio.Paging
import Folio.Settings

namespace Folio

/-- The attributes of a collection as they were known at some time. -/
structure KnownAttributes where
  attributes : List Attribute
  learnedAt : Float

/-- A browser of one collection. -/
structure Browser where
  settings : Settings
  connection : Option String
  collection : Option String
  /-- The number of the backend that requests go to. -/
  executor : Option Nat
  /-- Attempts to connect since the last one that succeeded. -/
  attempts : Int
  registry : Registry
  /-- Attributes of collections that have been looked at. -/
  known : Named KnownAttributes
  cache : PageCache
  paging : Paging
  history : History
  config : QueryConfig
  generation : Nat
  /-- The query has changed during a load, and the first page is to be loaded after it. -/
  reloadPending : Bool
  state : LoadState
  /-- How many problems there have been. -/
  problems : Nat
  problem : Option Problem
  view : View
  /-- The number of documents in the collection. -/
  unfiltered : Option Int

namespace Browser

/-- Nothing has been loaded yet. -/
def start (settings : Settings) (connection collection : Option String) (executor : Option Nat)
    (archive : Option Archive) : Browser where
  settings := settings
  connection := connection
  collection := collection
  executor := executor
  attempts := 0
  registry := .empty
  known := []
  cache := .empty settings.pageLifetime
  paging := .start settings.pageSize
  history := .start archive settings.savedLimit settings.recentLimit
  config := .initial
  generation := 0
  reloadPending := false
  state := .idle
  problems := 0
  problem := none
  view := .blank
  unfiltered := none

/-! ## Reading -/

def isLoading (b : Browser) : Bool := b.state == .loading

/-- The collection that is selected; an empty name selects none. -/
def current? (b : Browser) : Option String := b.collection.filter (· != "")

/-- The connection and the collection, if both are selected. -/
def place? (b : Browser) : Option (String × String) :=
  match b.connection.filter (· != ""), b.current? with
  | some connection, some collection => some (connection, collection)
  | _, _ => none

/-- The name under which the attributes of a collection are remembered. -/
def attributeKey (b : Browser) (collection : String) : String :=
  b.connection.getD "None" ++ ":" ++ collection

/-- The attributes of a collection, as long as they hold. -/
def knownAttributes? (b : Browser) (key : String) (now : Float) : Option (List Attribute) :=
  ((b.known.get? key).filter (fun known => b.cache.isFresh known.learnedAt now)).map (·.attributes)

/-- The page that is asked for; without one it is the page shown. -/
def targetPage (b : Browser) (page : Value) : Except Failure Int :=
  if page.isNull then .ok b.paging.page else Collection.wholeOf page

/-- The number of matching documents, if it need not be asked for. -/
def knownTotal? (b : Browser) (c : QueryConfig) (forced : Bool) : Option Int :=
  if c.browsesAll && !forced then b.unfiltered else none

def findFilter? (b : Browser) (id : String) : Option Predicate :=
  b.config.predicates.find? (·.id == id)

def pageCount (b : Browser) : Except Failure (Option Int) :=
  match b.view.total with
  | some total => some <$> b.paging.pageCount total
  | none => .ok none

def savedFilters (b : Browser) : List SavedFilter :=
  match b.place? with
  | some (connection, collection) => b.history.saved connection collection
  | none => []

def recentFilters (b : Browser) : List RecentFilter :=
  match b.place? with
  | some (connection, collection) => b.history.recent connection collection
  | none => []

/-! ## Changing -/

/-- Shows a problem. The rows shown last stay. -/
def fail (b : Browser) (f : Fault) : Browser :=
  { b with
    problems := b.problems + 1
    problem := some ⟨b.problems, f.info⟩
    state := .failed }

/-- A load begins. -/
def begin (b : Browser) : Browser := { b with state := .loading, problem := none }

/-- A load has come to nothing. -/
def rest (b : Browser) : Browser := { b with state := .idle }

/-- Shows what has been loaded for a query. -/
def present (b : Browser) (c : QueryConfig) (view : View) : Browser :=
  { b with
    view := view
    unfiltered := if c.browsesAll then view.total else b.unfiltered
    state := .success
    problem := none }

/-- Puts a new query in the place of the old one. -/
def reconfigure (b : Browser) (c : QueryConfig) : Browser :=
  { b with config := c, generation := b.generation + 1, paging := b.paging.restart }

/-- Makes filters anew whose attributes have become known. -/
def retype (b : Browser) : Browser :=
  { b with config :=
      { b.config with predicates := b.config.predicates.map (·.retype b.registry) } }

/-- Remembers the attributes known now under a name. -/
def remember (b : Browser) (key : String) (now : Float) : Browser :=
  { b with known := b.known.put key ⟨b.registry.attributes, now⟩ }

/-- Learns the attributes that documents show. -/
def learn (b : Browser) (key : String) (found : List Attribute) (now : Float) : Browser :=
  { b with registry := b.registry.merge found }.remember key now

/-- A declared attribute with what is known about it from documents. -/
def withEvidence (b : Browser) (a : Attribute) : Attribute :=
  match b.registry.get? a.name with
  | some known => { known with type := a.type, fullText := a.fullText }
  | none => a

/-- Takes over the attributes that a schema declares. -/
def declare (b : Browser) (key : String) (declared : List Attribute) (now : Float) : Browser :=
  b.learn key (declared.map b.withEvidence) now

/-- Selects a collection and forgets all about the one before. -/
def select (b : Browser) (collection : Option String) : Browser :=
  { b with
    reloadPending := false
    collection := collection
    generation := b.generation + 1
    config := .initial
    paging := b.paging.restart
    view := .blank
    unfiltered := none
    problem := none
    state := .idle
    registry := .empty }

/-- What has been loaded so far is out of date; paging starts over. -/
def invalidate (b : Browser) : Browser :=
  { b with unfiltered := none, paging := b.paging.restart, generation := b.generation + 1 }

end Browser

end Folio
