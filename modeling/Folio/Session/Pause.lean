-- Actions that do not come to their end at once, and what is left of them while they wait for a
-- backend. Nothing is left but data: which request is out, and what follows on its answer.
import Folio.Browser.Snapshot
import Folio.Query.Request

namespace Folio

/-- A request that has been sent to a backend. -/
structure Sent where
  backend : Nat
  collection : String
  request : Fields

/-- A schema that has been asked for, and the name under which it will be remembered. -/
structure SchemaQuery where
  backend : Nat
  collection : String
  key : String

/-- A load that has begun, and the generation of the query it was begun for. -/
structure Load where
  collection : String
  generation : Nat
  /-- The page asked for; null for the page shown. -/
  page : Value
  forced : Bool

/-- The page that a load is going to fetch. -/
structure PagePlan where
  config : QueryConfig
  move : PageMove
  fingerprint : String
  request : Request

/-- What a load waits for. -/
inductive LoadPause where
  | schema (query : SchemaQuery) (load : Load)
  /-- The number of documents. -/
  | count (sent : Sent) (load : Load) (plan : PagePlan)
  /-- The documents of the page. -/
  | page (sent : Sent) (load : Load) (plan : PagePlan) (total : Int)

/-- What an action has to say. -/
inductive Reply where
  | nothing
  | verdict (b : Bool)
  | number (n : Int)
  | value (v : Value)
  | saved (entry : SavedFilter)
  | savedList (entries : List SavedFilter)
  | recentList (entries : List RecentFilter)
  | attributes (attributes : List Attribute)
  | snapshot (s : Snapshot)
  /-- A page of the web. -/
  | page (s : Snapshot)
  /-- A status of the web, with a word about it. -/
  | refused (status : Nat) (detail : Option String)
  /-- What several actions have to say, one after another. -/
  | several (answers : List (Except Fault Reply))

/-- What comes of an action. -/
abbrev Answer := Except Fault Reply

/-- The reply of an action once its load is over. -/
inductive AfterLoad where
  /-- Whether rows have been shown. -/
  | verdict
  | reply (r : Reply)

def AfterLoad.answer : AfterLoad → Bool → Reply
  | verdict, shown => .verdict shown
  | reply r, _ => r

/-- What an action does once the attributes are known. -/
inductive AfterSchema where
  | addFilter (attr operator : String) (value : Value)
  | replaceFilter (existing : Predicate) (attr operator : String) (value : Value)
  /-- Loads the first page. -/
  | reload
  /-- Tells the attributes. -/
  | attributes

/-- What an action waits for. -/
inductive Pause where
  | load (pause : LoadPause) (after : AfterLoad)
  | schema (query : SchemaQuery) (after : AfterSchema)
  | request (sent : Sent)
  /-- That nothing is left to be done in the background. -/
  | background
  /-- An action of the web, the problem shown before it, and whether to wait for the background
  when it is over. -/
  | web (before : Option Nat) (waits : Bool) (pause : Pause)

/-- Where actions wait together. -/
inductive Gate where
  | requests (backend : Nat)
  | schemas (backend : Nat)
  | background
  deriving DecidableEq

/-- The load that waits. -/
def LoadPause.load : LoadPause → Load
  | schema _ load | count _ load _ | page _ load _ _ => load

/-- The load that an action waits with. -/
def Pause.load? : Pause → Option Load
  | load pause _ => some pause.load
  | web _ _ pause => pause.load?
  | _ => none

def LoadPause.gate : LoadPause → Gate
  | schema query _ => .schemas query.backend
  | count sent _ _ | page sent _ _ _ => .requests sent.backend

def Pause.gate : Pause → Gate
  | load pause _ => pause.gate
  | schema query _ => .schemas query.backend
  | request sent => .requests sent.backend
  | background => .background
  | web _ _ pause => pause.gate

/-- How far an action has come. -/
inductive Outcome (π ρ : Type) where
  | done (reply : ρ)
  | raised (fault : Fault)
  | paused (pause : π)

end Folio
