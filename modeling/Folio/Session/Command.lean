-- What can be asked of a session: the intents of a user, actions of a program, requests from the
-- web, and changes behind the back of the browser.
import Folio.History.Archive
import Folio.Session.Pause
import Folio.Web.Route

namespace Folio

/-- What can be asked of a backend directly. -/
inductive BackendCommand where
  | request (collection : String) (request : Fields)
  | schema (collection : String)
  | delete (collection : String) (keys : Value)
  | update (collection : String) (key changes : Value)
  | upsert (collection : String) (rows : Value)
  /-- Makes the next request fail. -/
  | failNext (fault : Fault)
  | contents
  /-- Lets requests wait. -/
  | hold
  /-- Lets the requests that wait go on; later ones may have to wait again. -/
  | release (keep : Bool)
  | holdSchemas
  | releaseSchemas
  | failSchemas (fault : Option Fault)
  | failDeletes (fault : Option Fault)

/-- What can be asked of a session. -/
inductive Command where
  | dispatch (intent : Value)
  /-- Something that is no intent. -/
  | dispatchOther
  | load (page : Value) (forced : Bool)
  | loadSchema (forced : Bool)
  | connect (connection : String)
  | resetAttempts
  | delete (keys : Value)
  | update (key changes : Value)
  | upsert (rows : Value)
  | saveFilter (name : Value)
  | deleteSaved (id : String)
  | applySaved (id : String)
  | applyRecent (id : String)
  | savedFilters
  | recentFilters
  | snapshot
  | attributes
  /-- Waits until nothing is left to be done in the background. -/
  | wait
  | web (request : Web.WebRequest)
  | mergeAttributes (attributes : Value)
  | clearAttributes
  | failArchive (tasks : List ArchiveTask)
  | backend (number : Nat) (command : BackendCommand)

end Folio
