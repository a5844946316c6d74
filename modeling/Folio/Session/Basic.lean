-- A session: a browser with its backends, the clock, and everything that is under way. What is
-- ready goes on in the order in which it became ready; what waits for a backend goes on when the
-- backend lets it.
import Folio.Backend.Basic
import Folio.Backend.Provider
import Folio.Debounce.Basic
import Folio.Session.Command

namespace Folio

/-- Someone who has asked for one thing or several, the answers so far, and what is still to be
asked. -/
structure Client where
  number : Nat
  /-- The answers are given together. -/
  together : Bool
  answers : List Answer
  todo : List Command

/-- Whose action it is. -/
inductive Owner where
  | client (c : Client)
  /-- A run of the debouncer. -/
  | run (number : Nat)

/-- An action that waits. -/
structure Waiting where
  owner : Owner
  pause : Pause

/-- What is ready to be done. -/
inductive Job where
  /-- Notes the filters in use. -/
  | logRecent
  /-- Looks for attributes in rows of a collection. -/
  | discover (collection : String) (rows : List Fields)
  /-- A run of the debouncer begins its delay. -/
  | scheduled (run : Nat)
  /-- A run of the debouncer has its delay behind it. -/
  | due (run : Nat)
  | resume (waiting : Waiting)

/-- The load that a job goes on with. -/
def Job.load? : Job → Option Load
  | .resume w => w.pause.load?
  | _ => none

/-- The page that a load has shown. -/
structure Showing where
  load : Load
  config : QueryConfig
  view : View

/-- What becomes of loads, and what bears on them. -/
inductive LoadEvent where
  | begun (load : Load)
  /-- The load has come to its end: a page or a failure is shown, or it was out of date. -/
  | ended (load : Load)
  /-- A fault has broken the load off. -/
  | broken (load : Load)
  /-- The load was forgotten with the run that had begun it. -/
  | dropped (load : Load)
  /-- The first page is to be loaded after the loads under way. -/
  | putOff (behind : List Load)
  /-- The load that was put off is begun, if there is something to load from. -/
  | takenUp
  /-- What was loaded before is out of date: the query has changed, or is to be loaded anew. -/
  | renewed
  /-- A collection was selected, which begins with a generation. -/
  | selected (generation : Nat)
  /-- A failure is shown that is not one of a load. -/
  | troubled
  /-- A page was asked for. -/
  | asked (sent : Sent) (load : Load) (plan : PagePlan)
  /-- A page that was asked for is the one that the walk goes on from. -/
  | fetched (sent : Sent) (load : Load) (plan : PagePlan) (rows : List Value)
  /-- A page that was kept is the one that the walk goes on from. -/
  | recalled (load : Load) (config : QueryConfig) (move : PageMove) (page : CachedPage)
  | shown (showing : Showing)
  /-- Another backend is used from now on. -/
  | connected (backend : Nat)

/-! ## What is still to come -/

/-- How many things somebody is still going to ask for. -/
def Client.demand (c : Client) : Nat := c.todo.length + 1

/-- How many things follow from a waiting action. -/
def Waiting.demand (w : Waiting) : Nat :=
  match w.owner with
  | .client c => c.demand
  | .run _ => 1

/-- How many things follow from a job. -/
def Job.demand : Job → Nat
  | .resume w => w.demand
  | _ => 1

/-- What a backend has given. -/
inductive Yield where
  /-- The answer to a request. -/
  | answer (sent : Sent) (response : Value)
  /-- The number of documents that it has deleted. -/
  | deleted (backend number : Nat)

/-- A browser and the world around it. -/
structure Session where
  clock : Float
  /-- How many ids have been given out. -/
  ids : Nat
  browser : Browser
  backends : List Backend
  provider : Option Provider
  debouncer : Debouncer
  /-- The run that is asleep, and when its delay is over. -/
  asleep : Option (Float × Nat)
  ready : List Job
  waiting : List Waiting
  /-- Every request that was sent, in order. -/
  sent : List Sent
  /-- Everything that backends have given, in order. -/
  yielded : List Yield
  /-- Answers that have been given, with the numbers of those who asked. -/
  answered : List (Nat × Answer)
  /-- What has become of loads, in order. -/
  journal : List LoadEvent

namespace Session

def start (browser : Browser) (backends : List Backend) (provider : Option Provider) : Session where
  clock := 0.0
  ids := 0
  browser := browser
  backends := backends
  provider := provider
  debouncer := .start browser.settings.searchDelay
  asleep := none
  ready := []
  waiting := []
  sent := []
  yielded := []
  answered := []
  journal := []

/-! ## Parts -/

/-- Changes the browser. -/
def update (s : Session) (f : Browser → Browser) : Session := { s with browser := f s.browser }

def backend? (s : Session) (number : Nat) : Option Backend := s.backends[number]?

def setBackend (s : Session) (number : Nat) (b : Backend) : Session :=
  { s with backends := s.backends.set number b }

/-- Adds to what is ready. -/
def spawn (s : Session) (job : Job) : Session := { s with ready := s.ready ++ [job] }

/-- Adds to the journal. -/
def note (s : Session) (event : LoadEvent) : Session := { s with journal := s.journal ++ [event] }

/-- Changes the browser so that what was loaded before is out of date. -/
def renew (s : Session) (f : Browser → Browser) : Session := (s.update f).note .renewed

/-- The loads that have begun and wait. -/
def underWay (s : Session) : List Load :=
  s.ready.filterMap Job.load? ++ s.waiting.filterMap (·.pause.load?)

/-- Shows a failure that is not one of a load. -/
def trouble (s : Session) (f : Fault) : Session := (s.update (·.fail f)).note .troubled

/-- An id that has not been given out before. -/
def newId (s : Session) : Session × String :=
  ({ s with ids := s.ids + 1 }, String.ofList (Text.hexText 32 s.ids))

/-- Uses a backend that has to be there. -/
def onBackend {α : Type} (s : Session) (number : Nat) (f : Backend → Backend × Except Fault α) :
    Session × Except Fault α :=
  match s.backend? number with
  | some b =>
    let (b, result) := f b
    (s.setBackend number b, result)
  | none => (s, .error (.failure .unimplemented))

/-! ## Requests -/

/-- Sends a request to a backend. -/
def send (s : Session) (backend : Nat) (collection : String) (request : Fields) : Session × Sent :=
  let sent : Sent := ⟨backend, collection, request⟩
  ({ s with sent := s.sent ++ [sent] }, sent)

/-- Whether requests to a backend have to wait. -/
def isHeld (s : Session) (backend : Nat) : Bool := (s.backend? backend).any (·.held)

/-- The answer to a request, given now. -/
def respond (s : Session) (sent : Sent) : Session × Except Fault Value :=
  let (s, answer) := s.onBackend sent.backend (·.respond sent.collection sent.request)
  ({ s with yielded := s.yielded ++ (answer.toOption.map (.answer sent)).toList }, answer)

/-! ## The debouncer -/

/-- Forgets a run, wherever it stands. A load that it has begun stays begun. -/
def abort (s : Session) (run : Nat) : Session :=
  { s with
    asleep := s.asleep.filter (·.2 != run)
    ready := s.ready.filter (keeps run ·)
    waiting := s.waiting.filter (!belongs run ·)
    journal := s.journal ++ forgotten.map .dropped }
where
  /-- The loads that the run has begun. -/
  forgotten : List Load :=
    (s.ready.filter (!keeps run ·)).filterMap Job.load? ++
      (s.waiting.filter (belongs run ·)).filterMap (·.pause.load?)
  /-- Whether a waiting action belongs to a run. -/
  belongs (run : Nat) (w : Waiting) : Bool :=
    match w.owner with
    | .run n => n == run
    | .client _ => false
  /-- Whether a job stays when a run is forgotten. -/
  keeps (run : Nat) : Job → Bool
    | .scheduled n | .due n => n != run
    | .resume w => !belongs run w
    | _ => true

/-- Cancels the run that is pending. -/
def cancelRun (s : Session) : Session :=
  let s := match s.debouncer.victim none with
    | some run => s.abort run
    | none => s
  { s with debouncer := s.debouncer.cancel none }

/-- Schedules a run in the place of the one that is pending. -/
def scheduleRun (s : Session) : Session :=
  let s := s.cancelRun
  { s with debouncer := s.debouncer.schedule }.spawn (.scheduled s.debouncer.issued)

/-! ## Actions in several parts -/

/-- Goes on when an action is done. If it waits, what is left of it is put together with what
follows. -/
def andThen {π π' ρ ρ' : Type} (first : Session × Outcome π ρ) (left : π → π')
    (next : Session → ρ → Session × Outcome π' ρ') : Session × Outcome π' ρ' :=
  match first with
  | (s, .done r) => next s r
  | (s, .raised f) => (s, .raised f)
  | (s, .paused p) => (s, .paused (left p))

/-- Goes on with a result, or with the fault instead of it. -/
def orRaise {π ρ α : Type} (s : Session) (result : Except Fault α)
    (next : α → Session × Outcome π ρ) : Session × Outcome π ρ :=
  match result with
  | .ok a => next a
  | .error f => (s, .raised f)

end Session

end Folio
