-- Loading a page. A load gets to know the attributes, counts the matching documents and fetches
-- the page; it may have to wait before each of the three. If the query has changed meanwhile its
-- answer is dropped, and the first page of the new query is loaded after it.
import Folio.Session.Basic

namespace Folio.Session

/-! ## Attributes -/

/-- The schema that a backend shows now. -/
def schemaShown? (s : Session) (q : SchemaQuery) : Option Value :=
  (s.backend? q.backend).bind fun b => (b.schema q.collection).toOption

/-- Takes over the schema that a backend shows now. A backend that shows none is no hindrance. -/
def takeSchema (s : Session) (q : SchemaQuery) : Session × Except Fault Unit :=
  match s.schemaShown? q with
  | none => (s, .ok ())
  | some schema =>
    match Discovery.ofSchema schema with
    | .ok declared => (s.update (·.declare q.key declared s.clock), .ok ())
    | .error f => (s, .error (.failure f))

/-- Gets to know the attributes of the collection. Unless forced to, it does not ask again for
what still holds. -/
def loadSchema (s : Session) (forced : Bool) : Session × Outcome SchemaQuery Unit :=
  match s.browser.current?, s.browser.executor with
  | some collection, some executor =>
    let key := s.browser.attributeKey collection
    let known := if forced then none else s.browser.knownAttributes? key s.clock
    match known, s.backend? executor with
    | some attributes, _ => (s.update ({ · with registry := .ofList attributes }), .done ())
    | none, some backend =>
      let query : SchemaQuery := ⟨executor, collection, key⟩
      if !backend.showsSchemas then (s, .done ())
      else if backend.schemaHeld then (s, .paused query)
      else
        let (s, taken) := s.takeSchema query
        s.orRaise taken fun _ => (s, .done ())
    | none, none => (s, .done ())
  | _, _ => (s, .done ())

/-- Gets to know the attributes if there are none. -/
def ensureAttributes (s : Session) : Session × Outcome SchemaQuery Unit :=
  if s.browser.registry.size == 0 then s.loadSchema false else (s, .done ())

/-! ## Documents -/

/-- Ends a load with a failure of the backend. -/
def failLoad (s : Session) (f : Fault) : Session × Outcome LoadPause Bool :=
  (s.update (·.fail (.browser (classify f))), .done false)

/-- Shows a page that was kept. -/
def showKept (s : Session) (load : Load) (config : QueryConfig) (move : PageMove)
    (kept : CachedPage) : Session × Outcome LoadPause Bool :=
  s.orRaise (s.browser.paging.commit move (kept.rows.map .object)) fun paging =>
    let view := View.ofRows kept.rows kept.total
    let s := s.update fun b => { b with paging := paging }.present config view
    let s := (s.note (.recalled load config move kept)).note (.shown ⟨load, config, view⟩)
    (s.spawn (.discover load.collection kept.rows), .done true)

/-- Shows a page that was fetched, and keeps it unless it holds aggregations. -/
def showFetched (s : Session) (load : Load) (plan : PagePlan) (view : View) :
    Session × Outcome LoadPause Bool :=
  let s := s.update fun b =>
    let b := b.present plan.config view
    if plan.config.aggregates then b
    else { b with cache := b.cache.put ⟨plan.fingerprint, view.rows, view.total, s.clock⟩ }
  let s := s.note (.shown ⟨load, plan.config, view⟩)
  (s.spawn (.discover load.collection view.rows), .done true)

/-- Ends a load with the answer of the backend. -/
def receive (s : Session) (sent : Sent) (load : Load) (plan : PagePlan) (total : Int)
    (response : Value) : Session × Outcome LoadPause Bool :=
  if s.browser.generation != load.generation then (s.update (·.rest), .done false)
  else
    s.orRaise ((View.rowsIn response).mapError .failure) fun rows =>
    s.orRaise (s.browser.paging.commit plan.move rows) fun paging =>
    let s := (s.update ({ · with paging := paging })).note (.fetched sent load plan rows)
    s.orRaise (View.read rows total plan.config.aggregates response).orFault fun view =>
    s.showFetched load plan view

/-- Goes on with the answer to the request for the page. -/
def fetched (s : Session) (sent : Sent) (load : Load) (plan : PagePlan) (total : Int) :
    Session × Outcome LoadPause Bool :=
  match s.respond sent with
  | (s, .ok response) => s.receive sent load plan total response
  | (s, .error f) => s.failLoad f

/-- Sends a request to the backend that is used now. -/
def request (s : Session) (collection : String) (request : Request) : Session × Sent :=
  s.send (s.browser.executor.getD 0) collection request.toFields

/-- Asks for the documents of the page. -/
def fetch (s : Session) (load : Load) (plan : PagePlan) (total : Int) :
    Session × Outcome LoadPause Bool :=
  let (s, sent) := s.request load.collection plan.request
  let s := s.note (.asked sent load plan)
  if s.isHeld sent.backend then (s, .paused (.page sent load plan total))
  else s.fetched sent load plan total

/-- Goes on with the answer to the request for the number of documents. -/
def counted (s : Session) (sent : Sent) (load : Load) (plan : PagePlan) :
    Session × Outcome LoadPause Bool :=
  match s.respond sent with
  | (s, .error f) => s.failLoad f
  | (s, .ok response) =>
    match View.countIn Query.countLabel response with
    | .ok total => s.fetch load plan total
    | .error f => s.failLoad (.failure f)

/-- Asks for the number of documents, unless it is known. -/
def count (s : Session) (load : Load) (plan : PagePlan) : Session × Outcome LoadPause Bool :=
  match s.browser.knownTotal? plan.config load.forced with
  | some total => s.fetch load plan total
  | none =>
    let (s, sent) := s.request load.collection (Query.compileCount plan.config)
    if s.isHeld sent.backend then (s, .paused (.count sent load plan))
    else s.counted sent load plan

/-- The page that has been kept for a load. -/
def kept? (s : Session) (load : Load) (fingerprint : String) : Option CachedPage :=
  if load.forced || s.browser.config.aggregates then none
  else s.browser.cache.get? fingerprint s.clock

/-- Decides on the page, once the attributes are known. -/
def prepare (s : Session) (load : Load) : Session × Outcome LoadPause Bool :=
  if s.browser.generation != load.generation then (s.update (·.rest), .done false)
  else
    let s := s.update (·.retype)
    let b := s.browser
    s.orRaise ((b.targetPage load.page).mapError .failure) fun page =>
    let move := b.paging.plan page
    let fingerprint := Cache.fingerprint b.connection load.collection b.config move.page
      b.paging.pageSize
    match s.kept? load fingerprint with
    | some kept => s.showKept load b.config move kept
    | none =>
      match Query.compilePage b.config ⟨move.page, b.paging.pageSize, move.cursor⟩ b.registry with
      | .ok request => s.count load ⟨b.config, move, fingerprint, request⟩
      | .error f => (s.update (·.fail (.query f)), .done false)

/-- Notes how a load has come to its end, if it has. -/
def closing (load : Load) :
    Session × Outcome LoadPause Bool → Session × Outcome LoadPause Bool
  | (s, .done shown) => (s.note (.ended load), .done shown)
  | (s, .raised f) => (s.note (.broken load), .raised f)
  | (s, .paused pause) => (s, .paused pause)

/-- Begins a load, unless there is nothing to load from or another load is under way. -/
def beginLoad (s : Session) (page : Value) (forced : Bool) : Session × Outcome LoadPause Bool :=
  match s.browser.current? with
  | none => (s, .done false)
  | some collection =>
    if s.browser.isLoading then (s, .done false)
    else if s.browser.executor.isNone then
      (s.update (·.fail (.browser (.notInitialized "Client not initialized"))), .done false)
    else
      let load : Load := ⟨collection, s.browser.generation, page, forced⟩
      let s := (s.update (·.begin)).note (.begun load)
      closing load (andThen s.ensureAttributes (.schema · load) fun s _ => s.prepare load)

/-- Goes on with what a load has waited for. -/
def proceed (s : Session) : LoadPause → Session × Outcome LoadPause Bool
  | .schema query load =>
    let (s, taken) := s.takeSchema query
    s.orRaise taken fun _ => s.prepare load
  | .count sent load plan => s.counted sent load plan
  | .page sent load plan total => s.fetched sent load plan total

/-- Goes on with a load that has waited. -/
def continueLoad (s : Session) (pause : LoadPause) : Session × Outcome LoadPause Bool :=
  closing pause.load (s.proceed pause)

/-- Loads the first page if that was put off during a load which is over now. -/
def drain : Session × Outcome LoadPause Bool → Session × Outcome LoadPause Bool
  | (s, .done shown) =>
    if s.browser.reloadPending && !s.browser.isLoading then
      let s := (s.update ({ · with reloadPending := false })).note .takenUp
      s.beginLoad (.int 1) true
    else (s, .done shown)
  | unfinished => unfinished

/-- Loads a page, and tells whether its rows are shown. -/
def loadDocuments (s : Session) (page : Value) (forced : Bool) : Session × Outcome LoadPause Bool :=
  drain (s.beginLoad page forced)

def resumeLoad (s : Session) (pause : LoadPause) : Session × Outcome LoadPause Bool :=
  drain (s.continueLoad pause)

/-! ## Actions that load -/

/-- What an action replies when a load of it is over. -/
def thenReply (load : Session × Outcome LoadPause Bool) (after : AfterLoad) :
    Session × Outcome Pause Reply :=
  andThen load (.load · after) fun s shown => (s, .done (after.answer shown))

/-- Loads the first page anew, or puts that off if a load is under way. -/
def reloadFirst (s : Session) (after : AfterLoad) : Session × Outcome Pause Reply :=
  if s.browser.isLoading then
    let s := (s.update ({ · with reloadPending := true })).note (.putOff s.underWay)
    (s, .done (after.answer false))
  else thenReply (s.loadDocuments (.int 1) true) after

end Folio.Session
