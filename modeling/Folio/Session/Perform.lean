-- What comes of a command at once: an answer, a fault, or an action that waits.
import Folio.Session.Connect
import Folio.Session.Remember
import Folio.Session.Write

namespace Folio

/-- The status under which a fault is reported over the web. -/
def Fault.refusal : Fault → Reply
  | .filter f => .refused 422 (some f.code)
  | .browser f => .refused f.status (some f.code)
  | _ => .refused 500 none

/-- The status of a problem that came up during an action of the web. -/
def statusOfProblem (code : String) : Nat :=
  if code == "query_error" || code == "no_searchable_fields" then 422
  else if code == "not_initialized" then 409
  else 502

namespace Session

/-! ## The background -/

/-- Whether something is left to be done in the background. -/
def isBusy (s : Session) : Bool :=
  s.debouncer.issued > 0 || s.ready.any fun job =>
    match job with
    | .logRecent | .discover _ _ => true
    | _ => false

def wait (s : Session) : Session × Outcome Pause Reply :=
  if s.isBusy then (s, .paused .background) else (s, .done .nothing)

/-! ## The web -/

/-- The browser as a page of the web. -/
def page (s : Session) : Reply :=
  match s.browser.snapshot with
  | .ok snapshot => .page snapshot
  | .error f => (Fault.failure f).refusal

/-- The page after an action, or a refusal if the action brought up a problem. -/
def pageAfter (s : Session) (before : Option Nat) : Reply :=
  match s.browser.state, s.browser.problem with
  | .failed, some problem =>
    if before == some problem.number then s.page
    else .refused (statusOfProblem problem.info.code) (some problem.info.code)
  | _, _ => s.page

/-- Turns what comes of an action into a page of the web. -/
def onWeb (before : Option Nat) (waits : Bool) :
    Session × Outcome Pause Reply → Session × Outcome Pause Reply
  | (s, .paused pause) => (s, .paused (.web before waits pause))
  | (s, .raised f) => (s, .done f.refusal)
  | (s, .done _) =>
    if waits && s.isBusy then (s, .paused (.web before false .background))
    else (s, .done (s.pageAfter before))

/-- Answers a request from the web. -/
def visit (s : Session) (request : Web.WebRequest) : Session × Outcome Pause Reply :=
  let before := s.browser.problem.map (·.number)
  match Web.read request with
  | .error refusal => (s, .done (.refused refusal.status refusal.detail?))
  | .ok .state => (s, .done s.page)
  | .ok (.intent intent) => onWeb before false (s.dispatch intent)
  | .ok (.search text waits) => onWeb before waits (s.dispatch (.setSearchText text))

/-! ## Backends -/

/-- Lets go on what waits at a gate, in the order in which it came there. -/
def openGate (s : Session) (gate : Gate) : Session :=
  { s with
    ready := s.ready ++ (s.waiting.filter (·.pause.gate == gate)).map .resume
    waiting := s.waiting.filter (·.pause.gate != gate) }

/-- Changes a backend. -/
def updateBackend (s : Session) (number : Nat) (f : Backend → Backend) : Session :=
  match s.backend? number with
  | some b => s.setBackend number (f b)
  | none => s

/-- The reply of an action on a backend. -/
def ended {α : Type} (view : α → Reply) (result : Session × Except Fault α) :
    Session × Outcome Pause Reply :=
  match result with
  | (s, .ok a) => (s, .done (view a))
  | (s, .error f) => (s, .raised f)

def silent (s : Session) : Session × Outcome Pause Reply := (s, .done .nothing)

/-- What comes of a command to a backend. -/
def performAt (s : Session) (number : Nat) : BackendCommand → Session × Outcome Pause Reply
  | .request collection request =>
    let (s, sent) := s.send number collection request
    if s.isHeld number then (s, .paused (.request sent)) else ended .value (s.respond sent)
  | .schema collection => ended .value (s.onBackend number fun b => (b, b.schema collection))
  | .delete collection keys =>
    ended (fun n => .number (n : Nat)) (s.onBackend number (·.delete collection keys))
  | .update collection key changes =>
    ended (fun _ => .nothing) (s.onBackend number (·.update collection key changes))
  | .upsert collection rows =>
    ended (fun n => .number (n : Nat)) (s.onBackend number (·.upsert collection rows))
  | .failNext fault => (s.updateBackend number ({ · with failure := some fault })).silent
  | .contents => ended .value (s.onBackend number fun b => (b, .ok b.contents))
  | .hold => (s.updateBackend number ({ · with held := true })).silent
  | .release keep =>
    ((s.updateBackend number ({ · with held := keep })).openGate (.requests number)).silent
  | .holdSchemas => (s.updateBackend number ({ · with schemaHeld := true })).silent
  | .releaseSchemas =>
    ((s.updateBackend number ({ · with schemaHeld := false })).openGate (.schemas number)).silent
  | .failSchemas fault => (s.updateBackend number ({ · with schemaFailure := fault })).silent
  | .failDeletes fault => (s.updateBackend number ({ · with deleteFailure := fault })).silent

/-! ## Commands -/

/-- Something that is no intent was dispatched. -/
def notAnIntent : Failure := ⟨.badType, "unsupported intent"⟩

/-- What comes of a command. -/
def perform (s : Session) : Command → Session × Outcome Pause Reply
  | .dispatch intent => s.orRaise (Intent.read intent) s.dispatch
  | .dispatchOther => (s, .raised (.failure notAnIntent))
  | .load page forced => thenReply (s.loadDocuments page forced) .verdict
  | .loadSchema forced =>
    andThen (s.loadSchema forced) (.schema · .attributes) fun s _ => s.withAttributes .attributes
  | .connect connection => s.connect connection
  | .resetAttempts => (s.update ({ · with attempts := 0 })).silent
  | .delete keys => s.delete keys
  | .update key changes => s.updateDocument key changes
  | .upsert rows => s.upsert rows
  | .saveFilter name => s.saveFilter name
  | .deleteSaved id => s.deleteSaved id
  | .applySaved id => s.applySaved id
  | .applyRecent id => s.applyRecent id
  | .savedFilters => (s, .done (.savedList s.browser.savedFilters))
  | .recentFilters => (s, .done (.recentList s.browser.recentFilters))
  | .snapshot =>
    s.orRaise (s.browser.snapshot.mapError .failure) fun snapshot => (s, .done (.snapshot snapshot))
  | .attributes => (s, .done (.attributes s.browser.registry.attributes))
  | .wait => s.wait
  | .web request => s.visit request
  | .mergeAttributes attributes =>
    s.orRaise (Reader.listOf Attribute.read attributes).orFault fun found =>
    (s.update fun b => { b with registry := b.registry.merge found }).silent
  | .clearAttributes => (s.update ({ · with registry := .empty })).silent
  | .failArchive tasks =>
    (s.update fun b =>
      { b with history :=
          { b.history with archive := b.history.archive.map ({ · with failing := tasks }) } }).silent
  | .backend number command => s.performAt number command

/-- Goes on with an action that has waited. -/
def resume (s : Session) : Pause → Session × Outcome Pause Reply
  | .load pause after => thenReply (s.resumeLoad pause) after
  | .schema query after => s.resumeSchema query after
  | .request sent => ended .value (s.respond sent)
  | .background => s.silent
  | .web before waits pause => onWeb before waits (s.resume pause)

end Session

end Folio
