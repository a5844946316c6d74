-- Changes of documents through the browser. What is shown is changed along with them, and pages
-- that were kept are dropped.
import Folio.Session.Change

namespace Folio.Session

/-- Writes to the backend of the browser. Its own complaints are passed on as they are; all other
failures are shown and passed on as failures of a backend. -/
def write {α : Type} (s : Session) (f : Backend → String → Backend × Except Fault α)
    (next : Session → α → Session × Outcome Pause Reply) : Session × Outcome Pause Reply :=
  match s.browser.executor, s.browser.current? with
  | some executor, some collection =>
    match s.onBackend executor (f · collection) with
    | (s, .ok a) => next (s.update fun b => { b with cache := b.cache.clear }) a
    | (s, .error (.browser f)) => (s, .raised (.browser f))
    | (s, .error f) =>
      let reported := Fault.browser (classify f)
      (s.trouble reported, .raised reported)
  | _, _ => (s, .raised (.browser (.notInitialized "Client not initialized")))

/-- Checks that values are keys. -/
def checkKeys : List Value → Except Fault Unit
  | [] => .ok ()
  | key :: rest => if key.isKey then checkKeys rest else .error (.failure (.noKey key))

/-- The rows whose key is none of those given. -/
def rowsWithout (keys : List Value) : List Fields → Except Fault (List Fields)
  | [] => .ok []
  | row :: rest => do
    let key := row.get "id"
    checkKeys [key]
    let others ← rowsWithout keys rest
    return if key.occursIn keys then others else row :: others

/-- Takes documents that were deleted off what is shown, and off the number that is known. -/
def lessen (s : Session) (kept : List Fields) (deleted : Nat) : Session :=
  let yielded := s.yielded ++ [.deleted (s.browser.executor.getD 0) deleted]
  { s with yielded := yielded }.update fun b =>
    { b with
      view := b.view.without kept
      unfiltered := b.unfiltered.map (fun n => max 0 (n - deleted)) }

/-- Deletes documents, and tells how many there were. -/
def delete (s : Session) (given : Value) : Session × Outcome Pause Reply :=
  s.orRaise ((Collection.elements given).mapError .failure) fun keys =>
  s.orRaise (checkKeys keys) fun _ =>
  s.write (·.delete · given) fun s deleted =>
  s.orRaise (rowsWithout keys s.browser.view.rows) fun kept =>
  (s.lessen kept deleted, .done (.number deleted))

/-- Changes fields of a document. -/
def updateDocument (s : Session) (key changes : Value) : Session × Outcome Pause Reply :=
  s.write (·.update · key changes) fun s _ =>
  let change (row : Fields) : Fields :=
    if (row.get "id").same key then row.putAll ((changes.fields?).getD []) else row
  (s.update fun b => { b with view := { b.view with rows := b.view.rows.map change } },
    .done .nothing)

/-- Stores documents, loads the first page, and tells how many documents there were. -/
def upsert (s : Session) (rows : Value) : Session × Outcome Pause Reply :=
  s.write (·.upsert · rows) fun s written =>
  (s.renew (·.invalidate)).reloadFirst (.reply (.number written))

end Folio.Session
