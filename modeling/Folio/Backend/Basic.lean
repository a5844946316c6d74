-- A backend: it answers requests about collections, at once or when it is let go on, and it may
-- fail. Behind it stands a store of documents, or a list of answers that are given whatever is
-- asked.
import Folio.Backend.DocumentStore
import Folio.Fault

namespace Folio

namespace Failure

/-- A backend that only answers requests was asked to write. -/
def readOnly (operation : String) : Failure :=
  ⟨.noMember, "'Scripted' object has no attribute '" ++ operation ++ "'"⟩

/-- A collaborator that was never given. -/
def unimplemented : Failure := ⟨.unimplemented, ""⟩

end Failure

/-- What stands behind a backend. -/
inductive Source where
  /-- Documents; the backend may be one that shows no schemas. -/
  | store (store : DocumentStore) (showsSchemas : Bool)
  /-- Answers that are left. -/
  | script (answers : List (Except Fault Value))

/-- A backend. -/
structure Backend where
  source : Source
  /-- Requests wait for their answers. -/
  held : Bool
  /-- What the next request fails with. -/
  failure : Option Fault
  /-- Who asks for a schema has to wait. -/
  schemaHeld : Bool
  /-- What asking for a schema fails with. -/
  schemaFailure : Option Fault
  /-- What deleting fails with. -/
  deleteFailure : Option Fault

namespace Backend

def ofSource (source : Source) : Backend := ⟨source, false, none, false, none, none⟩

/-- The answer to a request, given now. A failure that was ordered is used up by it. -/
def respond (b : Backend) (collection : String) (request : Fields) : Backend × Except Fault Value :=
  match b.source with
  | .script [] => (b, .ok (.object []))
  | .script (answer :: rest) => ({ b with source := .script rest }, answer)
  | .store store _ =>
    match b.failure with
    | some f => ({ b with failure := none }, .error f)
    | none => (b, (store.answer collection request).mapError .failure)

def showsSchemas (b : Backend) : Bool :=
  match b.source with
  | .store _ shows => shows
  | .script _ => false

/-- The schema of a collection. -/
def schema (b : Backend) (collection : String) : Except Fault Value :=
  match b.source, b.schemaFailure with
  | .store _ _, some f => .error f
  | .store store _, none => (store.schema collection).mapError .failure
  | .script _, _ => .error (.failure (.readOnly "get_schema"))

/-- Writes to the store with an operation of a name. -/
def write {α : Type} (b : Backend) (operation : String)
    (f : DocumentStore → DocumentStore × Except Failure α) : Backend × Except Fault α :=
  match b.source with
  | .store store shows =>
    let (store, result) := f store
    ({ b with source := .store store shows }, result.mapError .failure)
  | .script _ => (b, .error (.failure (.readOnly operation)))

def delete (b : Backend) (collection : String) (keys : Value) : Backend × Except Fault Nat :=
  match b.deleteFailure with
  | some f => (b, .error f)
  | none => b.write "delete_documents" (·.delete collection keys)

def update (b : Backend) (collection : String) (key changes : Value) : Backend × Except Fault Unit :=
  b.write "update_document" fun store =>
    match store.update collection key changes with
    | .ok changed => (changed, .ok ())
    | .error f => (store, .error f)

def upsert (b : Backend) (collection : String) (rows : Value) : Backend × Except Fault Nat :=
  b.write "upsert_documents" (·.upsert collection rows)

/-- Every collection with what is in it. -/
def contents (b : Backend) : Value :=
  match b.source with
  | .store store _ => store.contents
  | .script _ => .object []

end Backend

end Folio
