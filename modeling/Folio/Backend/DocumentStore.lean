-- Named collections of documents, with the schemas that have been declared for them.
import Folio.Collection.Basic
import Folio.Discovery

namespace Folio

/-- Collections by their names. -/
structure DocumentStore where
  collections : Named Documents
  schemas : Fields

namespace DocumentStore

def empty : DocumentStore := ⟨[], []⟩

/-- Collections of documents that are given from the start. -/
def ofCollections (collections : Named (List Value)) (schemas : Fields) :
    Except Failure DocumentStore := do
  let filled ← collections.mapM fun (name, rows) => do return (name, ← Documents.ofRows [] rows)
  return ⟨filled, schemas⟩

def get? (s : DocumentStore) (name : String) : Option Documents :=
  s.collections.get? name

def put (s : DocumentStore) (name : String) (docs : Documents) : DocumentStore :=
  { s with collections := s.collections.put name docs }

/-- The documents of a collection that has to be there. -/
def documents (s : DocumentStore) (name : String) : Except Failure Documents :=
  match s.get? name with
  | some docs => .ok docs
  | none => .error (.noCollection name)

/-! ## Reading -/

/-- The answer to a request. -/
def answer (s : DocumentStore) (name : String) (request : Fields) : Except Failure Value := do
  Collection.answer (← s.documents name).rows request

/-- The schema of a collection: the declared one, or what its documents show. -/
def schema (s : DocumentStore) (name : String) : Except Failure Value :=
  match s.schemas.get? name with
  | some declared => .ok declared
  | none => do return .object (Discovery.schemaOf (← s.documents name).rows)

/-- Every collection with the keys and the documents in it. -/
def contents (s : DocumentStore) : Value :=
  .object (s.collections.map (fun (name, docs) =>
    (name, .list (docs.map (fun d => .list [d.key, .object d.fields])))))

/-! ## Writing -/

/-- Deletes documents, and tells how many there were. -/
def delete (s : DocumentStore) (name : String) (keys : Value) :
    DocumentStore × Except Failure Nat :=
  match s.documents name, Collection.elements keys with
  | .error f, _ | _, .error f => (s, .error f)
  | .ok docs, .ok keys =>
    let (left, deleted) := docs.removeAll 0 keys
    (s.put name left, deleted)

/-- Changes fields of a document. Its key stays, even if the field of that name changes. -/
def update (s : DocumentStore) (name : String) (key changes : Value) :
    Except Failure DocumentStore := do
  let docs ← s.documents name
  if !key.isKey then throw (.noKey key)
  if !docs.has key then throw (.noDocument key)
  let .object changes := changes | throw (.notIterable changes)
  return s.put name (docs.change key (·.putAll changes))

/-- Stores documents, in a new collection if there is none of that name, and tells how many. -/
def upsert (s : DocumentStore) (name : String) (rows : Value) :
    DocumentStore × Except Failure Nat :=
  let docs := (s.get? name).getD []
  match Collection.elements rows with
  | .ok rows =>
    match docs.putRows rows with
    | (docs, none) => (s.put name docs, .ok rows.length)
    | (docs, some f) => (s.put name docs, .error f)
  | .error f => (s.put name docs, .error f)

end DocumentStore

end Folio
