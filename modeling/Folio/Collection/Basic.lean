-- Collections of documents. The documents of a collection are kept by their keys, in the order in
-- which the keys first came; a key given again names the same document.
import Folio.Collection.Answer

namespace Folio

/-- A document with the key under which it was first stored. -/
structure Document where
  key : Value
  fields : Fields

/-- The documents of a collection. -/
abbrev Documents := List Document

namespace Failure

/-- A field that has to be there is not. -/
def noFieldNamed (name : String) : Failure := ⟨.missingKey, (Value.text name).quoted⟩

/-- Something whose parts have numbers, or that has no parts, was asked for a part by name. -/
def notNamed (v : Value) : Failure :=
  match v with
  | .text _ => ⟨.badType, "string indices must be integers, not 'str'"⟩
  | .list _ => ⟨.badType, "list indices must be integers or slices, not str"⟩
  | v => .notIndexed v

def noCollection (name : String) : Failure :=
  ⟨.missing, "404 Not Found: namespace=" ++ name⟩

def noDocument (key : Value) : Failure :=
  ⟨.missing, "404 Not Found: document id=" ++ key.shown⟩

def documentWithoutKey : Failure := ⟨.badValue, "400 Bad Request: row without id"⟩

end Failure

namespace Documents

def has (docs : Documents) (key : Value) : Bool := docs.any (·.key.same key)

/-- Stores a document: in the place of the one with its key, or behind all others. -/
def put (docs : Documents) (key : Value) (fields : Fields) : Documents :=
  if has docs key then
    docs.map (fun d => if d.key.same key then { d with fields := fields } else d)
  else docs ++ [⟨key, fields⟩]

/-- Changes the document with a key. -/
def change (docs : Documents) (key : Value) (f : Fields → Fields) : Documents :=
  docs.map (fun d => if d.key.same key then { d with fields := f d.fields } else d)

def remove (docs : Documents) (key : Value) : Documents := docs.filter (!·.key.same key)

/-- The documents without their keys. -/
def rows (docs : Documents) : List Fields := docs.map (·.fields)

/-- The key that stands in a document. -/
def keyOf (row : Value) : Except Failure (Value × Fields) := do
  let .object fields := row | throw (.notNamed row)
  let some key := Named.get? fields "id" | throw (.noFieldNamed "id")
  if !key.isKey then throw (.noKey key)
  return (key, fields)

/-- Documents that are given from the start. -/
def ofRows (docs : Documents) : List Value → Except Failure Documents
  | [] => .ok docs
  | row :: rest => do
    let (key, fields) ← keyOf row
    ofRows (docs.put key fields) rest

/-- The key of a document that is to be stored. -/
def newKeyOf (row : Value) : Except Failure (Value × Fields) := do
  if !(← memberOf (.text "id") row) then throw .documentWithoutKey
  keyOf row
where
  /-- Whether something has a name; null and numbers have no members. -/
  memberOf (name row : Value) : Except Failure Bool :=
    match row with
    | .object _ | .list _ | .text _ => Collection.memberOf name row
    | v => .error (.noMembers v)

/-- Stores documents one after another up to the first that cannot be stored. -/
def putRows (docs : Documents) : List Value → Documents × Option Failure
  | [] => (docs, none)
  | row :: rest =>
    match newKeyOf row with
    | .ok (key, fields) => putRows (docs.put key fields) rest
    | .error f => (docs, some f)

/-- Removes the documents with the given keys, up to the first value that is no key, and tells how
many there were. -/
def removeAll (docs : Documents) (removed : Nat) : List Value → Documents × Except Failure Nat
  | [] => (docs, .ok removed)
  | key :: rest =>
    if key.isKey then
      removeAll (docs.remove key) (if docs.has key then removed + 1 else removed) rest
    else (docs, .error (.noKey key))

end Documents

end Folio
