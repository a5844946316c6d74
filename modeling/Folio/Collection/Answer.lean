-- The answer of a collection to a request: the documents that pass the filter, ranked and cut off
-- after a number of them, or counted.
import Folio.Collection.Aggregate
import Folio.Collection.Rank

namespace Folio

namespace Failure

/-- Something that is no number and no text was to become a whole number. -/
def notWhole (v : Value) : Failure :=
  ⟨.badType, "int() argument must be a string, a bytes-like object or a real number, not '"
    ++ v.kindName ++ "'"⟩

def undefinedWhole : Failure := ⟨.badValue, "cannot convert float NaN to integer"⟩

def infiniteWhole : Failure := ⟨.overflow, "cannot convert float infinity to integer"⟩

/-- A text that is no whole number. -/
def unreadableWhole (s : String) (reason : Number.NoWhole) : Failure :=
  ⟨.badValue, reason.message s.toList⟩

end Failure

namespace Collection

/-- The whole number in a value; what stands behind the point is left out. -/
def wholeOf : Value → Except Failure Int
  | .int n => .ok n
  | .flag b => .ok (if b then 1 else 0)
  | .float x => match Number.magnitude x with
    | .finite q => .ok (if q < 0 then -((-q).floor) else q.floor)
    | .infinite _ => .error .infiniteWhole
    | .undefined => .error .undefinedWhole
  | .text s => match Number.readWhole s.toList with
    | .ok n => .ok n
    | .error reason => .error (.unreadableWhole s reason)
  | v => .error (.notWhole v)

/-- The first documents, as many as are asked for. -/
def firstOf (limit : Value) (docs : List Fields) : Except Failure (List Fields) :=
  if limit.isNull then .ok docs else do return docs.take (← wholeOf limit).toNat

/-- The answer to a request. -/
def answer (docs : List Fields) (request : Fields) : Except Failure Value := do
  let passing ← select (request.get "filters") docs
  let aggregates := request.get "aggregate_by"
  if aggregates.isTrue then aggregate passing aggregates (request.get "group_by")
  else
    let ranked ← rank passing (request.get "rank_by")
    let first ← firstOf (request.get "top_k") ranked
    return .object [("rows", .list (first.map .object))]

end Collection

end Folio
