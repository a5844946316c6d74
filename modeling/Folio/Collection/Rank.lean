-- The order of documents under a ranking: by their keys when there is none, by an attribute, or by
-- descending score. Documents without the attribute come last in either direction.
import Folio.Collection.Score
import Folio.Collection.Sort

namespace Folio.Collection

/-- The order of values of any kind: by the name of the kind, and within a kind by value; null
comes last. -/
def sortsBefore (a b : Value) : Except Failure Bool :=
  match a, b with
  | .null, _ => .ok false
  | _, .null => .ok true
  | a, b =>
    if a.kindName != b.kindName then .ok (decide (a.kindName < b.kindName))
    else if a.same b then .ok false
    else match a.compare .less b with
      | .ok before => .ok before
      | .error u => .error (.unordered u)

/-- Documents with the values by which they are sorted. -/
def keyed (attr : Value) : List Fields → Except Failure (List (Value × Fields))
  | [] => .ok []
  | doc :: rest => do
    let v ← attributeOf doc attr
    let others ← keyed attr rest
    return (v, doc) :: others

/-- Which way an attribute is sorted, if a ranking asks for that. -/
def directionOf? : Value → Option Bool
  | .text "asc" => some false
  | .text "desc" => some true
  | _ => none

/-- The order of documents by the values they are sorted by. -/
def keyBefore (a b : Value × Fields) : Except Failure Bool := sortsBefore a.1 b.1

/-- Documents by their keys. -/
def byKey (docs : List Fields) : Except Failure (List Fields) := do
  let sorted ← sortBy keyBefore (← keyed (.text "id") docs)
  return sorted.map (·.2)

/-- Documents by an attribute. -/
def byAttribute (attr : Value) (down : Bool) (docs : List Fields) :
    Except Failure (List Fields) := do
  let all ← keyed attr docs
  let present := all.filter (!·.1.isNull)
  let absent := all.filter (·.1.isNull)
  let sorted ← if down then sortDown keyBefore present else sortBy keyBefore present
  return (sorted ++ absent).map (·.2)

/-- Documents with their scores. -/
def scored (rank : Value) : List Fields → Except Failure (List (Float × Fields))
  | [] => .ok []
  | doc :: rest => do
    let s ← score doc rank
    let others ← scored rank rest
    return (s, doc) :: others

/-- The order of documents by score. -/
def scoreBefore (a b : Float × Fields) : Except Failure Bool := .ok (decide (a.1 < b.1))

/-- Notes the distance of each document from the vector that was asked for. -/
def noteDistance (entry : Float × Fields) : Float × Fields :=
  (entry.1, entry.2.put "$dist" (.float (1.0 - entry.1)))

/-- Documents by descending score. -/
def byScore (rank : Value) (nearest : Bool) (docs : List Fields) :
    Except Failure (List Fields) := do
  let all ← scored rank docs
  let sorted ← sortDown scoreBefore (if nearest then all.map noteDistance else all)
  return sorted.map (·.2)

/-- The documents in the order of a ranking. -/
def rank (docs : List Fields) (ranking : Value) : Except Failure (List Fields) :=
  if !ranking.isTrue then byKey docs
  else match ranking with
    | .list [attr, direction] =>
      match directionOf? direction with
      | some down => byAttribute attr down docs
      | none => byScore ranking false docs
    | .list [_, .text "ANN", _] => byScore ranking true docs
    | .list _ | .text _ => byScore ranking false docs
    | .object fields =>
      if fields.length == 2 then .error (.noField 1)
      else do
        let sorted ← byScore ranking false docs
        if fields.length == 3 then throw (.noField 1)
        return sorted
    | v => .error (.noLength v)

end Folio.Collection
