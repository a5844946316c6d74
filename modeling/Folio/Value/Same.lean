-- When two values are the same, and which values count as true. Numbers are the same when they
-- have the same exact value, and truth counts as one, falsity as zero; fields may stand in any
-- order.
import Folio.Number.Magnitude
import Folio.Value.Basic

namespace Folio

/-- The number that a scalar stands for. -/
def Scalar.magnitude? : Scalar → Option Number.Magnitude
  | .text _ => none
  | .int n => some (Number.ofWhole n)
  | .float x => some (Number.magnitude x)
  | .flag b => some (Number.ofWhole (if b then 1 else 0))

/-- Sameness of scalars. -/
def Scalar.same (a b : Scalar) : Bool :=
  match a, b with
  | .text s, .text t => s == t
  | a, b => match a.magnitude?, b.magnitude? with
    | some p, some q => p.same q
    | _, _ => false

namespace Value

mutual

/-- Sameness of values. -/
def same : Value → Value → Bool
  | .null, .null => true
  | .scalar a, .scalar b => a.same b
  | .list xs, .list ys => sameItems xs ys
  | .object xs, .object ys => xs.length == ys.length && sameFields xs ys
  | _, _ => false

/-- Lists are the same item by item. -/
def sameItems : List Value → List Value → Bool
  | [], [] => true
  | x :: xs, y :: ys => same x y && sameItems xs ys
  | _, _ => false

/-- Every field has the same value on the other side. -/
def sameFields : List (String × Value) → Fields → Bool
  | [], _ => true
  | (name, x) :: rest, ys =>
    (match Named.get? ys name with
      | some y => same x y
      | none => false) && sameFields rest ys

end

/-- Whether a list holds a value. -/
def occursIn (v : Value) (items : List Value) : Bool := items.any (v.same ·)

/-- Whether a value counts as true: null, zero and what is empty does not. -/
def isTrue : Value → Bool
  | .null => false
  | .text s => s != ""
  | .int n => n != 0
  | .float x => x != 0.0
  | .flag b => b
  | .list items => !items.isEmpty
  | .object fields => !fields.isEmpty

/-- Whether a value can be the key of a document: it has no parts. -/
def isKey : Value → Bool
  | .null | .scalar _ => true
  | _ => false

end Value

end Folio
