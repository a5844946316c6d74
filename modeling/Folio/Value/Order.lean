-- The order of values: numbers by exact value, texts by code points, lists by their first
-- items that differ. Other pairs have no order, and asking for it is refused.
import Folio.Value.Same

namespace Folio

/-- How one value may stand to another one. -/
inductive Relation where
  | less
  | atMost
  | more
  | atLeast
  deriving DecidableEq

/-- The sign of a relation. -/
def Relation.sign : Relation → String
  | .less => "<"
  | .atMost => "<="
  | .more => ">"
  | .atLeast => ">="

/-- The relation between two numbers. -/
def Relation.ofMagnitudes (r : Relation) (a b : Number.Magnitude) : Bool :=
  match r with
  | .less => a.less b
  | .atMost => a.atMost b
  | .more => b.less a
  | .atLeast => b.atMost a

/-- The relation between two texts. -/
def Relation.ofTexts (r : Relation) (s t : String) : Bool :=
  match r with
  | .less => decide (s < t)
  | .atMost => !decide (t < s)
  | .more => decide (t < s)
  | .atLeast => !decide (s < t)

/-- The relation between two lengths. -/
def Relation.ofLengths (r : Relation) (m n : Nat) : Bool :=
  match r with
  | .less => decide (m < n)
  | .atMost => decide (m ≤ n)
  | .more => decide (n < m)
  | .atLeast => decide (n ≤ m)

/-- Two values without an order, by the names of their kinds. -/
structure Unordered where
  relation : Relation
  left : String
  right : String

def Unordered.message (u : Unordered) : String :=
  "'" ++ u.relation.sign ++ "' not supported between instances of '" ++ u.left ++ "' and '"
    ++ u.right ++ "'"

/-- The order of scalars. -/
def Scalar.compare (r : Relation) (a b : Scalar) : Except Unordered Bool :=
  match a, b with
  | .text s, .text t => .ok (r.ofTexts s t)
  | a, b => match a.magnitude?, b.magnitude? with
    | some p, some q => .ok (r.ofMagnitudes p q)
    | _, _ => .error ⟨r, a.kindName, b.kindName⟩

namespace Value

mutual

/-- Whether the first value stands in a relation to the second. -/
def compare (r : Relation) : Value → Value → Except Unordered Bool
  | .scalar a, .scalar b => a.compare r b
  | .list xs, .list ys => compareItems r xs ys
  | a, b => .error ⟨r, a.kindName, b.kindName⟩

/-- The first items that differ decide, or else the lengths. -/
def compareItems (r : Relation) : List Value → List Value → Except Unordered Bool
  | x :: xs, y :: ys => if same x y then compareItems r xs ys else compare r x y
  | xs, ys => .ok (r.ofLengths xs.length ys.length)

end

end Value

end Folio
