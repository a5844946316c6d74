-- What is remembered about groups while a pattern is matched: where their edges were. Edges are
-- numbered; behind the last one that is known nothing is remembered.
import Folio.Text.Pattern.Steps

namespace Folio.Text.Pattern

/-- The places of the edges, in the order of their numbers. -/
abbrev Marks := List (Option Nat)

namespace Marks

/-- Sets an edge. Edges that it leaves out are unknown. -/
def put (marks : Marks) (edge place : Nat) : Marks :=
  if edge < marks.length then marks.set edge (some place)
  else marks ++ List.replicate (edge - marks.length) none ++ [some place]

/-- Where the text of a group starts and ends, once both edges are known and in order. -/
def group? (marks : Marks) (n : Nat) : Option (Nat × Nat) :=
  match marks[startEdge n]?, marks[endEdge n]? with
  | some (some first), some (some last) => if first ≤ last then some (first, last) else none
  | _, _ => none

/-- Whether some group ends before it starts. That can come about when its body is left after
only one of its edges has been set. -/
def isTorn : Marks → Bool
  | some first :: some last :: rest => decide (last < first) || isTorn rest
  | _ :: _ :: rest => isTorn rest
  | _ => false

/-- What is remembered after an attempt that failed: inside a repetition all is as before it,
elsewhere only edges with higher numbers than before are forgotten. -/
def afterFailure (repeating : Bool) (before failed : Marks) : Marks :=
  if repeating then before else failed.take before.length

end Marks

end Folio.Text.Pattern
