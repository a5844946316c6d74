-- Stable sorting with a comparison that may fail. The longest run at the start is kept, turned
-- round if it descends; every further item is put behind all items that it is not less than,
-- searched for by halves.
namespace Folio.Collection

variable {α ε : Type}

/-- Takes the items of a run from the start; each is compared with the one before it. -/
def takeRun (less : α → α → Except ε Bool) (descending : Bool) (previous : α) :
    List α → Except ε (List α × List α)
  | [] => .ok ([], [])
  | a :: rest => do
    if (← less a previous) == descending then
      let (run, after) ← takeRun less descending a rest
      return (a :: run, after)
    return ([], a :: rest)

/-- Where an item is put between two bounds of sorted items. -/
def insertionPoint (less : α → α → Except ε Bool) (sorted : Array α) (a : α) (low high : Nat) :
    Except ε Nat :=
  if low < high then
    let middle := low + (high - low) / 2
    match sorted[middle]? with
    | none => .ok low
    | some b => do
      if ← less a b then insertionPoint less sorted a low middle
      else insertionPoint less sorted a (middle + 1) high
  else .ok low
termination_by high - low

/-- Puts an item among sorted ones. -/
def insertSorted (less : α → α → Except ε Bool) (sorted : List α) (a : α) : Except ε (List α) := do
  let place ← insertionPoint less sorted.toArray a 0 sorted.length
  return sorted.take place ++ a :: sorted.drop place

/-- The run at the start, in ascending order, and what follows it. -/
def firstRun (less : α → α → Except ε Bool) : List α → Except ε (List α × List α)
  | a :: b :: rest => do
    let descending ← less b a
    let (run, after) ← takeRun less descending b rest
    return (if descending then (a :: b :: run).reverse else a :: b :: run, after)
  | items => .ok (items, [])

/-- Sorts; items of which none is less keep their order. -/
def sortBy (less : α → α → Except ε Bool) (items : List α) : Except ε (List α) := do
  let (run, after) ← firstRun less items
  after.foldlM (insertSorted less) run

/-- Sorts the other way round; items of which none is less still keep their order. -/
def sortDown (less : α → α → Except ε Bool) (items : List α) : Except ε (List α) :=
  (sortBy less items.reverse).map List.reverse

end Folio.Collection
