-- Lists in order. An item is put in front of the first one that it may stand before, so that
-- items which may stand either way round keep their order.
namespace Folio

variable {α : Type}

/-- Puts an item among items in order. -/
def insertBy (le : α → α → Bool) (a : α) : List α → List α
  | [] => [a]
  | b :: rest => if le a b then a :: b :: rest else b :: insertBy le a rest

/-- The items in order. -/
def sortedBy (le : α → α → Bool) : List α → List α
  | [] => []
  | a :: rest => insertBy le a (sortedBy le rest)

end Folio
