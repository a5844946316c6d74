-- Things with names, each name once, in the order in which the names first came. Putting a thing
-- under a name changes what stands under that name and nothing else.
namespace Folio

/-- Things by their names. -/
abbrev Named (α : Type) := List (String × α)

namespace Named

variable {α : Type}

/-- The thing under a name. -/
def get? (all : Named α) (name : String) : Option α :=
  (all.find? (fun entry => entry.1 == name)).map (·.2)

/-- Whether there is a name. -/
def has (all : Named α) (name : String) : Bool := all.any (fun entry => entry.1 == name)

/-- Puts a thing under a name: in its old place, or behind all others. -/
def put (all : Named α) (name : String) (a : α) : Named α :=
  if has all name then all.map (fun entry => if entry.1 == name then (name, a) else entry)
  else all ++ [(name, a)]

/-- Puts many things, one after another. -/
def putAll (all changes : Named α) : Named α :=
  changes.foldl (fun all entry => put all entry.1 entry.2) all

/-- Things of distinct names; a name that comes again replaces the thing and keeps its place. -/
def ofList (entries : Named α) : Named α := putAll [] entries

/-- The names in their order. -/
def names (all : Named α) : List String := all.map (·.1)

@[simp] theorem get?_nil (name : String) : get? ([] : Named α) name = none := rfl

theorem get?_cons (entry : String × α) (rest : Named α) (name : String) :
    get? (entry :: rest) name = if entry.1 = name then some entry.2 else get? rest name := by
  by_cases h : entry.1 = name <;> simp [get?, h]

theorem has_cons (entry : String × α) (rest : Named α) (name : String) :
    has (entry :: rest) name = (entry.1 == name || has rest name) := rfl

theorem has_eq_isSome (all : Named α) (name : String) : has all name = (get? all name).isSome := by
  induction all with
  | nil => rfl
  | cons entry rest ih => by_cases h : entry.1 = name <;> simp [has_cons, get?_cons, h, ih]

theorem get?_map_put (all : Named α) (name other : String) (a : α) :
    get? (all.map (fun entry => if entry.1 == name then (name, a) else entry)) other
      = if other = name ∧ has all name then some a else get? all other := by
  induction all with
  | nil => simp [has]
  | cons entry rest ih =>
    simp only [List.map_cons, get?_cons, ih, has_cons]
    by_cases h : entry.1 = name <;> by_cases ho : other = name <;> grind

theorem get?_append_single (all : Named α) (name other : String) (a : α) :
    get? (all ++ [(name, a)]) other = (get? all other).or (if name = other then some a else none) := by
  induction all with
  | nil => simp [get?_cons]
  | cons entry rest ih =>
    rw [List.cons_append, get?_cons, get?_cons, ih]
    split <;> rfl

/-- What stands under a name is what was put there. -/
@[simp] theorem get?_put_self (all : Named α) (name : String) (a : α) :
    get? (put all name a) name = some a := by
  unfold put
  split
  · rename_i h
    rw [get?_map_put]
    simp [h]
  · rename_i h
    have : get? all name = none := by simpa [has_eq_isSome] using h
    simp [get?_append_single, this]

/-- Nothing else changes. -/
theorem get?_put_of_ne (all : Named α) {name other : String} (a : α) (h : other ≠ name) :
    get? (put all name a) other = get? all other := by
  unfold put
  split
  · rw [get?_map_put]
    simp [h]
  · rw [get?_append_single]
    simp [Ne.symm h]

/-- A name that is there keeps its place. -/
theorem names_put_of_has (all : Named α) (name : String) (a : α) (h : has all name) :
    names (put all name a) = names all := by
  simp only [put, h, ite_true, names, List.map_map]
  apply List.map_congr_left
  intro entry _
  by_cases he : entry.1 = name <;> simp [he]

end Named

end Folio
