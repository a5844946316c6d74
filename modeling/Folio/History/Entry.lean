-- Sets of filters that are remembered: those a user has saved under a name, and those that were
-- used of late.
import Folio.Filter.Predicate
import Folio.Limit

namespace Folio

/-- A set of filters saved under a name. -/
structure SavedFilter where
  id : String
  name : String
  searchText : String
  predicates : List Predicate
  savedAt : Float
  /-- How often it has been applied. -/
  applied : Int
  description : String

/-- A set of filters that was used. -/
structure RecentFilter where
  id : String
  searchText : String
  predicates : List Predicate
  usedAt : Float
  description : String

namespace SavedFilter

/-- Saves a set of filters that has not been applied yet. -/
def make (id name searchText : String) (predicates : List Predicate) (now : Float) :
    SavedFilter :=
  ⟨id, name, searchText, predicates, now, 0, describeFilters predicates searchText⟩

def fields (e : SavedFilter) : Fields := [
  ("id", .text e.id),
  ("name", .text e.name),
  ("search_text", .text e.searchText),
  ("predicates", .list (e.predicates.map Predicate.toValue)),
  ("applied_count", .int e.applied),
  ("description", .text e.description)]

/-- All there is to an entry, with its time. -/
def toValue (e : SavedFilter) : Value := .object (e.fields ++ [("timestamp", .float e.savedAt)])

end SavedFilter

namespace RecentFilter

def make (id searchText : String) (predicates : List Predicate) (now : Float) : RecentFilter :=
  ⟨id, searchText, predicates, now, describeFilters predicates searchText⟩

def fields (e : RecentFilter) : Fields := [
  ("id", .text e.id),
  ("search_text", .text e.searchText),
  ("predicates", .list (e.predicates.map Predicate.toValue)),
  ("description", .text e.description)]

/-- All there is to an entry, with its time. -/
def toValue (e : RecentFilter) : Value := .object (e.fields ++ [("timestamp", .float e.usedAt)])

/-- Whether it is the set of a search text and filters; ids of filters do not matter. -/
def holds (e : RecentFilter) (searchText : String) (predicates : List Predicate) : Bool :=
  e.searchText == searchText && e.predicates.map Predicate.triple == predicates.map Predicate.triple

end RecentFilter

/-- The remembered sets of one place, the newest first. -/
structure FilterLists where
  saved : List SavedFilter
  recent : List RecentFilter

namespace FilterLists

def empty : FilterLists := ⟨[], []⟩

def addSaved (l : FilterLists) (e : SavedFilter) : FilterLists := { l with saved := e :: l.saved }

def addRecent (l : FilterLists) (e : RecentFilter) : FilterLists :=
  { l with recent := e :: l.recent }

def deleteSaved (l : FilterLists) (id : String) : FilterLists :=
  { l with saved := l.saved.filter (·.id != id) }

/-- Counts that a saved set has been applied. -/
def countApplied (l : FilterLists) (id : String) : FilterLists :=
  { l with saved := l.saved.map (fun e =>
      if e.id == id then { e with applied := e.applied + 1 } else e) }

/-- No more than so many sets of either sort. -/
def upTo (l : FilterLists) (saved recent : Int) : FilterLists :=
  ⟨Folio.upTo saved l.saved, Folio.upTo recent l.recent⟩

end FilterLists

/-- Remembered sets by the places they belong to. -/
abbrev FilterShelf := Named FilterLists

namespace FilterShelf

/-- The sets of a place, none if nothing is known about it. -/
def get (s : FilterShelf) (place : String) : FilterLists := (s.get? place).getD .empty

def update (s : FilterShelf) (place : String) (f : FilterLists → FilterLists) : FilterShelf :=
  s.put place (f (s.get place))

section
variable (s : FilterShelf) {place other : String} (l : FilterLists)
  (f : FilterLists → FilterLists)

@[simp] theorem get_put_self : FilterShelf.get (s.put place l) place = l := by
  simp [get]

theorem get_put_of_ne (h : other ≠ place) :
    FilterShelf.get (s.put place l) other = s.get other := by
  simp [get, Named.get?_put_of_ne s l h]

@[simp] theorem get_update_self : (s.update place f).get place = f (s.get place) :=
  get_put_self s _

theorem get_update_of_ne (h : other ≠ place) : (s.update place f).get other = s.get other :=
  get_put_of_ne s _ h

end

end FilterShelf

end Folio
