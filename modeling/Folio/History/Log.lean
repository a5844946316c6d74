-- The filters a browser remembers. What it holds itself is what a user sees; the archive, if there
-- is one, is told of every change, and its failures go unnoticed.
import Folio.History.Archive

namespace Folio

/-- The remembered filters of a browser. -/
structure History where
  archive : Option Archive
  savedLimit : Int
  recentLimit : Int
  shelf : FilterShelf

namespace History

def start (archive : Option Archive) (savedLimit recentLimit : Int) : History :=
  ⟨archive, savedLimit, recentLimit, []⟩

/-- The place of a connection and a collection. -/
def place (connection collection : String) : String := connection ++ ":" ++ collection

/-! ## Reading -/

def lists (h : History) (connection collection : String) : FilterLists :=
  h.shelf.get (place connection collection)

def saved (h : History) (connection collection : String) : List SavedFilter :=
  (h.lists connection collection).saved

def recent (h : History) (connection collection : String) : List RecentFilter :=
  (h.lists connection collection).recent

def findSaved? (h : History) (connection collection id : String) : Option SavedFilter :=
  (h.saved connection collection).find? (·.id == id)

def findRecent? (h : History) (connection collection id : String) : Option RecentFilter :=
  (h.recent connection collection).find? (·.id == id)

/-! ## Changing -/

/-- Changes the sets of a place as a user sees them, and tells the archive of the change. -/
def change (h : History) (task : ArchiveTask) (place : String)
    (seen kept : FilterLists → FilterLists) : History :=
  { h with
    shelf := h.shelf.update place seen
    archive := h.archive.map (·.change task place kept) }

/-- Takes the sets of a place from the archive; without its answer there are none. -/
def load (h : History) (connection collection : String) : History :=
  let place := place connection collection
  let found := (h.archive.bind (·.load? place)).getD .empty
  { h with shelf := h.shelf.put place (found.upTo h.savedLimit h.recentLimit) }

/-- Saves a set of filters in front of the others. -/
def save (h : History) (connection collection : String) (entry : SavedFilter) : History :=
  h.change .addSaved (place connection collection)
    (fun l => { l with saved := upTo h.savedLimit (entry :: l.saved) })
    (·.addSaved entry)

def markApplied (h : History) (connection collection id : String) : History :=
  h.change .countApplied (place connection collection) (·.countApplied id) (·.countApplied id)

/-- Deletes a saved set, and tells whether there was one. -/
def deleteSaved (h : History) (connection collection id : String) : History × Bool :=
  (h.change .deleteSaved (place connection collection) (·.deleteSaved id) (·.deleteSaved id),
    (h.findSaved? connection collection id).isSome)

/-- Notes a set of filters that is in use, unless it is empty or already there. -/
def logRecent (h : History) (connection collection : String) (entry : RecentFilter) :
    History × Option RecentFilter :=
  if entry.searchText == "" && entry.predicates.isEmpty then (h, none)
  else if (h.recent connection collection).any (·.holds entry.searchText entry.predicates) then
    (h, none)
  else
    (h.change .addRecent (place connection collection)
      (fun l => { l with recent := upTo h.recentLimit (entry :: l.recent) })
      (·.addRecent entry),
      some entry)

end History

end Folio
