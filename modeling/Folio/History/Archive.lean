-- Where remembered sets of filters are kept when the browser is gone. Anything asked of an archive
-- may fail.
import Folio.History.Entry

namespace Folio

/-- What an archive can be asked to do. -/
inductive ArchiveTask where
  | load
  | addSaved
  | addRecent
  | deleteSaved
  | countApplied
  deriving DecidableEq

namespace ArchiveTask

def all : List ArchiveTask := [load, addSaved, addRecent, deleteSaved, countApplied]

def name : ArchiveTask → String
  | load => "load"
  | addSaved => "add_saved"
  | addRecent => "add_recent"
  | deleteSaved => "delete_saved"
  | countApplied => "increment_applied"

def ofName? (name : String) : Option ArchiveTask := all.find? (·.name == name)

end ArchiveTask

/-- An archive, and what it fails to do. -/
structure Archive where
  shelf : FilterShelf
  failing : List ArchiveTask

namespace Archive

def empty : Archive := ⟨[], []⟩

def fails (a : Archive) (task : ArchiveTask) : Bool := a.failing.contains task

/-- Changes the sets of a place, or does nothing when the task fails. -/
def change (a : Archive) (task : ArchiveTask) (place : String)
    (f : FilterLists → FilterLists) : Archive :=
  if a.fails task then a else { a with shelf := a.shelf.update place f }

/-- The sets of a place. -/
def load? (a : Archive) (place : String) : Option FilterLists :=
  if a.fails .load then none else some (a.shelf.get place)

end Archive

end Folio
