-- Sets of filters that are saved, and used again.
import Folio.Session.Change

namespace Folio.Session

/-- Does something at a place, which has to be selected. -/
def atPlace (s : Session) (next : String → String → Session × Outcome Pause Reply) :
    Session × Outcome Pause Reply :=
  match s.browser.place? with
  | some (connection, collection) => next connection collection
  | none => (s, .raised (.browser (.notInitialized "No connection/namespace selected")))

/-- Saves the filters in use under a name. -/
def saveFilter (s : Session) (name : Value) : Session × Outcome Pause Reply :=
  s.atPlace fun connection collection =>
  s.orRaise ((Reader.text name).within "name").orFault fun name =>
  let (s, id) := s.newId
  let entry := SavedFilter.make id name s.browser.config.searchText s.browser.config.predicates
    s.clock
  (s.update fun b => { b with history := b.history.save connection collection entry },
    .done (.saved entry))

/-- Deletes a saved set, and tells whether there was one. -/
def deleteSaved (s : Session) (id : String) : Session × Outcome Pause Reply :=
  s.atPlace fun connection collection =>
  let (history, deleted) := s.browser.history.deleteSaved connection collection id
  (s.update ({ · with history := history }), .done (.verdict deleted))

/-- Puts a set of filters in the place of those in use. -/
def applyFilters (s : Session) (searchText : String) (predicates : List Predicate) :
    Session × Outcome Pause Reply :=
  s.change { s.browser.config with searchText := searchText, predicates := predicates } true
    (.reply (.verdict true))

/-- Uses a saved set again, and tells whether there is one. -/
def applySaved (s : Session) (id : String) : Session × Outcome Pause Reply :=
  s.atPlace fun connection collection =>
  match s.browser.history.findSaved? connection collection id with
  | none => (s, .done (.verdict false))
  | some entry =>
    let s := s.update fun b =>
      { b with history := b.history.markApplied connection collection id }
    s.applyFilters entry.searchText entry.predicates

/-- Uses a set again that was used before, and tells whether there is one. -/
def applyRecent (s : Session) (id : String) : Session × Outcome Pause Reply :=
  s.atPlace fun connection collection =>
  match s.browser.history.findRecent? connection collection id with
  | none => (s, .done (.verdict false))
  | some entry => s.applyFilters entry.searchText entry.predicates

/-- Notes the filters in use. -/
def logRecent (s : Session) : Session :=
  match s.browser.place? with
  | none => s
  | some (connection, collection) =>
    let (s, id) := s.newId
    let entry := RecentFilter.make id s.browser.config.searchText s.browser.config.predicates
      s.clock
    s.update fun b =>
      { b with history := (b.history.logRecent connection collection entry).1 }

/-- Looks for attributes in rows of a collection, if it is still selected. -/
def discover (s : Session) (collection : String) (rows : List Fields) : Session :=
  if rows.isEmpty || s.browser.collection != some collection then s
  else match Discovery.ofDocuments rows s.browser.settings.sampleLimit with
    | .sound found => s.update (·.learn (s.browser.attributeKey collection) found s.clock)
    | .flawed _ => s

end Folio.Session
