-- The settings of a browser, and where they are taken from: given values come first, then the
-- environment. The names of both may be written in any case.
import Folio.Character.Lower
import Folio.Intake.Readers

namespace Folio

/-- The settings of a browser. -/
structure Settings where
  pageSize : Int
  /-- Seconds for which a page holds. -/
  pageLifetime : Float
  /-- Seconds for which a change of the search text waits for the next one. -/
  searchDelay : Float
  connectAttempts : Int
  savedLimit : Int
  recentLimit : Int
  sampleLimit : Int

namespace Settings

def default : Settings := ⟨100, 300.0, 0.5, 3, 20, 30, 1000⟩

/-- The names of the settings. -/
def names : List String := [
  "DOCBROWSER_PAGE_SIZE", "DOCBROWSER_CACHE_TTL_SECONDS", "DOCBROWSER_DEBOUNCE_SECONDS",
  "DOCBROWSER_MAX_INIT_ATTEMPTS", "DOCBROWSER_SAVED_HISTORY_LIMIT",
  "DOCBROWSER_RECENT_HISTORY_LIMIT", "DOCBROWSER_DISCOVERY_SAMPLE_LIMIT"]

def toValue (s : Settings) : Value := .object (names.zip [
  .int s.pageSize, .float s.pageLifetime, .float s.searchDelay, .int s.connectAttempts,
  .int s.savedLimit, .int s.recentLimit, .int s.sampleLimit])

def read : Reader Settings := Reader.object fun fields =>
  let atLeastOne := Reader.wholeIn 1 none
  mk <$> fields.optional "DOCBROWSER_PAGE_SIZE" 100 (Reader.wholeIn 1 (some 10000))
    <*> fields.optional "DOCBROWSER_CACHE_TTL_SECONDS" 300.0
      (fun v => (Reader.number v).having (fun x => !(x ≤ 0.0)))
    <*> fields.optional "DOCBROWSER_DEBOUNCE_SECONDS" 0.5
      (fun v => (Reader.number v).having (fun x => !(x < 0.0)))
    <*> fields.optional "DOCBROWSER_MAX_INIT_ATTEMPTS" 3 atLeastOne
    <*> fields.optional "DOCBROWSER_SAVED_HISTORY_LIMIT" 20 atLeastOne
    <*> fields.optional "DOCBROWSER_RECENT_HISTORY_LIMIT" 30 atLeastOne
    <*> fields.optional "DOCBROWSER_DISCOVERY_SAMPLE_LIMIT" 1000 atLeastOne

def sameName (a b : String) : Bool :=
  Character.lowerText a.toList == Character.lowerText b.toList

/-- The value that a name has in the environment; of several spellings the last counts. -/
def inEnvironment? (environment : Fields) (name : String) : Option Value :=
  (environment.reverse.find? (fun field => sameName field.1 name)).map (·.2)

/-- The value given under a name: under the name itself, or else under another spelling. -/
def given? (values : Fields) (name : String) : Option Value :=
  (values.get? name).or ((values.find? (fun field => sameName field.1 name)).map (·.2))

/-- The settings under given values and an environment. Unlike the environment, the given values
may hold nothing but settings. -/
def load (environment values : Fields) : Checked Settings :=
  let found := names.filterMap (fun name =>
    ((given? values name).or (inEnvironment? environment name)).map (fun v => (name, v)))
  let unknown := (Named.names values).filter (fun name => !names.any (sameName name))
  unknown.foldr (fun name rest => Checked.both (Checked.refused.within name) rest)
    (read (.object found))

end Settings

end Folio
