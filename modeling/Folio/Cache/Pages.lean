-- Pages kept for a while. A page that is too old is not given out; it stays until another takes
-- its place.
import Folio.Intake.Readers

namespace Folio

/-- A page that has been fetched. -/
structure CachedPage where
  fingerprint : String
  rows : List Fields
  total : Option Int
  fetchedAt : Float

def CachedPage.toValue (p : CachedPage) : Value := .object [
  ("fingerprint", .text p.fingerprint),
  ("rows", .list (p.rows.map .object)),
  ("total_count", .ofOption .int p.total),
  ("fetched_at", .float p.fetchedAt)]

/-- Checks the parts of a page. -/
def CachedPage.ofParts (fingerprint : Value) (rows : List Fields) (total : Value)
    (fetchedAt : Float) : Checked CachedPage :=
  (fun fingerprint total => mk fingerprint rows total fetchedAt)
    <$> (Reader.text fingerprint).within "fingerprint"
    <*> (Reader.nullable Reader.whole total).within "total_count"

/-- Pages by their fingerprints, each of which holds for some seconds. -/
structure PageCache where
  lifetime : Float
  pages : List CachedPage

namespace PageCache

/-- Five minutes. -/
def defaultLifetime : Float := 300.0

def empty (lifetime : Float) : PageCache := ⟨lifetime, []⟩

def size (c : PageCache) : Nat := c.pages.length

/-- Whether a page fetched at a time still holds. A lifetime that is no number never ends. -/
def holds (c : PageCache) (fetchedAt now : Float) : Bool := !(now - fetchedAt ≥ c.lifetime)

/-- Whether something learned at a time is not older than pages may be. Under a lifetime that is no
number nothing is. -/
def isFresh (c : PageCache) (learnedAt now : Float) : Bool := now - learnedAt < c.lifetime

/-- The page with a fingerprint, if it still holds. -/
def get? (c : PageCache) (fingerprint : String) (now : Float) : Option CachedPage :=
  (c.pages.find? (·.fingerprint == fingerprint)).filter (fun p => c.holds p.fetchedAt now)

/-- Keeps a page in the place of the one with its fingerprint. -/
def put (c : PageCache) (page : CachedPage) : PageCache :=
  { c with pages := page :: c.pages.filter (·.fingerprint != page.fingerprint) }

def clear (c : PageCache) : PageCache := { c with pages := [] }

end PageCache

end Folio
