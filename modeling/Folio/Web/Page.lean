-- Pages of the web: snapshots as JSON, in which numbers that are not finite have no place.
import Folio.Browser.Snapshot
import Folio.Value.Finite

namespace Folio.Web

/-- The body of a page. -/
def pageOf (s : Snapshot) : Value := (Envelope.success s.toValue.finite).toValue

end Folio.Web
