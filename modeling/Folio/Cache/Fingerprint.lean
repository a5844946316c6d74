-- The fingerprint of a page: a digest of everything that shapes it. Ids and displays of filters do
-- not belong to that.
import Folio.Digest.Sha256
import Folio.Json.Writer
import Folio.Query.Config

namespace Folio.Cache

/-- Everything that shapes one page, as one value. -/
def shape (connection collection : Value) (c : QueryConfig) (page pageSize : Value) : Value :=
  .list [
    connection,
    collection,
    .text c.searchText,
    .list (c.predicates.map (fun p =>
      .list [.text p.attr, .text p.operator.name, p.operand.toValue, .text p.attrType])),
    page,
    pageSize,
    .object { c with ranking := c.ranking.map RankNode.finite }.shapeFields]

/-- The bytes of characters none of which lies beyond ASCII. -/
def plainBytes (text : List Char) : List UInt8 := text.map (fun c => UInt8.ofNat c.toNat)

/-- The digest of a value, taken of its canonical text. -/
def digest (v : Value) : String := Digest.sha256 (plainBytes (Json.valueText .compact v))

/-- The fingerprint of a page. -/
def fingerprint (connection collection : Option String) (c : QueryConfig)
    (page pageSize : Int) : String :=
  digest (shape (.ofOption .text connection) (.ofOption .text collection) c (.int page)
    (.int pageSize))

end Folio.Cache
