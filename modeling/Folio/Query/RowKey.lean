-- Keys of documents, by which pages are entered.
import Folio.Intake.Readers

namespace Folio

/-- The key of a document. -/
inductive RowKey where
  | text (s : String)
  | int (n : Int)
  deriving DecidableEq

namespace RowKey

def toValue : RowKey → Value
  | text s => .text s
  | int n => .int n

/-- A key is a text or a whole number; truth and floating numbers without a fraction count as
whole numbers. -/
def read : Reader RowKey
  | .text s => .sound (.text s)
  | v => (Reader.whole v).map .int

end RowKey

end Folio
