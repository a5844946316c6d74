-- The form in which every answer to a view is given: what was asked for, or what went wrong.
import Folio.Intake.Readers

namespace Folio

/-- What went wrong, for programs and for readers. -/
structure ErrorInfo where
  /-- A word that stays the same. -/
  code : String
  message : String
  details : Option Fields

namespace ErrorInfo

def toValue (e : ErrorInfo) : Value := .object [
  ("code", .text e.code),
  ("message", .text e.message),
  ("details", .ofOption .object e.details)]

/-- Checks the parts of an error. -/
def ofParts (code message details : Value) : Checked ErrorInfo :=
  mk <$> (Reader.text code).within "code"
    <*> (Reader.text message).within "message"
    <*> (Reader.nullable Reader.fields details).within "details"

end ErrorInfo

/-- An answer. -/
inductive Envelope where
  | success (data : Value)
  | failure (error : ErrorInfo)

namespace Envelope

def toValue : Envelope → Value
  | success data => .object [("ok", .flag true), ("data", data), ("error", .null)]
  | failure error => .object [("ok", .flag false), ("data", .null), ("error", error.toValue)]

end Envelope

end Folio
