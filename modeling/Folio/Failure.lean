-- What can go wrong while a request is answered, apart from what the browser itself refuses.
namespace Folio

/-- The kinds of failure. -/
inductive FailureKind where
  | badType
  | badValue
  | missing
  | missingKey
  | badIndex
  | noMember
  | overflow
  | divisionByZero
  | unimplemented
  | badPattern
  | connection
  | runtime
  | system
  | timeout
  | internal
  | general
  deriving DecidableEq

/-- The name under which a kind of failure is reported. -/
def FailureKind.name : FailureKind → String
  | .badType => "TypeError"
  | .badValue => "ValueError"
  | .missing => "LookupError"
  | .missingKey => "KeyError"
  | .badIndex => "IndexError"
  | .noMember => "AttributeError"
  | .overflow => "OverflowError"
  | .divisionByZero => "ZeroDivisionError"
  | .unimplemented => "NotImplementedError"
  | .badPattern => "error"
  | .connection => "ConnectionError"
  | .runtime => "RuntimeError"
  | .system => "OSError"
  | .timeout => "TimeoutError"
  | .internal => "SystemError"
  | .general => "Exception"

/-- A failure and its words. -/
structure Failure where
  kind : FailureKind
  message : String
  deriving DecidableEq

end Folio
