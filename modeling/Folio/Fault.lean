-- Everything that an operation can be refused for or fail with.
import Folio.Failure
import Folio.Filter.Fault
import Folio.Intake.Checked
import Folio.Query.Compile
import Folio.Text.Pattern.Matcher

namespace Folio

/-- What the browser reports. -/
inductive BrowserFault where
  /-- There is nothing to send a request to. -/
  | notInitialized (message : String)
  | filterNotFound (message : String)
  /-- A backend has failed. -/
  | backend (message kind : String)
  /-- A backend has refused the form of a request. -/
  | invalidSyntax (message kind : String)
  deriving DecidableEq

namespace BrowserFault

def family : BrowserFault → String
  | notInitialized _ => "NotInitialized"
  | filterNotFound _ => "FilterNotFound"
  | backend _ _ => "BackendError"
  | invalidSyntax _ _ => "InvalidQuerySyntax"

def code : BrowserFault → String
  | notInitialized _ => "not_initialized"
  | filterNotFound _ => "filter_not_found"
  | backend _ _ => "backend_error"
  | invalidSyntax _ _ => "invalid_query_syntax"

/-- The status under which it is reported. -/
def status : BrowserFault → Nat
  | notInitialized _ => 409
  | filterNotFound _ => 404
  | backend _ _ | invalidSyntax _ _ => 502

def message : BrowserFault → String
  | notInitialized m | filterNotFound m | backend m _ | invalidSyntax m _ => m

/-- The kind of a failure of a backend. -/
def kind? : BrowserFault → Option String
  | backend _ kind | invalidSyntax _ kind => some kind
  | _ => none

def isBackend (f : BrowserFault) : Bool := f.kind?.isSome

end BrowserFault

/-- Why an operation did not succeed. -/
inductive Fault where
  | filter (f : FilterFault)
  | query (f : QueryFault)
  | browser (f : BrowserFault)
  /-- The given values are not what is expected. -/
  | invalid (flaws : List Flaw)
  | failure (f : Failure)

namespace Fault

/-- The name under which a fault is reported. -/
def family : Fault → String
  | filter f => f.family
  | query f => f.family
  | browser f => f.family
  | invalid _ => "ValidationError"
  | failure f => f.kind.name

def message : Fault → String
  | filter f => f.message
  | query f => f.message
  | browser f => f.message
  | invalid flaws => flawNotes flaws
  | failure f => f.message

end Fault

/-- Checked values as the result of an operation. -/
def Checked.orFault {α : Type} (c : Checked α) : Except Fault α :=
  match c with
  | .sound a => .ok a
  | .flawed flaws => .error (.invalid flaws)

/-! ## Classes of backend failures -/

/-- Signs in the message of a failure, and the kinds that they stand for. -/
def failureSigns : List (String × String) := [
  ("bad_request", "(?i)\\b400\\b|bad request"),
  ("auth", "(?i)\\b401\\b|unauthori[sz]ed"),
  ("forbidden", "(?i)\\b403\\b|forbidden"),
  ("not_found", "(?i)\\b404\\b|not found"),
  ("timeout", "(?i)timeout|timed out")]

def showsSign (message pattern : String) : Bool :=
  match Text.Pattern.compile pattern.toList with
  | .ok program => program.foundIn message.toList
  | .error _ => false

/-- The kind of failure that a message speaks of. -/
def kindOfMessage (message : String) : String :=
  ((failureSigns.find? (fun sign => showsSign message sign.2)).map (·.1)).getD "unknown"

def Fault.isTimeout : Fault → Bool
  | .failure f => f.kind == .timeout
  | _ => false

/-- What a failing backend is reported as. Failures that a backend reports itself stay as they
are. -/
def classify (fault : Fault) : BrowserFault :=
  let message := if fault.message == "" then fault.family else fault.message
  let kind := if fault.isTimeout then "timeout" else kindOfMessage message
  let made := if kind == "bad_request" then BrowserFault.invalidSyntax message kind
    else .backend message kind
  match fault with
  | .browser f => if f.isBackend then f else made
  | _ => made

end Folio
