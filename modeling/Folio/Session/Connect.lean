-- Connecting to a backend. After too many attempts that failed no more are made.
import Folio.Session.Change

namespace Folio.Session

/-- An attempt to connect that came to nothing. -/
def refuseConnection (s : Session) (message : String) : Session × Outcome Pause Reply :=
  (s.trouble (.browser (.notInitialized message)), .done (.verdict false))

/-- Uses a backend for a connection from now on. -/
def useBackend (s : Session) (connection : String) (backend : Nat) : Session :=
  let s := s.update fun b =>
    let b := if b.connection != some connection
      then { b with cache := b.cache.clear, unfiltered := none } else b
    { b with executor := some backend, connection := some connection, attempts := 0,
             problem := none }
  s.note (.connected backend)

/-- Connects, unless that has been done, and tells whether there is a connection. -/
def connect (s : Session) (connection : String) : Session × Outcome Pause Reply :=
  let b := s.browser
  let limit := b.settings.connectAttempts
  if b.executor.isSome && b.connection == some connection then (s, .done (.verdict true))
  else match s.provider with
    | none => s.refuseConnection "No client provider configured"
    | some provider =>
      if b.attempts ≥ limit then
        s.refuseConnection ("Failed to initialize client after " ++ toString limit ++ " attempts")
      else
        let s := s.update fun b => { b with attempts := b.attempts + 1 }
        match provider.connect connection with
        | (provider, .error f) =>
          { s with provider := provider }.refuseConnection
            ("Failed to initialize client: " ++ f.message)
        | (provider, .ok backend) =>
          ({ s with provider := provider }.useBackend connection backend, .done (.verdict true))

end Folio.Session
