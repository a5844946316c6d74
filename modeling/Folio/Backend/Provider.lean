-- Who hands out backends for connections. The first attempts to connect may fail.
import Folio.Failure
import Folio.Named

namespace Folio

namespace Failure

def unreachable (connection : String) : Failure :=
  ⟨.connection, "could not reach backend for connection=" ++ connection⟩

def noConnection (connection : String) : Failure :=
  ⟨.missing, "404 Not Found: connection=" ++ connection⟩

end Failure

/-- Backends, by their numbers, for connections. -/
structure Provider where
  backends : Named Nat
  /-- How many attempts are still going to fail. -/
  failures : Int
  attempts : Nat

namespace Provider

/-- Nobody has tried to connect yet. -/
def ofBackends (backends : Named Nat) (failures : Int) : Provider := ⟨backends, failures, 0⟩

/-- Tries to connect. -/
def connect (p : Provider) (connection : String) : Provider × Except Failure Nat :=
  let p := { p with attempts := p.attempts + 1 }
  if p.failures > 0 then ({ p with failures := p.failures - 1 }, .error (.unreachable connection))
  else match p.backends.get? connection with
    | some backend => (p, .ok backend)
    | none => (p, .error (.noConnection connection))

end Provider

end Folio
