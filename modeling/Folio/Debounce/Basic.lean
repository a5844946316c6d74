-- Calls that wait for a while, so that of several in a row only the last one is made. A run is one
-- such call with its delay; runs are numbered in the order in which they are scheduled.
namespace Folio

/-- The runs of a debouncer. -/
structure Debouncer where
  delay : Float
  /-- How many runs there have been, which is the number of the next one. -/
  issued : Nat
  /-- The run that was scheduled last, until it is over. -/
  latest : Option Nat

namespace Debouncer

def start (delay : Float) : Debouncer := ⟨delay, 0, none⟩

def pending (d : Debouncer) : Bool := d.latest.isSome

/-- Whether a run waits for the clock; otherwise it only lets others go first. -/
def sleeps (d : Debouncer) : Bool := !(d.delay ≤ 0.0)

/-- The time at which the delay of a run is over. -/
def due (d : Debouncer) (now : Float) : Float := now + d.delay

/-- The run that is aborted when another one is scheduled, or when all are cancelled. A run that
does so itself is not aborted. -/
def victim (d : Debouncer) (inside : Option Nat) : Option Nat :=
  d.latest.filter (fun run => inside != some run)

def cancel (d : Debouncer) (inside : Option Nat) : Debouncer :=
  if (d.victim inside).isSome then { d with latest := none } else d

/-- A new run. -/
def schedule (d : Debouncer) : Debouncer :=
  { d with issued := d.issued + 1, latest := some d.issued }

/-- A run is over. -/
def settled (d : Debouncer) (run : Nat) : Debouncer :=
  if d.latest == some run then { d with latest := none } else d

end Debouncer

end Folio
