-- A debouncer in the course of time. What a call does is written down: it may schedule another
-- call, cancel, pause until it is let go on, and fail. At most one run is asleep, since whoever
-- schedules a new one aborts it.
import Folio.Debounce.Basic
import Folio.Value.Basic

namespace Folio

mutual

/-- What a call does. -/
inductive Deed where
  | schedule (call : DelayedCall)
  | cancel
  | pause
  | fail

/-- A call with the tag by which it is known. -/
inductive DelayedCall where
  | call (tag : Value) (deeds : List Deed)

end

namespace DelayedCall

mutual

/-- How many turns a call takes at most, with all that it schedules. -/
def turns : DelayedCall → Nat
  | call _ deeds => turnsOfAll deeds + 2

def turnsOf : Deed → Nat
  | .schedule c => turns c
  | .cancel | .pause | .fail => 0

def turnsOfAll : List Deed → Nat
  | [] => 0
  | deed :: rest => turnsOf deed + turnsOfAll rest

end

end DelayedCall

/-- A run whose turn has come. -/
inductive Turn where
  /-- It has just been scheduled. -/
  | scheduled (run : Nat) (call : DelayedCall)
  /-- Its delay is over. -/
  | due (run : Nat) (call : DelayedCall)
  /-- It goes on after a pause. -/
  | resumed (run : Nat) (rest : List Deed)

namespace Turn

def run : Turn → Nat
  | scheduled run _ | due run _ | resumed run _ => run

/-- How many turns follow from one, with itself. -/
def turns : Turn → Nat
  | scheduled _ c => c.turns
  | due _ (.call _ deeds) | resumed _ deeds => DelayedCall.turnsOfAll deeds + 1

end Turn

/-- What becomes of runs, and of those who wait for them. -/
inductive RunEvent where
  | scheduled (run : Nat) (time : Float)
  /-- What is pending is to be cancelled. -/
  | cancelled
  /-- The call of a run is made. -/
  | started (run : Nat) (time : Float)
  /-- A run is aborted, from inside a run or from outside. -/
  | aborted (run : Nat) (inside : Option Nat)
  /-- A run has come to its end. -/
  | settled (run : Nat)
  /-- Somebody who has waited goes on. -/
  | returned
deriving DecidableEq

/-- A debouncer at a time. -/
structure Timeline where
  debouncer : Debouncer
  clock : Float
  /-- Whose turn has come, the first first. -/
  queue : List Turn
  /-- The run that is asleep, and when its delay is over. -/
  asleep : Option (Float × Nat × DelayedCall)
  paused : List (Nat × List Deed)
  /-- Those who wait, each by the run that it waits for. -/
  waiting : List Nat
  /-- The tags of the calls that were made, and when. -/
  made : List (Value × Float)
  /-- What has become of runs, in order. -/
  journal : List RunEvent

namespace Timeline

def start (delay : Float) : Timeline := ⟨.start delay, 0.0, [], none, [], [], [], []⟩

def pending (t : Timeline) : Bool := t.debouncer.pending

/-- Adds to the journal. -/
def note (t : Timeline) (event : RunEvent) : Timeline := { t with journal := t.journal ++ [event] }

/-! ## Calls -/

/-- Forgets a run. -/
def abort (t : Timeline) (run : Nat) : Timeline :=
  { t with
    queue := t.queue.filter (·.run != run)
    asleep := t.asleep.filter (·.2.1 != run)
    paused := t.paused.filter (·.1 != run) }

/-- Aborts what is pending, from inside a run or from outside. -/
def drop (t : Timeline) (inside : Option Nat) : Timeline :=
  let t := match t.debouncer.victim inside with
    | some run => (t.abort run).note (.aborted run inside)
    | none => t
  { t with debouncer := t.debouncer.cancel inside }

/-- Cancels what is pending. -/
def cancel (t : Timeline) (inside : Option Nat) : Timeline := (t.note .cancelled).drop inside

/-- Schedules a call in the place of what is pending. -/
def schedule (t : Timeline) (inside : Option Nat) (call : DelayedCall) : Timeline :=
  let run := t.debouncer.issued
  let t := (t.note (.scheduled run t.clock)).drop inside
  { t with debouncer := t.debouncer.schedule, queue := t.queue ++ [.scheduled run call] }

def settled (t : Timeline) (run : Nat) : Timeline :=
  { t with debouncer := t.debouncer.settled run }.note (.settled run)

/-- Does what a call does, up to a pause or to its end. -/
def perform (t : Timeline) (run : Nat) : List Deed → Timeline
  | [] => t.settled run
  | .schedule call :: rest => (t.schedule (some run) call).perform run rest
  | .cancel :: rest => (t.cancel (some run)).perform run rest
  | .pause :: rest => { t with paused := t.paused ++ [(run, rest)] }
  | .fail :: _ => t.settled run

/-! ## Turns -/

/-- Takes a turn. -/
def take (t : Timeline) : Turn → Timeline
  | .scheduled run call =>
    if t.debouncer.sleeps then { t with asleep := some (t.debouncer.due t.clock, run, call) }
    else { t with queue := t.queue ++ [.due run call] }
  | .due run (.call tag deeds) =>
    ({ t with made := t.made ++ [(tag, t.clock)] }.note (.started run t.clock)).perform run deeds
  | .resumed run rest => t.perform run rest

/-- Takes the first turn. -/
def takeFirst (t : Timeline) : Timeline :=
  match t.queue with
  | [] => t
  | turn :: rest => { t with queue := rest }.take turn

/-- How many turns are left before nothing happens by itself. -/
def turnsLeft (t : Timeline) : Nat :=
  (t.queue.map Turn.turns).foldl Nat.add 0 + (t.asleep.map (·.2.2.turns)).getD 0

/-- Takes turns while there are any, up to a number of them. -/
def takeTurns : Nat → Timeline → Timeline
  | 0, t => t
  | n + 1, t => takeTurns n t.takeFirst

/-- Takes all turns. -/
def settle (t : Timeline) : Timeline := takeTurns t.turnsLeft t

/-! ## Time -/

/-- Whether the clock may move to a time: not back, not while there is something to be done, and not
beyond the end of a delay. -/
def mayPass (t : Timeline) (time : Float) : Bool :=
  t.clock ≤ time && t.queue.isEmpty && t.asleep.all (fun (due, _) => due == time || !(due ≤ time))

/-- Moves the clock, if it may move. -/
def passTo (t : Timeline) (time : Float) : Timeline :=
  if t.mayPass time then { t with clock := time } else t

/-- Ends the delay of the run that is asleep, when it is time. -/
def ring (t : Timeline) : Timeline :=
  match t.asleep with
  | some (due, run, call) =>
    if due == t.clock then { t with asleep := none, queue := t.queue ++ [.due run call] } else t
  | none => t

/-- Moves the clock to the end of the delay of the run that is asleep. -/
def wake (t : Timeline) (due : Float) : Timeline := (t.passTo due).ring.settle

/-- Lets time pass up to a point; of the runs that are due by then each has its turn when it is
due. -/
def passUntil (target : Float) : Nat → Timeline → Timeline
  | 0, t => t.passTo target
  | n + 1, t =>
    match t.asleep with
    | some (due, _) => if due ≤ target then passUntil target n (t.wake due) else t.passTo target
    | none => t.passTo target

def sleep (t : Timeline) (seconds : Float) : Timeline :=
  passUntil (t.clock + seconds) t.turnsLeft t

/-! ## Pauses -/

/-- Lets a paused call go on, by its place among them. -/
def goOn (t : Timeline) (place : Nat) : Timeline :=
  match t.paused[place]? with
  | some (run, rest) =>
    { t with paused := t.paused.eraseIdx place, queue := t.queue ++ [.resumed run rest] }
  | none => t

/-- Lets all paused calls go on. -/
def resume (t : Timeline) : Timeline :=
  (t.paused.foldl (fun t _ => t.goOn 0) t).settle

/-! ## Waiting -/

/-- Whether a run is still there. -/
def holds (t : Timeline) (run : Nat) : Bool :=
  t.queue.any (·.run == run) || t.asleep.any (·.2.1 == run) || t.paused.any (·.1 == run)

/-- Somebody waits for the run that was scheduled last; without one there is nothing to wait for. -/
def await (t : Timeline) : Timeline :=
  if t.debouncer.issued == 0 then t.note .returned
  else { t with waiting := t.waiting ++ [t.debouncer.issued - 1] }

/-- One of those who wait looks around. When the run is over that it has waited for it goes on, or it
waits for the run that was scheduled last if this is another one. -/
def tell (t : Timeline) (place : Nat) : Timeline :=
  match t.waiting[place]? with
  | some run =>
    if t.holds run then t
    else if run + 1 == t.debouncer.issued then
      { t with waiting := t.waiting.eraseIdx place }.note .returned
    else { t with waiting := t.waiting.set place (t.debouncer.issued - 1) }
  | none => t

/-- All who wait look around, the last one first. -/
def tellAll (t : Timeline) : Timeline :=
  (List.range t.waiting.length).foldr (fun place t => t.tell place) t

/-- Lets time pass until nothing is pending. -/
def waitFor : Nat → Timeline → Timeline
  | 0, t => t
  | n + 1, t =>
    match t.asleep with
    | some (due, _) => if t.pending then waitFor n (t.wake due) else t
    | none => t

/-- Waits. Who has waited for an earlier run looks around twice. -/
def wait (t : Timeline) : Timeline :=
  let t := t.await
  (waitFor t.turnsLeft t).tellAll.tellAll

end Timeline

end Folio
