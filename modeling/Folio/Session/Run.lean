-- The course of a session. Whoever asks for something has it done as far as it goes without
-- waiting, then all that is ready is done, and only then does time go on.
import Folio.Session.Perform

namespace Folio.Session

/-! ## Clients -/

/-- The answer of a client who has asked for everything. -/
def conclude (s : Session) (c : Client) : Session :=
  let answer : Answer :=
    if c.together then .ok (.several c.answers)
    else (c.answers.getLast?).getD (.ok .nothing)
  { s with answered := s.answered ++ [(c.number, answer)] }

/-- Asks for one thing after another until something has to wait. -/
def serve (s : Session) (c : Client) : List Command → Session
  | [] => s.conclude { c with todo := [] }
  | command :: rest =>
    match s.perform command with
    | (s, .done reply) => s.serve { c with answers := c.answers ++ [.ok reply] } rest
    | (s, .raised f) => s.serve { c with answers := c.answers ++ [.error f] } rest
    | (s, .paused pause) =>
      { s with waiting := s.waiting ++ [⟨.client { c with todo := rest }, pause⟩] }

/-- Goes on with a client after an action that has waited. -/
def serveAfter (s : Session) (c : Client) : Outcome Pause Reply → Session
  | .done reply => s.serve { c with answers := c.answers ++ [.ok reply] } c.todo
  | .raised f => s.serve { c with answers := c.answers ++ [.error f] } c.todo
  | .paused pause => { s with waiting := s.waiting ++ [⟨.client c, pause⟩] }

/-! ## Jobs -/

/-- Goes on with a run of the debouncer. Nobody hears of its faults. -/
def runAfter (s : Session) (run : Nat) : Outcome Pause Reply → Session
  | .paused pause => { s with waiting := s.waiting ++ [⟨.run run, pause⟩] }
  | _ => { s with debouncer := s.debouncer.settled run }

/-- Does a job. -/
def doJob (s : Session) : Job → Session
  | .logRecent => s.logRecent
  | .discover collection rows => s.discover collection rows
  | .scheduled run =>
    if s.debouncer.sleeps then { s with asleep := some (s.debouncer.due s.clock, run) }
    else s.spawn (.due run)
  | .due run =>
    let (s, outcome) := s.reloadFirst .verdict
    s.runAfter run outcome
  | .resume ⟨.client c, pause⟩ =>
    let (s, outcome) := s.resume pause
    s.serveAfter c outcome
  | .resume ⟨.run run, pause⟩ =>
    let (s, outcome) := s.resume pause
    s.runAfter run outcome

/-- Lets those go on who wait for the background. -/
def openBackground (s : Session) : Session :=
  if s.debouncer.pending then s else s.openGate .background

/-- Does what is ready, up to a number of jobs. -/
def doJobs : Nat → Session → Session
  | 0, s => s
  | n + 1, s =>
    match s.ready with
    | job :: rest => doJobs n ({ s with ready := rest }.doJob job)
    | [] =>
      let s := s.openBackground
      match s.ready with
      | job :: rest => doJobs n ({ s with ready := rest }.doJob job)
      | [] => s

/-- How many commands and waiting actions there are at most. -/
def demand (s : Session) : Nat :=
  (s.ready.map Job.demand).foldl Nat.add 0 + (s.waiting.map Waiting.demand).foldl Nat.add 0

/-- More jobs than can follow from what is under way: each command lets every waiting action go on
at most once, and each of them leaves a few jobs behind. -/
def jobLimit (s : Session) : Nat := 8 * (s.demand + 1) * (s.demand + 1)

/-- Does all that is ready. -/
def settle (s : Session) : Session := doJobs s.jobLimit s

/-! ## Time -/

/-- Moves the clock to the end of the delay of the run that is asleep. -/
def wake (s : Session) (due : Float) (run : Nat) : Session :=
  ({ s with clock := due, asleep := none }.spawn (.due run)).settle

/-- Lets time pass up to a point. -/
def passUntil (target : Float) : Nat → Session → Session
  | 0, s => { s with clock := target }
  | n + 1, s =>
    match s.asleep with
    | some (due, run) =>
      if due ≤ target then passUntil target n (s.wake due run) else { s with clock := target }
    | none => { s with clock := target }

/-- Lets time pass. -/
def sleep (s : Session) (seconds : Float) : Session :=
  passUntil (s.clock + seconds) (s.demand + 1) s

/-- Whether somebody has an answer. -/
def hasAnswered (s : Session) (number : Nat) : Bool := s.answered.any (·.1 == number)

/-- Lets time pass until somebody has an answer, or until nothing more comes by itself. -/
def awaitAnswer (number : Nat) : Nat → Session → Session
  | 0, s => s
  | n + 1, s =>
    match s.asleep with
    | some (due, run) => if s.hasAnswered number then s else awaitAnswer number n (s.wake due run)
    | none => s

/-! ## Steps -/

/-- Has a client served. -/
def run (s : Session) (number : Nat) (together : Bool) (commands : List Command) : Session :=
  (s.serve ⟨number, together, [], commands⟩ commands).settle

/-- Has one command done. -/
def ask (s : Session) (number : Nat) (command : Command) : Session :=
  s.run number false [command]

/-- Has one command done, and lets time pass for it. -/
def askPatiently (s : Session) (number : Nat) (command : Command) : Session :=
  let s := s.ask number command
  awaitAnswer number (s.demand + 1) s

/-- Has several commands done, one after another. -/
def askTogether (s : Session) (number : Nat) (commands : List Command) : Session :=
  s.run number true commands

/-- The answers that have been given, which are forgotten then. -/
def takeAnswers (s : Session) : Session × List (Nat × Answer) :=
  ({ s with answered := [] }, s.answered)

end Folio.Session
