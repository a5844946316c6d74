-- The calls of a debouncer, whatever happens to it. A call is made exactly if nobody has called again
-- before its turn came, and then once and at its time. At most one call waits, a call is never aborted
-- from inside itself, and who waits goes on only when the last run is over.
import Folio.Proofs.RunJournals
import Folio.Proofs.Times

namespace Folio

/-! ## A debouncer and its runs -/

section

variable {delay now : Float} {journal : List RunEvent} {d : Debouncer} {runs rest : List (Nat × RunStage)}
  {run : Nat} {stage : RunStage} {inside : Option Nat} {e : RunEvent}

/-- A debouncer knows the run that waits, since which nobody has called. -/
structure Orderly (delay : Float) (journal : List RunEvent) (d : Debouncer) (now : Float)
    (runs : List (Nat × RunStage)) : Prop where
  same : d.delay = delay
  account : Account delay journal d.issued now runs
  undisturbed : Undisturbed journal runs
  latest : ∀ run stage, (run, stage) ∈ runs → stage ≠ .active → d.latest = some run
  bound : ∀ run, d.latest = some run → run < d.issued

theorem Orderly.perm (h : Orderly delay journal d now runs) {others : List (Nat × RunStage)}
    (hperm : runs.Perm others) : Orderly delay journal d now others where
  same := h.same
  account := h.account.perm hperm
  undisturbed run stage hmem := h.undisturbed run stage (hperm.mem_iff.mpr hmem)
  latest run stage hmem := h.latest run stage (hperm.mem_iff.mpr hmem)
  bound := h.bound

/-- Of two runs that wait both are the same. -/
theorem Orderly.single (h : Orderly delay journal d now runs) {other : Nat} {stage' : RunStage}
    (hmem : (run, stage) ∈ runs) (hwaits : stage ≠ .active)
    (hmem' : (other, stage') ∈ runs) (hwaits' : stage' ≠ .active) : run = other :=
  Option.some.inj ((h.latest run stage hmem hwaits).symm.trans (h.latest other stage' hmem' hwaits'))

namespace Debouncer

/-- What is noted when the debouncer drops what is pending. -/
def dropNotes (d : Debouncer) (inside : Option Nat) : List RunEvent :=
  (d.victim inside).toList.map (.aborted · inside)

/-- The runs that are left when the debouncer drops what is pending. -/
def left (d : Debouncer) (inside : Option Nat) (runs : List (Nat × RunStage)) : List (Nat × RunStage) :=
  match d.victim inside with
  | some run => runs.filter (·.1 != run)
  | none => runs

theorem victim_eq_some : d.victim inside = some run ↔ d.latest = some run ∧ inside ≠ some run := by
  simp [victim, Option.filter_eq_some_iff]

@[simp]
theorem cancel_issued : (d.cancel inside).issued = d.issued := by
  unfold cancel
  split <;> rfl

@[simp]
theorem cancel_delay : (d.cancel inside).delay = d.delay := by
  unfold cancel
  split <;> rfl

theorem latest_of_cancel (h : (d.cancel inside).latest = some run) : d.latest = some run := by
  unfold cancel at h
  split at h
  · cases h
  · exact h

end Debouncer

/-- When somebody calls, from inside a run that is active or from outside, no run is left that waits. -/
theorem Orderly.drop (h : Orderly delay journal d now runs)
    (hinside : ∀ run, inside = some run → (run, .active) ∈ runs) (hcall : e.isCall = true)
    {issued : Nat} {extra : List (Nat × RunStage)} (hissued : d.issued ≤ issued)
    (hextra : ∀ p ∈ extra, d.issued ≤ p.1)
    (hnoted : Account delay (journal ++ [e]) issued now (runs ++ extra)) :
    Account delay (journal ++ [e] ++ d.dropNotes inside) issued now (d.left inside runs ++ extra) ∧
      ∀ run stage, (run, stage) ∈ d.left inside runs → stage = .active := by
  unfold Debouncer.dropNotes Debouncer.left
  cases hvictim : d.victim inside with
  | none =>
    refine ⟨by simpa using hnoted, ?_⟩
    intro run stage hmem
    by_contra hwaits
    -- the run that waits would be pending, so that the call would come from inside it
    have hlatest := h.latest run stage hmem hwaits
    have hsame : inside = some run := by
      by_contra hother
      rw [Debouncer.victim_eq_some.mpr ⟨hlatest, hother⟩] at hvictim
      cases hvictim
    exact hwaits (h.account.fates.of_mem hmem (hinside run hsame))
  | some victim =>
    obtain ⟨hlatest, hother⟩ := Debouncer.victim_eq_some.mp hvictim
    have hlt := h.bound victim hlatest
    have hdisturbed : ∀ i time, EntryAt (journal ++ [e]) i (.scheduled victim time) →
        ¬Started (journal ++ [e]) victim → Disturbed (journal ++ [e]) i victim := by
      intro i time hi hnot
      obtain ⟨j, time', hj⟩ := h.account.numbered.complete victim hlt
      obtain ⟨rfl, -⟩ := hnoted.numbered.unique hi (hj.snoc e)
      apply Disturbed.of_call hj.lt hcall
      rw [started_snoc, not_or] at hnot
      exact hnot.1
    have haborted := hnoted.abort hother (hlt.trans_le hissued) hdisturbed
    have hkept : extra.filter (·.1 != victim) = extra := by
      apply List.filter_eq_self.mpr
      intro p hp
      simpa using (hlt.trans_le (hextra p hp)).ne'
    rw [List.filter_append, hkept] at haborted
    refine ⟨haborted, ?_⟩
    intro run stage hmem
    obtain ⟨hmem, hne⟩ := List.mem_filter.mp hmem
    by_contra hwaits
    have hsame := Option.some.inj (hlatest.symm.trans (h.latest run stage hmem hwaits))
    simp [hsame] at hne

/-- Somebody cancels. -/
theorem Orderly.cancel (h : Orderly delay journal d now runs)
    (hinside : ∀ run, inside = some run → (run, .active) ∈ runs) :
    Orderly delay (journal ++ [.cancelled] ++ d.dropNotes inside) (d.cancel inside) now (d.left inside runs) := by
  have hnoted : Account delay (journal ++ [.cancelled]) d.issued now (runs ++ []) := by
    rw [List.append_nil]
    exact h.account.cancel
  obtain ⟨haccount, hactive⟩ := h.drop hinside rfl le_rfl (by simp) hnoted
  rw [List.append_nil] at haccount
  refine ⟨by simp [h.same], by simpa using haccount, ?_, ?_, ?_⟩
  · exact fun run stage hmem hwaits => absurd (hactive run stage hmem) hwaits
  · exact fun run stage hmem hwaits => absurd (hactive run stage hmem) hwaits
  · intro run hlatest
    rw [Debouncer.cancel_issued]
    exact h.bound run (Debouncer.latest_of_cancel hlatest)

theorem Calm.dropNotes {place : Nat} (h : Calm journal place journal.length) (d : Debouncer)
    (inside : Option Nat) : Calm (journal ++ d.dropNotes inside) place (journal ++ d.dropNotes inside).length := by
  unfold Debouncer.dropNotes
  cases d.victim inside with
  | none => simpa using h
  | some victim => exact h.snoc rfl

/-- Somebody schedules a run. -/
theorem Orderly.schedule (h : Orderly delay journal d now runs)
    (hinside : ∀ run, inside = some run → (run, .active) ∈ runs) :
    Orderly delay (journal ++ [.scheduled d.issued now] ++ d.dropNotes inside) (d.cancel inside).schedule now
      (d.left inside runs ++ [(d.issued, .fresh)]) := by
  obtain ⟨haccount, hactive⟩ := h.drop hinside rfl (Nat.le_succ d.issued) (by simp) h.account.schedule
  have hnew {run : Nat} {stage : RunStage} (hmem : (run, stage) ∈ d.left inside runs ++ [(d.issued, .fresh)])
      (hwaits : stage ≠ .active) : run = d.issued := by
    rcases List.mem_append.mp hmem with hmem | hmem
    · exact absurd (hactive run stage hmem) hwaits
    · exact (Prod.mk.inj (List.mem_singleton.mp hmem)).1
  refine ⟨by simp [Debouncer.schedule, h.same], by simpa [Debouncer.schedule] using haccount, ?_, ?_, ?_⟩
  · intro run stage hmem hwaits i since hi
    obtain rfl := hnew hmem hwaits
    have hlast : EntryAt (journal ++ [.scheduled d.issued now] ++ d.dropNotes inside) journal.length
        (.scheduled d.issued now) := by
      rw [EntryAt, List.getElem?_append_left (by simp)]
      exact entryAt_length journal _
    obtain ⟨rfl, -⟩ := haccount.numbered.unique hi hlast
    apply Calm.dropNotes
    intro k call hk hlt
    rw [List.length_append, List.length_singleton] at hlt
    omega
  · intro run stage hmem hwaits
    obtain rfl := hnew hmem hwaits
    simp [Debouncer.schedule]
  · intro run hlatest
    simp only [Debouncer.schedule, Debouncer.cancel_issued, Option.some.injEq] at hlatest ⊢
    omega

/-- The call of a run is made whose turn has come. -/
theorem Orderly.start (h : Orderly delay journal d now ((run, .ready) :: rest)) :
    Orderly delay (journal ++ [.started run now]) d now ((run, .active) :: rest) := by
  have hactive : ∀ other stage, (other, stage) ∈ (run, RunStage.active) :: rest → stage ≠ .active →
      (other, stage) ∈ (run, RunStage.ready) :: rest := by
    intro other stage hmem hwaits
    rcases List.mem_cons.mp hmem with heq | hmem
    · exact absurd (Prod.mk.inj heq).2 hwaits
    · exact List.mem_cons_of_mem _ hmem
  refine ⟨h.same, h.account.start h.undisturbed, ?_, ?_, h.bound⟩
  · intro other stage hmem hwaits i since hi
    have hcalm := h.undisturbed other stage (hactive other stage hmem hwaits) hwaits i since (hi.of_snoc (by simp))
    exact hcalm.snoc rfl
  · intro other stage hmem hwaits
    exact h.latest other stage (hactive other stage hmem hwaits) hwaits

/-- A run that was started comes to its end. -/
theorem Orderly.settle (h : Orderly delay journal d now ((run, .active) :: rest)) :
    Orderly delay (journal ++ [.settled run]) (d.settled run) now rest := by
  have hsame : (d.settled run).delay = d.delay ∧ (d.settled run).issued = d.issued := by
    unfold Debouncer.settled
    split <;> exact ⟨rfl, rfl⟩
  refine ⟨hsame.1.trans h.same, hsame.2 ▸ h.account.settle, ?_, ?_, ?_⟩
  · intro other stage hmem hwaits i since hi
    have hcalm := h.undisturbed other stage (List.mem_cons_of_mem _ hmem) hwaits i since (hi.of_snoc (by simp))
    exact hcalm.snoc rfl
  · intro other stage hmem hwaits
    have hlatest := h.latest other stage (List.mem_cons_of_mem _ hmem) hwaits
    have hother : run ≠ other := by
      rintro rfl
      exact hwaits (h.account.fates.of_mem (List.mem_cons_of_mem _ hmem) List.mem_cons_self)
    unfold Debouncer.settled
    rw [if_neg (by simpa [hlatest] using hother.symm)]
    exact hlatest
  · intro other hlatest
    rw [hsame.2]
    apply h.bound
    unfold Debouncer.settled at hlatest
    split at hlatest
    · cases hlatest
    · exact hlatest

/-- A run comes to another stage at which it waits. -/
theorem Orderly.move (h : Orderly delay journal d now ((run, stage) :: rest)) (stage' : RunStage)
    (hstage : stage ≠ .active) (hstage' : stage' ≠ .active)
    (hfits : ∀ since, stage.Fits delay since now → stage'.Fits delay since now) :
    Orderly delay journal d now ((run, stage') :: rest) := by
  have hwaited : ∀ other st, (other, st) ∈ (run, stage') :: rest → st ≠ .active →
      ∃ st', (other, st') ∈ (run, stage) :: rest ∧ st' ≠ .active := by
    intro other st hmem hwaits
    rcases List.mem_cons.mp hmem with heq | hmem
    · exact ⟨stage, (Prod.mk.inj heq).1 ▸ List.mem_cons_self, hstage⟩
    · exact ⟨st, List.mem_cons_of_mem _ hmem, hwaits⟩
  refine ⟨h.same, h.account.move hstage hstage' hfits, ?_, ?_, h.bound⟩
  · intro other st hmem hwaits
    obtain ⟨st', hmem', hwaits'⟩ := hwaited other st hmem hwaits
    exact h.undisturbed other st' hmem' hwaits'
  · intro other st hmem hwaits
    obtain ⟨st', hmem', hwaits'⟩ := hwaited other st hmem hwaits
    exact h.latest other st' hmem' hwaits'

/-- Somebody who has waited goes on. -/
theorem Orderly.goOn (h : Orderly delay journal d now runs) (hover : ∀ run, run + 1 = d.issued → Over journal run) :
    Orderly delay (journal ++ [.returned]) d now runs where
  same := h.same
  account := h.account.goOn hover
  undisturbed run stage hmem hwaits i since hi :=
    (h.undisturbed run stage hmem hwaits i since (hi.of_snoc (by simp))).snoc rfl
  latest := h.latest
  bound := h.bound

/-- Time passes. -/
theorem Orderly.pass (h : Orderly delay journal d now runs) {later : Float} (hlater : later ≤ later)
    (hfits : ∀ run stage, (run, stage) ∈ runs → ∀ since, stage.Fits delay since now →
      stage.Fits delay since later) : Orderly delay journal d later runs :=
  { h with account := h.account.pass hlater hfits }

end

/-! ## The runs of a timeline -/

/-- How far the run of a turn has come. -/
def Turn.stage : Turn → RunStage
  | scheduled .. => .fresh
  | due .. => .ready
  | resumed .. => .active

namespace Timeline

/-- The runs that are there, one of which may be running. -/
def runs (t : Timeline) (running : Option Nat) : List (Nat × RunStage) :=
  running.toList.map (·, .active) ++ t.queue.map (fun turn => (turn.run, turn.stage)) ++
    t.asleep.toList.map (fun (due, run, _) => (run, .asleep due)) ++ t.paused.map (fun (run, _) => (run, .active))

/-- A timeline in order, while a run may be running. -/
def InOrder (t : Timeline) (delay : Float) (running : Option Nat) : Prop :=
  Orderly delay t.journal t.debouncer t.clock (t.runs running)

variable {delay : Float} {t : Timeline} {running : Option Nat} {run : Nat} {turn : Turn} {turns : List Turn}
  {call : DelayedCall}

theorem runs_enqueue (turn : Turn) : ({ t with queue := t.queue ++ [turn] }.runs running).Perm
    ((turn.run, turn.stage) :: t.runs running) := by
  simp only [runs, List.map_append, List.map_singleton, List.append_assoc, List.singleton_append]
  rw [← List.append_assoc, ← List.append_assoc (running.toList.map _)]
  exact List.perm_middle

theorem runs_dequeue (h : t.queue = turn :: turns) : (t.runs running).Perm
    ((turn.run, turn.stage) :: { t with queue := turns }.runs running) := by
  simp only [runs, h, List.map_cons, List.append_assoc, List.cons_append]
  exact List.perm_middle

theorem runs_asleep {due : Float} (h : t.asleep = some (due, run, call)) : (t.runs running).Perm
    ((run, .asleep due) :: { t with asleep := none }.runs running) := by
  simp only [runs, h, Option.toList_some, Option.toList_none, List.map_cons, List.map_nil, List.append_assoc,
    List.singleton_append, List.nil_append]
  rw [← List.append_assoc, ← List.append_assoc (running.toList.map _)]
  exact List.perm_middle

theorem runs_pause (deeds : List Deed) : ({ t with paused := t.paused ++ [(run, deeds)] }.runs running).Perm
    ((run, .active) :: t.runs running) := by
  simp only [runs, List.map_append, List.map_singleton]
  rw [← List.append_assoc]
  exact List.perm_append_singleton _ _

theorem runs_unpause {deeds : List Deed} {place : Nat} (h : t.paused[place]? = some (run, deeds)) :
    (t.runs running).Perm ((run, .active) :: { t with paused := t.paused.eraseIdx place }.runs running) := by
  obtain ⟨hlt, hget⟩ := List.getElem?_eq_some_iff.mp h
  have hperm : t.paused.Perm ((run, deeds) :: t.paused.eraseIdx place) := by
    rw [← hget]
    exact (List.getElem_cons_eraseIdx_perm hlt).symm
  simp only [runs]
  exact ((hperm.map fun (run, _) => (run, RunStage.active)).append_left _).trans List.perm_middle

/-- Of the runs only the one that is aborted goes. -/
theorem runs_abort (h : running ≠ some run) :
    (t.abort run).runs running = (t.runs running).filter (·.1 != run) := by
  have hrunning : (running.toList.map (·, RunStage.active)).filter (·.1 != run) =
      running.toList.map (·, RunStage.active) := by
    apply List.filter_eq_self.mpr
    intro p hp
    obtain ⟨other, hother, rfl⟩ := List.mem_map.mp hp
    have hsome := Option.mem_toList.mp hother
    simpa using fun heq : other = run => h (heq ▸ hsome)
  simp only [runs, abort, List.filter_append, List.filter_map, hrunning]
  cases t.asleep with
  | none => rfl
  | some sleeper =>
    obtain ⟨due, other, call⟩ := sleeper
    by_cases hsame : other = run <;> simp [hsame, Option.filter, Function.comp_def]

theorem runs_drop : (t.drop running).runs running = t.debouncer.left running (t.runs running) := by
  unfold drop Debouncer.left
  cases hvictim : t.debouncer.victim running with
  | none => rfl
  | some victim => exact runs_abort (Debouncer.victim_eq_some.mp hvictim).2

theorem journal_drop : (t.drop running).journal = t.journal ++ t.debouncer.dropNotes running := by
  unfold drop Debouncer.dropNotes
  cases t.debouncer.victim running with
  | none => simp
  | some victim => rfl

theorem debouncer_drop : (t.drop running).debouncer = t.debouncer.cancel running := by
  unfold drop
  cases t.debouncer.victim running <;> rfl

theorem clock_drop : (t.drop running).clock = t.clock := by
  unfold drop
  cases t.debouncer.victim running <;> rfl

theorem mem_runs_of_running (h : running = some run) : (run, .active) ∈ t.runs running := by
  subst h
  exact List.mem_cons_self

/-! ## What a call does -/

theorem InOrder.cancel (h : t.InOrder delay running) : (t.cancel running).InOrder delay running := by
  have hcancelled := Orderly.cancel h (fun _ => mem_runs_of_running)
  unfold InOrder Timeline.cancel
  rw [journal_drop, debouncer_drop, clock_drop, runs_drop]
  exact hcancelled

theorem InOrder.schedule (h : t.InOrder delay running) (call : DelayedCall) :
    (t.schedule running call).InOrder delay running := by
  have hscheduled := Orderly.schedule h (fun _ => mem_runs_of_running)
  have hruns : ((t.note (.scheduled t.debouncer.issued t.clock)).drop running).runs running =
      t.debouncer.left running (t.runs running) := runs_drop
  have hleft : (t.debouncer.left running (t.runs running) ++ [(t.debouncer.issued, RunStage.fresh)]).Perm
      ((t.schedule running call).runs running) := by
    refine (List.perm_append_singleton _ _).trans ?_
    rw [← hruns]
    exact (runs_enqueue (.scheduled t.debouncer.issued call)).symm
  unfold InOrder
  unfold Timeline.schedule
  dsimp only
  rw [journal_drop, debouncer_drop, clock_drop]
  exact hscheduled.perm hleft

theorem InOrder.settled (h : t.InOrder delay (some run)) : (t.settled run).InOrder delay none :=
  Orderly.settle h

/-- What a call does keeps everything in order. -/
theorem InOrder.perform {deeds : List Deed} (h : t.InOrder delay (some run)) :
    (t.perform run deeds).InOrder delay none := by
  induction deeds generalizing t with
  | nil => exact h.settled
  | cons deed rest ih =>
    cases deed with
    | schedule call => exact ih (h.schedule call)
    | cancel => exact ih h.cancel
    | pause =>
      have hpause : ({ t with paused := t.paused ++ [(run, rest)] }.runs none).Perm (t.runs (some run)) :=
        runs_pause rest
      exact Orderly.perm h hpause.symm
    | fail => exact h.settled

/-! ## Turns and time -/

/-- While a run waits in the queue, none is asleep. -/
theorem InOrder.asleep_eq_none (h : t.InOrder delay running) (hqueue : t.queue = turn :: turns)
    (hwaits : turn.stage ≠ .active) : t.asleep = none := by
  cases hasleep : t.asleep with
  | none => rfl
  | some sleeper =>
    obtain ⟨due, run, call⟩ := sleeper
    have hturn : (turn.run, turn.stage) ∈ t.runs running := (runs_dequeue hqueue).mem_iff.mpr List.mem_cons_self
    have hsleeper : (run, .asleep due) ∈ t.runs running := (runs_asleep hasleep).mem_iff.mpr List.mem_cons_self
    have hsame := h.single hturn hwaits hsleeper (by simp)
    rw [hsame] at hturn
    have hstage : turn.stage = .asleep due := h.account.fates.of_mem hturn hsleeper
    cases turn <;> cases hstage

theorem InOrder.takeFirst (h : t.InOrder delay none) : t.takeFirst.InOrder delay none := by
  unfold Timeline.takeFirst
  cases hqueue : t.queue with
  | nil => exact h
  | cons turn turns =>
    have hfirst := Orderly.perm h (runs_dequeue hqueue)
    cases turn with
    | scheduled run call =>
      have hasleep : t.asleep = none := h.asleep_eq_none hqueue (by simp [Turn.stage])
      have hsleeps : t.debouncer.sleeps = true ↔ ¬delay ≤ 0.0 := by simp [Debouncer.sleeps, h.same]
      unfold take
      dsimp only
      by_cases hdelay : delay ≤ 0.0
      · rw [if_neg (by simpa [hsleeps] using hdelay)]
        have hready := hfirst.move .ready (by simp [Turn.stage]) (by simp)
          fun since hfits => .inl ⟨hdelay, hfits⟩
        exact Orderly.perm hready (runs_enqueue (.due run call)).symm
      · rw [if_pos (hsleeps.mpr hdelay)]
        have hsleeper := hfirst.move (.asleep (t.debouncer.due t.clock)) (by simp [Turn.stage]) (by simp)
          (by
            intro since hfits
            refine ⟨hdelay, ?_, .inl hfits⟩
            rw [Debouncer.due, h.same, show t.clock = since from hfits])
        have hawake : ({ t with queue := turns } : Timeline) = { t with queue := turns, asleep := none } := by
          rw [← hasleep]
        rw [hawake] at hsleeper
        have hperm : ({ t with
            queue := turns
            asleep := some (t.debouncer.due t.clock, run, call) }.runs none).Perm
              ((run, .asleep (t.debouncer.due t.clock)) :: { t with queue := turns, asleep := none }.runs none) :=
          runs_asleep rfl
        exact Orderly.perm hsleeper hperm.symm
    | due run call =>
      obtain ⟨tag, deeds⟩ := call
      exact InOrder.perform (Orderly.start hfirst)
    | resumed run deeds => exact InOrder.perform hfirst

theorem InOrder.takeTurns (h : t.InOrder delay none) (n : Nat) : (takeTurns n t).InOrder delay none := by
  induction n generalizing t with
  | zero => exact h
  | succ n ih => exact ih h.takeFirst

theorem InOrder.settle (h : t.InOrder delay none) : t.settle.InOrder delay none := h.takeTurns t.turnsLeft

/-- The clock moves to the end of a delay at most. -/
theorem InOrder.passTo (h : t.InOrder delay none) (time : Float) : (t.passTo time).InOrder delay none := by
  unfold Timeline.passTo
  by_cases hmay : t.mayPass time = true
  · rw [if_pos hmay]
    simp only [mayPass, Bool.and_eq_true, decide_eq_true_eq, List.isEmpty_iff] at hmay
    obtain ⟨⟨hlater, hqueue⟩, hasleep⟩ := hmay
    apply Orderly.pass h (time_of_le hlater).2
    intro run stage hmem since hfits
    simp only [runs, hqueue, Option.toList_none, List.map_nil, List.nil_append, List.mem_append] at hmem
    rcases hmem with hmem | hmem
    · obtain ⟨⟨due, sleeper, call⟩, hsome, heq⟩ := List.mem_map.mp hmem
      obtain ⟨rfl, rfl⟩ := Prod.mk.inj heq
      rw [Option.mem_toList.mp hsome] at hasleep
      obtain ⟨hdelay, hdue, -⟩ := hfits
      exact ⟨hdelay, hdue, .inr (by simpa using hasleep)⟩
    · obtain ⟨p, -, heq⟩ := List.mem_map.mp hmem
      rw [← (Prod.mk.inj heq).2]
      trivial
  · rw [if_neg hmay]
    exact h

theorem InOrder.ring (h : t.InOrder delay none) : t.ring.InOrder delay none := by
  unfold Timeline.ring
  cases hasleep : t.asleep with
  | none => exact h
  | some sleeper =>
    obtain ⟨due, run, call⟩ := sleeper
    dsimp only
    by_cases hdue : (due == t.clock) = true
    · rw [if_pos hdue]
      have hsleeper := Orderly.perm h (runs_asleep hasleep)
      have hready := hsleeper.move .ready (by simp) (by simp) fun since hfits => .inr (hfits.2.1 ▸ hdue)
      exact Orderly.perm hready (runs_enqueue (.due run call)).symm
    · rw [if_neg hdue]
      exact h

theorem InOrder.wake (h : t.InOrder delay none) (due : Float) : (t.wake due).InOrder delay none :=
  (h.passTo due).ring.settle

theorem InOrder.passUntil (h : t.InOrder delay none) (target : Float) (n : Nat) :
    (passUntil target n t).InOrder delay none := by
  induction n generalizing t with
  | zero => exact h.passTo target
  | succ n ih =>
    unfold Timeline.passUntil
    split
    · split
      · exact ih (h.wake _)
      · exact h.passTo target
    · exact h.passTo target

theorem InOrder.sleep (h : t.InOrder delay none) (seconds : Float) : (t.sleep seconds).InOrder delay none :=
  h.passUntil _ _

/-! ## Pauses and those who wait -/

theorem InOrder.goOn (h : t.InOrder delay none) (place : Nat) : (t.goOn place).InOrder delay none := by
  unfold Timeline.goOn
  cases hpaused : t.paused[place]? with
  | none => exact h
  | some p =>
    obtain ⟨run, deeds⟩ := p
    have hactive := Orderly.perm h (runs_unpause hpaused)
    exact Orderly.perm hactive (runs_enqueue (.resumed run deeds)).symm

theorem InOrder.resume (h : t.InOrder delay none) : t.resume.InOrder delay none := by
  have hall (paused : List (Nat × List Deed)) (u : Timeline) (hu : u.InOrder delay none) :
      (paused.foldl (fun u _ => u.goOn 0) u).InOrder delay none := by
    induction paused generalizing u with
    | nil => exact hu
    | cons p rest ih => exact ih _ (hu.goOn 0)
  exact (hall t.paused t h).settle

theorem holds_iff : t.holds run = true ↔ run ∈ (t.runs none).map Prod.fst := by
  unfold holds runs
  cases t.asleep with
  | none => simp
  | some sleeper => simp [or_assoc, @eq_comm _ run]

theorem InOrder.await (h : t.InOrder delay none) : t.await.InOrder delay none := by
  unfold Timeline.await
  by_cases hissued : t.debouncer.issued = 0
  · rw [if_pos (by simpa using hissued)]
    have hnone : ∀ run, run + 1 = t.debouncer.issued → Over t.journal run := by
      intro run hlast
      rw [hissued] at hlast
      cases hlast
    exact Orderly.goOn h hnone
  · rw [if_neg (by simpa using hissued)]
    exact h

theorem InOrder.tell (h : t.InOrder delay none) (place : Nat) : (t.tell place).InOrder delay none := by
  unfold Timeline.tell
  cases hwaiting : t.waiting[place]? with
  | none => exact h
  | some run =>
    dsimp only
    by_cases hholds : t.holds run = true
    · rw [if_pos hholds]
      exact h
    · rw [if_neg hholds]
      by_cases hlast : run + 1 = t.debouncer.issued
      · rw [if_pos (by simpa using hlast)]
        refine Orderly.goOn h ?_
        intro other hother
        obtain rfl : other = run := Nat.succ_injective (hother.trans hlast.symm)
        have hgone := mt holds_iff.mpr hholds
        exact (h.account.fates.present other (hlast ▸ Nat.lt_succ_self other)).resolve_left hgone
      · rw [if_neg (by simpa using hlast)]
        exact h

theorem InOrder.tellAll (h : t.InOrder delay none) : t.tellAll.InOrder delay none := by
  unfold Timeline.tellAll
  induction List.range t.waiting.length with
  | nil => exact h
  | cons place rest ih => exact ih.tell place

theorem InOrder.waitFor (h : t.InOrder delay none) (n : Nat) : (waitFor n t).InOrder delay none := by
  induction n generalizing t with
  | zero => exact h
  | succ n ih =>
    unfold Timeline.waitFor
    split
    · split
      · exact ih (h.wake _)
      · exact h
    · exact h

theorem InOrder.wait (h : t.InOrder delay none) : t.wait.InOrder delay none :=
  (h.await.waitFor _).tellAll.tellAll

end Timeline

/-! ## Whatever happens -/

/-- What may happen to a debouncer. -/
inductive Happening where
  /-- A call is scheduled from outside. -/
  | schedule (call : DelayedCall)
  /-- What is pending is cancelled from outside. -/
  | cancel
  /-- The first turn is taken, or all of them. -/
  | turn
  | settle
  /-- The clock moves, if it may move, or the delay of the run that is asleep ends, if it is time. -/
  | pass (time : Float)
  | ring
  /-- Time passes for a while, in which every run has its turn that is due. -/
  | sleep (seconds : Float)
  /-- A paused call goes on, or all of them. -/
  | goOn (place : Nat)
  | resume
  /-- Somebody begins to wait, or one of those who wait looks around. -/
  | await
  | tell (place : Nat)
  /-- Somebody waits while time passes. -/
  | wait

namespace Timeline

def happen (t : Timeline) : Happening → Timeline
  | .schedule call => t.schedule none call
  | .cancel => t.cancel none
  | .turn => t.takeFirst
  | .settle => t.settle
  | .pass time => t.passTo time
  | .ring => t.ring
  | .sleep seconds => t.sleep seconds
  | .goOn place => t.goOn place
  | .resume => t.resume
  | .await => t.await
  | .tell place => t.tell place
  | .wait => t.wait

/-- One thing happens after another. -/
def course (t : Timeline) (happenings : List Happening) : Timeline := happenings.foldl happen t

variable {delay : Float} {t : Timeline}

theorem InOrder.happen (h : t.InOrder delay none) (happening : Happening) : (t.happen happening).InOrder delay none := by
  cases happening with
  | schedule call => exact h.schedule call
  | cancel => exact h.cancel
  | turn => exact h.takeFirst
  | settle => exact h.settle
  | pass time => exact h.passTo time
  | ring => exact h.ring
  | sleep seconds => exact h.sleep seconds
  | goOn place => exact h.goOn place
  | resume => exact h.resume
  | await => exact h.await
  | tell place => exact h.tell place
  | wait => exact h.wait

theorem InOrder.course (h : t.InOrder delay none) (happenings : List Happening) :
    (t.course happenings).InOrder delay none := by
  induction happenings generalizing t with
  | nil => exact h
  | cons happening rest ih => exact ih (h.happen happening)

theorem inOrder_start (delay : Float) : (start delay).InOrder delay none where
  same := rfl
  account := .nil (show (0.0 : Float) ≤ 0.0 by decide)
  undisturbed run stage hmem := by cases hmem
  latest run stage hmem := by cases hmem
  bound run hlatest := by cases hlatest

/-- Whether a run still waits for its turn. -/
def Waits (t : Timeline) (run : Nat) : Prop := ∃ stage, (run, stage) ∈ t.runs none ∧ stage ≠ .active

end Timeline

/-- What a debouncer owes to those who call. -/
structure Debounced (delay : Float) (t : Timeline) : Prop where
  /-- A run is started exactly if nobody calls before its turn comes. -/
  started_iff : ∀ i run since, EntryAt t.journal i (.scheduled run since) →
    (Started t.journal run ↔ ¬t.Waits run ∧ ¬Disturbed t.journal i run)
  /-- It is started when its delay is over. -/
  timely : ∀ run since time, .scheduled run since ∈ t.journal → .started run time ∈ t.journal →
    (since + delay == time) = true
  /-- It is started once. -/
  once : ∀ i j run time time', EntryAt t.journal i (.started run time) →
    EntryAt t.journal j (.started run time') → i = j
  /-- While it waits nobody has called, and the end of its delay has not passed. -/
  patient : ∀ i run since, EntryAt t.journal i (.scheduled run since) → t.Waits run →
    ¬Disturbed t.journal i run ∧
      (t.clock = since ∨ (since + delay == t.clock) = true ∨ ¬since + delay ≤ t.clock)
  /-- When it is asleep it is so until then. -/
  sleeps : ∀ run since due call, .scheduled run since ∈ t.journal → t.asleep = some (due, run, call) →
    due = since + delay
  /-- It waits unless it has been started or aborted. -/
  waits_iff : ∀ run, t.Waits run ↔ (∃ since, .scheduled run since ∈ t.journal) ∧ ¬Started t.journal run ∧
    ∀ inside, .aborted run inside ∉ t.journal
  /-- At most one run waits. -/
  single : ∀ run other, t.Waits run → t.Waits other → run = other
  /-- No run is aborted by a call from inside it. -/
  aborted : ∀ run inside, .aborted run inside ∈ t.journal → inside ≠ some run
  /-- What was started is still there, has come to its end or was aborted from elsewhere. -/
  finished : ∀ run, Started t.journal run → t.holds run = true ∨ .settled run ∈ t.journal ∨
    ∃ inside, .aborted run inside ∈ t.journal ∧ inside ≠ some run
  /-- Who has waited goes on when the run is over that was scheduled last until then. -/
  returns : Returns t.journal

namespace Timeline

variable {delay since time : Float} {t : Timeline} {run i : Nat}

theorem InOrder.not_started (h : t.InOrder delay none) (hwaits : t.Waits run) : ¬Started t.journal run := by
  obtain ⟨stage, hmem, hwaits⟩ := hwaits
  rw [(h.account.fates.known run stage hmem).2.started]
  exact hwaits

/-- What is there and has not been started waits. -/
theorem InOrder.waits (h : t.InOrder delay none) (hmem : run ∈ (t.runs none).map Prod.fst)
    (hnot : ¬Started t.journal run) : t.Waits run := by
  obtain ⟨⟨other, stage⟩, hin, rfl⟩ := List.mem_map.mp hmem
  refine ⟨stage, hin, ?_⟩
  intro hactive
  exact hnot ((h.account.fates.known other stage hin).2.started.mpr hactive)

theorem InOrder.started_iff (h : t.InOrder delay none) (hi : EntryAt t.journal i (.scheduled run since)) :
    Started t.journal run ↔ ¬t.Waits run ∧ ¬Disturbed t.journal i run := by
  constructor
  · intro hstarted
    refine ⟨fun hwaits => h.not_started hwaits hstarted, ?_⟩
    rintro ⟨k, call, hik, hk, hcall, hnot⟩
    obtain ⟨j, time, hj⟩ := started_iff_entryAt.mp hstarted
    obtain ⟨i', since', -, hi', -, hcalm⟩ := h.account.starts.timely j run time hj
    obtain ⟨rfl, -⟩ := h.account.numbered.unique hi hi'
    rcases lt_trichotomy k j with hkj | rfl | hjk
    · rw [hcalm k call hik hkj hk] at hcall
      cases hcall
    · obtain rfl := Option.some.inj (hk.symm.trans hj)
      cases hcall
    · exact hnot j hjk time hj
  · rintro ⟨hwaits, hcalm⟩
    by_contra hnot
    by_cases hmem : run ∈ (t.runs none).map Prod.fst
    · exact hwaits (h.waits hmem hnot)
    · exact hcalm (h.account.fates.disturbed i run since hi hnot hmem)

theorem InOrder.timely (h : t.InOrder delay none) (hdelay : 0.0 ≤ delay)
    (hscheduled : .scheduled run since ∈ t.journal) (hstarted : .started run time ∈ t.journal) :
    (since + delay == time) = true := by
  obtain ⟨i, hi⟩ := List.mem_iff_getElem?.mp hscheduled
  obtain ⟨j, hj⟩ := List.mem_iff_getElem?.mp hstarted
  obtain ⟨i', since', -, hi', helapsed, -⟩ := h.account.starts.timely j run time hj
  obtain ⟨rfl, rfl⟩ := h.account.numbered.unique hi hi'
  rcases helapsed with ⟨hnone, rfl⟩ | htime
  · exact time_add_zero (h.account.numbered.times i run time hi) hdelay hnone
  · exact htime

theorem InOrder.patient (h : t.InOrder delay none) (hi : EntryAt t.journal i (.scheduled run since))
    (hwaits : t.Waits run) : ¬Disturbed t.journal i run ∧
      (t.clock = since ∨ (since + delay == t.clock) = true ∨ ¬since + delay ≤ t.clock) := by
  obtain ⟨stage, hmem, hwaits⟩ := hwaits
  constructor
  · rintro ⟨k, call, hik, hk, hcall, -⟩
    rw [h.undisturbed run stage hmem hwaits i since hi k call hik hk.lt hk] at hcall
    cases hcall
  · have hfits := (h.account.fates.known run stage hmem).2.fits i since hi
    cases stage with
    | fresh => exact .inl hfits
    | asleep due =>
      obtain ⟨-, rfl, hclock⟩ := hfits
      exact hclock
    | ready => exact hfits.elim (fun h => .inl h.2) (fun h => .inr (.inl h))
    | active => exact absurd rfl hwaits

theorem InOrder.sleeps (h : t.InOrder delay none) {due : Float} {call : DelayedCall}
    (hscheduled : .scheduled run since ∈ t.journal) (hasleep : t.asleep = some (due, run, call)) :
    due = since + delay := by
  obtain ⟨i, hi⟩ := List.mem_iff_getElem?.mp hscheduled
  have hmem : (run, .asleep due) ∈ t.runs none := (runs_asleep hasleep).mem_iff.mpr List.mem_cons_self
  exact ((h.account.fates.known run _ hmem).2.fits i since hi).2.1

theorem InOrder.waits_iff (h : t.InOrder delay none) : t.Waits run ↔
    (∃ since, .scheduled run since ∈ t.journal) ∧ ¬Started t.journal run ∧
      ∀ inside, .aborted run inside ∉ t.journal := by
  constructor
  · intro hwaits
    have hnot := h.not_started hwaits
    obtain ⟨stage, hmem, -⟩ := hwaits
    obtain ⟨i, since, hi⟩ := h.account.numbered.complete run (h.account.fates.known run stage hmem).1
    refine ⟨⟨since, List.mem_of_getElem? hi⟩, hnot, ?_⟩
    intro inside haborted
    have hgone := (h.account.fates.gone run (.inr ⟨inside, haborted⟩)).2
    exact hgone (List.mem_map.mpr ⟨_, hmem, rfl⟩)
  · rintro ⟨⟨since, hscheduled⟩, hnot, haborted⟩
    obtain ⟨i, hi⟩ := List.mem_iff_getElem?.mp hscheduled
    rcases h.account.fates.present run (h.account.numbered.below i run since hi) with hmem | hsettled | ⟨inside, hin⟩
    · exact h.waits hmem hnot
    · exact absurd (h.account.fates.done run hsettled) hnot
    · exact absurd hin (haborted inside)

theorem InOrder.finished (h : t.InOrder delay none) (hstarted : Started t.journal run) :
    t.holds run = true ∨ .settled run ∈ t.journal ∨
      ∃ inside, .aborted run inside ∈ t.journal ∧ inside ≠ some run := by
  rcases h.account.fates.present run (h.account.lt_of_started hstarted) with hmem | hsettled | ⟨inside, hin⟩
  · exact .inl (holds_iff.mpr hmem)
  · exact .inr (.inl hsettled)
  · exact .inr (.inr ⟨inside, hin, h.account.aborts run inside hin⟩)

theorem InOrder.debounced (h : t.InOrder delay none) (hdelay : 0.0 ≤ delay) : Debounced delay t where
  started_iff _ _ _ := h.started_iff
  timely _ _ _ := h.timely hdelay
  once := h.account.starts.once
  patient _ _ _ := h.patient
  sleeps _ _ _ _ := h.sleeps
  waits_iff _ := h.waits_iff
  single run other hrun hother := by
    obtain ⟨stage, hmem, hwaits⟩ := hrun
    obtain ⟨stage', hmem', hwaits'⟩ := hother
    exact h.single hmem hwaits hmem' hwaits'
  aborted := h.account.aborts
  finished _ := h.finished
  returns := h.account.returns

/-- Whatever happens to a debouncer, it makes exactly the calls that nobody has disturbed, once each and
at their time; no call is aborted from inside, and who waits goes on when the last run is over. -/
theorem undisturbed_calls_are_made {delay : Float} (hdelay : 0.0 ≤ delay) (happenings : List Happening) :
    Debounced delay ((start delay).course happenings) :=
  ((inOrder_start delay).course happenings).debounced hdelay

/-- Of two calls the second one is made, which schedules another one, pauses and fails. Who has begun to
wait for it in the meantime goes on after the other one. -/
theorem second_call_is_made : (0.0 : Float) ≤ 0.25 ∧
    ∃ t, t = (start 0.25).course [.schedule (.call .null []), .settle,
        .schedule (.call .null [.schedule (.call .null []), .pause, .fail]), .await, .settle, .pass 0.25, .ring,
        .settle, .resume, .tell 0, .sleep 0.25, .tell 0] ∧
      t.journal = [.scheduled 0 0.0, .scheduled 1 0.0, .aborted 0 none, .started 1 0.25, .scheduled 2 0.25,
        .settled 1, .started 2 0.5, .settled 2, .returned] ∧
      Debounced 0.25 t :=
  ⟨by decide, _, rfl, by decide +kernel, undisturbed_calls_are_made (by decide) _⟩

end Timeline

end Folio
