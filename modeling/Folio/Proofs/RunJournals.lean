-- What a journal of runs may say. Runs are scheduled under increasing numbers. A run is started once,
-- when its delay is over, and only if nobody has called since it was scheduled. What is neither started
-- nor disturbed still waits, and what was started is still there until it is over.
import Folio.Debounce.Timeline
import Mathlib.Data.List.Nodup
import Mathlib.Data.List.Perm.Basic
import Mathlib.Data.Nat.Basic
import Mathlib.Order.Basic
import Mathlib.Tactic.Tauto

namespace Folio

namespace RunEvent

/-- Whether somebody calls to schedule or to cancel. -/
def isCall : RunEvent → Bool
  | .scheduled .. | .cancelled => true
  | .started .. | .aborted .. | .settled _ | .returned => false

end RunEvent

/-! ## Journals -/

/-- An entry of a journal. -/
abbrev EntryAt (journal : List RunEvent) (i : Nat) (e : RunEvent) : Prop := journal[i]? = some e

/-- The call of a run has been made. -/
def Started (journal : List RunEvent) (run : Nat) : Prop := ∃ time, .started run time ∈ journal

/-- A run has come to its end, or was aborted. -/
def Over (journal : List RunEvent) (run : Nat) : Prop :=
  .settled run ∈ journal ∨ ∃ inside, .aborted run inside ∈ journal

/-- Somebody has called after a place in the journal, and a run was not started before that. -/
def Disturbed (journal : List RunEvent) (place run : Nat) : Prop :=
  ∃ k call, place < k ∧ EntryAt journal k call ∧ call.isCall = true ∧
    ∀ j < k, ∀ time, ¬EntryAt journal j (.started run time)

/-- Nobody has called between two places in the journal. -/
def Calm (journal : List RunEvent) (first last : Nat) : Prop :=
  ∀ k call, first < k → k < last → EntryAt journal k call → call.isCall = false

/-- A delay that began at one time is over at another one. -/
def Elapsed (delay since now : Float) : Prop :=
  delay ≤ 0.0 ∧ now = since ∨ (since + delay == now) = true

section

variable {journal : List RunEvent} {e e' : RunEvent} {i run place first last : Nat}

theorem EntryAt.lt (h : EntryAt journal i e) : i < journal.length :=
  (List.getElem?_eq_some_iff.mp h).1

/-- An entry is one of those that were there, or the new one. -/
theorem entryAt_snoc : EntryAt (journal ++ [e]) i e' ↔ EntryAt journal i e' ∨ i = journal.length ∧ e = e' := by
  rcases lt_trichotomy i journal.length with h | rfl | h
  · rw [EntryAt, List.getElem?_append_left h]
    exact ⟨.inl, fun h' => h'.resolve_right fun hend => h.ne hend.1⟩
  · simp [EntryAt]
  · rw [EntryAt, EntryAt, List.getElem?_eq_none (by simpa using Nat.succ_le_of_lt h),
      List.getElem?_eq_none h.le]
    simp [h.ne']

theorem EntryAt.snoc (h : EntryAt journal i e') (e : RunEvent) : EntryAt (journal ++ [e]) i e' :=
  entryAt_snoc.mpr (.inl h)

/-- The new entry. -/
theorem entryAt_length (journal : List RunEvent) (e : RunEvent) :
    EntryAt (journal ++ [e]) journal.length e :=
  entryAt_snoc.mpr (.inr ⟨rfl, rfl⟩)

/-- Entries other than the new one are as they were. -/
theorem EntryAt.of_snoc (h : EntryAt (journal ++ [e]) i e') (hne : e ≠ e') : EntryAt journal i e' :=
  (entryAt_snoc.mp h).resolve_right fun hend => hne hend.2

theorem EntryAt.of_snoc_lt (h : EntryAt (journal ++ [e]) i e') (hlt : i < journal.length) :
    EntryAt journal i e' :=
  (entryAt_snoc.mp h).resolve_right fun hend => hlt.ne hend.1

theorem started_iff_entryAt : Started journal run ↔ ∃ i time, EntryAt journal i (.started run time) := by
  constructor
  · rintro ⟨time, htime⟩
    obtain ⟨i, hi⟩ := List.mem_iff_getElem?.mp htime
    exact ⟨i, time, hi⟩
  · rintro ⟨i, time, hi⟩
    exact ⟨time, List.mem_of_getElem? hi⟩

theorem started_snoc : Started (journal ++ [e]) run ↔ Started journal run ∨ ∃ time, e = .started run time := by
  simp only [Started, List.mem_append, List.mem_singleton, exists_or, eq_comm]

theorem over_snoc : Over (journal ++ [e]) run ↔
    Over journal run ∨ e = .settled run ∨ ∃ inside, e = .aborted run inside := by
  simp only [Over, List.mem_append, List.mem_singleton, exists_or, @eq_comm _ e]
  tauto

theorem Disturbed.snoc (h : Disturbed journal place run) (e : RunEvent) :
    Disturbed (journal ++ [e]) place run := by
  obtain ⟨k, call, hlt, hcall, his, hnot⟩ := h
  refine ⟨k, call, hlt, hcall.snoc e, his, ?_⟩
  intro j hj time hstart
  exact hnot j hj time (hstart.of_snoc_lt (hj.trans hcall.lt))

/-- A call disturbs what was not started. -/
theorem Disturbed.of_call (h : place < journal.length) (hcall : e.isCall = true)
    (hnot : ¬Started journal run) : Disturbed (journal ++ [e]) place run := by
  refine ⟨journal.length, e, h, entryAt_length journal e, hcall, ?_⟩
  intro j hj time hstart
  exact hnot (started_iff_entryAt.mpr ⟨j, time, hstart.of_snoc_lt hj⟩)

theorem Calm.snoc_le (h : Calm journal first last) (hlast : last ≤ journal.length) (e : RunEvent) :
    Calm (journal ++ [e]) first last := by
  intro k call hfirst hk hcall
  exact h k call hfirst hk (hcall.of_snoc_lt (by omega))

/-- A calm lasts while nobody calls. -/
theorem Calm.snoc (h : Calm journal first journal.length) (he : e.isCall = false) :
    Calm (journal ++ [e]) first (journal ++ [e]).length := by
  intro k call hfirst hk hcall
  rcases entryAt_snoc.mp hcall with hcall | ⟨-, rfl⟩
  · exact h k call hfirst hcall.lt hcall
  · exact he

end

/-! ## The laws of a journal -/

/-- Runs are scheduled under the numbers up to that of the next one, in order. -/
structure Numbered (journal : List RunEvent) (issued : Nat) : Prop where
  below : ∀ i run time, EntryAt journal i (.scheduled run time) → run < issued
  complete : ∀ run < issued, ∃ i time, EntryAt journal i (.scheduled run time)
  increasing : ∀ i j run other time time', i < j → EntryAt journal i (.scheduled run time) →
    EntryAt journal j (.scheduled other time') → run < other
  times : ∀ i run time, EntryAt journal i (.scheduled run time) → time ≤ time

/-- A run is started once, when its delay is over, and since it was scheduled nobody has called. -/
structure Starts (delay : Float) (journal : List RunEvent) : Prop where
  once : ∀ i j run time time', EntryAt journal i (.started run time) →
    EntryAt journal j (.started run time') → i = j
  timely : ∀ j run time, EntryAt journal j (.started run time) →
    ∃ i since, i < j ∧ EntryAt journal i (.scheduled run since) ∧ Elapsed delay since time ∧ Calm journal i j

/-- Who has waited goes on when the run is over that was scheduled last until then. -/
def Returns (journal : List RunEvent) : Prop :=
  ∀ k i run time, EntryAt journal k .returned → i < k → EntryAt journal i (.scheduled run time) →
    (∀ j other time', i < j → j < k → ¬EntryAt journal j (.scheduled other time')) →
      Over (journal.take k) run

section

variable {journal : List RunEvent} {issued run i : Nat} {delay time since : Float} {e : RunEvent}

theorem Numbered.unique (h : Numbered journal issued) {j : Nat} {time' : Float}
    (hi : EntryAt journal i (.scheduled run time)) (hj : EntryAt journal j (.scheduled run time')) :
    i = j ∧ time = time' := by
  have hsame : i = j := by
    rcases lt_trichotomy i j with hlt | heq | hlt
    · exact absurd (h.increasing _ _ _ _ _ _ hlt hi hj) (lt_irrefl run)
    · exact heq
    · exact absurd (h.increasing _ _ _ _ _ _ hlt hj hi) (lt_irrefl run)
  subst hsame
  obtain ⟨-, rfl⟩ := RunEvent.scheduled.inj (Option.some.inj (hi.symm.trans hj))
  exact ⟨rfl, rfl⟩

theorem Numbered.snoc (h : Numbered journal issued) (he : ∀ run time, e ≠ .scheduled run time) :
    Numbered (journal ++ [e]) issued where
  below i run time hi := h.below i run time (hi.of_snoc (he run time))
  complete run hrun := by
    obtain ⟨i, time, hi⟩ := h.complete run hrun
    exact ⟨i, time, hi.snoc e⟩
  increasing i j run other time time' hlt hi hj :=
    h.increasing i j run other time time' hlt (hi.of_snoc (he run time)) (hj.of_snoc (he other time'))
  times i run time hi := h.times i run time (hi.of_snoc (he run time))

/-- The next run gets the next number. -/
theorem Numbered.schedule (h : Numbered journal issued) (htime : time ≤ time) :
    Numbered (journal ++ [.scheduled issued time]) (issued + 1) where
  below i run time' hi := by
    rcases entryAt_snoc.mp hi with hi | ⟨-, heq⟩
    · exact Nat.lt_succ_of_lt (h.below i run time' hi)
    · obtain ⟨rfl, -⟩ := RunEvent.scheduled.inj heq
      exact Nat.lt_succ_self issued
  complete run hrun := by
    rcases Nat.lt_succ_iff_lt_or_eq.mp hrun with hlt | rfl
    · obtain ⟨i, time', hi⟩ := h.complete run hlt
      exact ⟨i, time', hi.snoc _⟩
    · exact ⟨journal.length, time, entryAt_length journal _⟩
  increasing i j run other time' time'' hlt hi hj := by
    have hearlier : EntryAt journal i (.scheduled run time') := by
      apply hi.of_snoc_lt
      have hbound := hj.lt
      rw [List.length_append, List.length_singleton] at hbound
      omega
    rcases entryAt_snoc.mp hj with hj | ⟨-, heq⟩
    · exact h.increasing i j run other time' time'' hlt hearlier hj
    · obtain ⟨rfl, -⟩ := RunEvent.scheduled.inj heq
      exact h.below i run time' hearlier
  times i run time' hi := by
    rcases entryAt_snoc.mp hi with hi | ⟨-, heq⟩
    · exact h.times i run time' hi
    · obtain ⟨-, rfl⟩ := RunEvent.scheduled.inj heq
      exact htime

theorem Starts.snoc (h : Starts delay journal) (he : ∀ run time, e ≠ .started run time) :
    Starts delay (journal ++ [e]) where
  once i j run time time' hi hj :=
    h.once i j run time time' (hi.of_snoc (he run time)) (hj.of_snoc (he run time'))
  timely j run time hj := by
    have hbefore := hj.of_snoc (he run time)
    obtain ⟨i, since, hlt, hi, helapsed, hcalm⟩ := h.timely j run time hbefore
    exact ⟨i, since, hlt, hi.snoc e, helapsed, hcalm.snoc_le hbefore.lt.le e⟩

/-- A run may be started that was not, when its delay is over and nobody has called. -/
theorem Starts.start (h : Starts delay journal) (hnot : ¬Started journal run)
    (hi : EntryAt journal i (.scheduled run since)) (helapsed : Elapsed delay since time)
    (hcalm : Calm journal i journal.length) : Starts delay (journal ++ [.started run time]) where
  once j k other time' time'' hj hk := by
    have hnever {j : Nat} {time' : Float} (hj : EntryAt journal j (.started run time')) : False :=
      hnot (started_iff_entryAt.mpr ⟨j, time', hj⟩)
    rcases entryAt_snoc.mp hj with hj | ⟨hjend, heq⟩ <;> rcases entryAt_snoc.mp hk with hk | ⟨hkend, heq'⟩
    · exact h.once j k other time' time'' hj hk
    · obtain ⟨rfl, -⟩ := RunEvent.started.inj heq'
      exact (hnever hj).elim
    · obtain ⟨rfl, -⟩ := RunEvent.started.inj heq
      exact (hnever hk).elim
    · exact hjend.trans hkend.symm
  timely j other time' hj := by
    rcases entryAt_snoc.mp hj with hj | ⟨rfl, heq⟩
    · obtain ⟨i, since, hlt, hi, helapsed, hcalm⟩ := h.timely j other time' hj
      exact ⟨i, since, hlt, hi.snoc _, helapsed, hcalm.snoc_le hj.lt.le _⟩
    · obtain ⟨rfl, rfl⟩ := RunEvent.started.inj heq
      exact ⟨i, since, hi.lt, hi.snoc _, helapsed, hcalm.snoc_le le_rfl _⟩

theorem Returns.snoc (h : Returns journal) (he : e ≠ .returned) : Returns (journal ++ [e]) := by
  intro k i run time hk hlt hi hlast
  have hbefore := hk.of_snoc he
  rw [List.take_append_of_le_length hbefore.lt.le]
  apply h k i run time hbefore hlt (hi.of_snoc_lt (hlt.trans hbefore.lt))
  intro j other time' hij hjk hj
  exact hlast j other time' hij hjk (hj.snoc e)

/-- Somebody may go on if the last run is over. -/
theorem Returns.goOn (h : Returns journal) (hnumbered : Numbered journal issued)
    (hover : ∀ run, run + 1 = issued → Over journal run) : Returns (journal ++ [.returned]) := by
  intro k i run time hk hlt hi hlast
  rcases entryAt_snoc.mp hk with hk | ⟨rfl, -⟩
  · rw [List.take_append_of_le_length hk.lt.le]
    apply h k i run time hk hlt (hi.of_snoc_lt (hlt.trans hk.lt))
    intro j other time' hij hjk hj
    exact hlast j other time' hij hjk (hj.snoc _)
  · rw [List.take_left]
    have hi := hi.of_snoc_lt hlt
    apply hover
    -- one that was scheduled later would have its place between the two
    by_contra hne
    have hnext : run + 1 < issued := by
      have hbelow := hnumbered.below i run time hi
      omega
    obtain ⟨j, time', hj⟩ := hnumbered.complete (run + 1) hnext
    rcases lt_trichotomy i j with hij | rfl | hji
    · exact hlast j (run + 1) time' hij hj.lt (hj.snoc _)
    · obtain ⟨heq, -⟩ := RunEvent.scheduled.inj (Option.some.inj (hi.symm.trans hj))
      omega
    · have hlater := hnumbered.increasing j i (run + 1) run time' time hji hj hi
      omega

end

/-! ## Runs and their fates -/

/-- How far a run has come that is not over. -/
inductive RunStage where
  /-- It has just been scheduled. -/
  | fresh
  /-- It is asleep, up to a time. -/
  | asleep (due : Float)
  /-- Its delay is over. -/
  | ready
  /-- It has been started. -/
  | active

namespace RunStage

/-- Whether the clock stands as it should at a stage, for a run that was scheduled at a time. -/
def Fits (delay since now : Float) : RunStage → Prop
  | fresh => now = since
  | asleep due => ¬delay ≤ 0.0 ∧ due = since + delay ∧ (now = since ∨ (due == now) = true ∨ ¬due ≤ now)
  | ready => Elapsed delay since now
  | active => True

end RunStage

variable {delay now : Float} {journal : List RunEvent} {issued run : Nat} {stage : RunStage} {e : RunEvent}
  {runs rest : List (Nat × RunStage)}

/-- What is known of a run at a stage. -/
structure AtStage (delay : Float) (journal : List RunEvent) (now : Float) (run : Nat) (stage : RunStage) :
    Prop where
  started : Started journal run ↔ stage = .active
  fits : ∀ i since, EntryAt journal i (.scheduled run since) → stage.Fits delay since now

/-- The runs that are there, and what has become of all others. -/
structure Fates (delay : Float) (journal : List RunEvent) (issued : Nat) (now : Float)
    (runs : List (Nat × RunStage)) : Prop where
  nodup : (runs.map Prod.fst).Nodup
  known : ∀ run stage, (run, stage) ∈ runs → run < issued ∧ AtStage delay journal now run stage
  present : ∀ run < issued, run ∈ runs.map Prod.fst ∨ Over journal run
  gone : ∀ run, Over journal run → run < issued ∧ run ∉ runs.map Prod.fst
  done : ∀ run, .settled run ∈ journal → Started journal run
  disturbed : ∀ i run time, EntryAt journal i (.scheduled run time) → ¬Started journal run →
    run ∉ runs.map Prod.fst → Disturbed journal i run

/-- Since a run was scheduled that waits, nobody has called. -/
def Undisturbed (journal : List RunEvent) (runs : List (Nat × RunStage)) : Prop :=
  ∀ run stage, (run, stage) ∈ runs → stage ≠ .active → ∀ i since, EntryAt journal i (.scheduled run since) →
    Calm journal i journal.length

/-- A journal keeps its laws, and tells of the runs that are there. -/
structure Account (delay : Float) (journal : List RunEvent) (issued : Nat) (now : Float)
    (runs : List (Nat × RunStage)) : Prop where
  clock : now ≤ now
  numbered : Numbered journal issued
  starts : Starts delay journal
  aborts : ∀ run inside, .aborted run inside ∈ journal → inside ≠ some run
  returns : Returns journal
  fates : Fates delay journal issued now runs

theorem AtStage.snoc (h : AtStage delay journal now run stage) (hstart : ∀ time, e ≠ .started run time)
    (hschedule : ∀ time, e ≠ .scheduled run time) : AtStage delay (journal ++ [e]) now run stage where
  started := by
    rw [started_snoc, or_iff_left fun ⟨time, htime⟩ => hstart time htime]
    exact h.started
  fits i since hi := h.fits i since (hi.of_snoc (hschedule since))

theorem Fates.of_mem (h : Fates delay journal issued now runs) {stage' : RunStage} (hmem : (run, stage) ∈ runs)
    (hmem' : (run, stage') ∈ runs) : stage = stage' :=
  congrArg Prod.snd (List.inj_on_of_nodup_map h.nodup hmem hmem' rfl)

theorem Fates.perm (h : Fates delay journal issued now runs) {others : List (Nat × RunStage)}
    (hperm : runs.Perm others) : Fates delay journal issued now others := by
  have hnames := hperm.map Prod.fst
  refine ⟨hnames.nodup_iff.mp h.nodup, ?_, ?_, ?_, h.done, ?_⟩
  · intro run stage hmem
    exact h.known run stage (hperm.mem_iff.mpr hmem)
  · intro run hrun
    rw [← hnames.mem_iff]
    exact h.present run hrun
  · intro run hover
    rw [← hnames.mem_iff]
    exact h.gone run hover
  · intro i run time hi hnot hmem
    rw [← hnames.mem_iff] at hmem
    exact h.disturbed i run time hi hnot hmem

/-- What neither schedules nor starts a run nor ends one changes nothing. -/
theorem Fates.snoc (h : Fates delay journal issued now runs) (he : e = .cancelled ∨ e = .returned) :
    Fates delay (journal ++ [e]) issued now runs := by
  have hstart : ∀ run time, e ≠ .started run time := by rcases he with rfl | rfl <;> simp
  have hschedule : ∀ run time, e ≠ .scheduled run time := by rcases he with rfl | rfl <;> simp
  have hover (run : Nat) : Over (journal ++ [e]) run ↔ Over journal run := by
    rw [over_snoc]
    rcases he with rfl | rfl <;> simp
  refine ⟨h.nodup, ?_, ?_, ?_, ?_, ?_⟩
  · intro run stage hmem
    obtain ⟨hlt, hstage⟩ := h.known run stage hmem
    exact ⟨hlt, hstage.snoc (hstart run) (hschedule run)⟩
  · intro run hrun
    rw [hover]
    exact h.present run hrun
  · intro run
    rw [hover]
    exact h.gone run
  · intro run hsettled
    rw [started_snoc]
    refine .inl (h.done run ?_)
    rcases he with rfl | rfl <;> simpa using hsettled
  · intro i run time hi hnot hmem
    rw [started_snoc, not_or] at hnot
    exact (h.disturbed i run time (hi.of_snoc (hschedule run time)) hnot.1 hmem).snoc e

namespace Account

variable (h : Account delay journal issued now runs)

include h

theorem lt_of_started (hstarted : Started journal run) : run < issued := by
  obtain ⟨j, time, hj⟩ := started_iff_entryAt.mp hstarted
  obtain ⟨i, since, -, hi, -⟩ := h.starts.timely j run time hj
  exact h.numbered.below i run since hi

theorem perm {others : List (Nat × RunStage)} (hperm : runs.Perm others) :
    Account delay journal issued now others := { h with fates := h.fates.perm hperm }

/-- Somebody calls to schedule a run. -/
theorem schedule : Account delay (journal ++ [.scheduled issued now]) (issued + 1) now
    (runs ++ [(issued, .fresh)]) where
  clock := h.clock
  numbered := h.numbered.schedule h.clock
  starts := h.starts.snoc (by simp)
  aborts run inside hmem := h.aborts run inside (by simpa using hmem)
  returns := h.returns.snoc (by simp)
  fates := by
    have hfresh : issued ∉ runs.map Prod.fst := by
      rw [List.mem_map]
      rintro ⟨⟨run, stage⟩, hmem, rfl⟩
      exact (h.fates.known run stage hmem).1.false
    have hover (run : Nat) : Over (journal ++ [.scheduled issued now]) run ↔ Over journal run := by
      simp [over_snoc]
    refine ⟨?_, ?_, ?_, ?_, ?_, ?_⟩
    · rw [List.map_append, List.map_singleton, List.nodup_append]
      refine ⟨h.fates.nodup, List.nodup_singleton issued, ?_⟩
      rintro a ha b hb rfl
      obtain rfl := List.mem_singleton.mp hb
      exact hfresh ha
    · intro run stage hmem
      rcases List.mem_append.mp hmem with hmem | hmem
      · obtain ⟨hlt, hstage⟩ := h.fates.known run stage hmem
        refine ⟨Nat.lt_succ_of_lt hlt, hstage.snoc (by simp) ?_⟩
        intro time heq
        obtain ⟨rfl, -⟩ := RunEvent.scheduled.inj heq
        exact hlt.false
      · obtain ⟨rfl, rfl⟩ := Prod.mk.inj (List.mem_singleton.mp hmem)
        refine ⟨Nat.lt_succ_self run, ?_, ?_⟩
        · simpa [started_snoc] using fun hstarted => (h.lt_of_started hstarted).false
        · intro i since hi
          rcases entryAt_snoc.mp hi with hi | ⟨-, heq⟩
          · exact absurd (h.numbered.below i run since hi) (lt_irrefl run)
          · exact (RunEvent.scheduled.inj heq).2
    · intro run hrun
      rw [hover, List.map_append, List.mem_append]
      rcases Nat.lt_succ_iff_lt_or_eq.mp hrun with hlt | rfl
      · exact (h.fates.present run hlt).imp_left .inl
      · exact .inl (.inr (by simp))
    · intro run hrun
      rw [hover] at hrun
      obtain ⟨hlt, hmem⟩ := h.fates.gone run hrun
      refine ⟨Nat.lt_succ_of_lt hlt, ?_⟩
      simp [hmem, hlt.ne]
    · intro run hsettled
      exact started_snoc.mpr (.inl (h.fates.done run (by simpa using hsettled)))
    · intro i run time hi hnot hmem
      rw [List.map_append, List.mem_append, not_or] at hmem
      rw [started_snoc, not_or] at hnot
      rcases entryAt_snoc.mp hi with hi | ⟨-, heq⟩
      · exact (h.fates.disturbed i run time hi hnot.1 hmem.1).snoc _
      · obtain ⟨rfl, -⟩ := RunEvent.scheduled.inj heq
        exact absurd (by simp) hmem.2

/-- Somebody calls to cancel. -/
theorem cancel : Account delay (journal ++ [.cancelled]) issued now runs where
  clock := h.clock
  numbered := h.numbered.snoc (by simp)
  starts := h.starts.snoc (by simp)
  aborts run inside hmem := h.aborts run inside (by simpa using hmem)
  returns := h.returns.snoc (by simp)
  fates := h.fates.snoc (.inl rfl)

/-- A run is aborted from elsewhere, which must have been disturbed if it has not been started. -/
theorem abort {inside : Option Nat} (hother : inside ≠ some run) (hlt : run < issued)
    (hdisturbed : ∀ i time, EntryAt journal i (.scheduled run time) → ¬Started journal run →
      Disturbed journal i run) :
    Account delay (journal ++ [.aborted run inside]) issued now (runs.filter (·.1 != run)) where
  clock := h.clock
  numbered := h.numbered.snoc (by simp)
  starts := h.starts.snoc (by simp)
  aborts other inside' hmem := by
    rcases List.mem_append.mp hmem with hmem | hmem
    · exact h.aborts other inside' hmem
    · obtain ⟨rfl, rfl⟩ := RunEvent.aborted.inj (List.mem_singleton.mp hmem)
      exact hother
  returns := h.returns.snoc (by simp)
  fates := by
    have hover (other : Nat) : Over (journal ++ [.aborted run inside]) other ↔
        Over journal other ∨ other = run := by
      simp [over_snoc, @eq_comm _ run]
    have hnames (other : Nat) : other ∈ (runs.filter (·.1 != run)).map Prod.fst ↔
        other ∈ runs.map Prod.fst ∧ other ≠ run := by
      simp only [List.mem_map, List.mem_filter, bne_iff_ne]
      constructor
      · rintro ⟨p, ⟨hp, hne⟩, rfl⟩
        exact ⟨⟨p, hp, rfl⟩, hne⟩
      · rintro ⟨⟨p, hp, rfl⟩, hne⟩
        exact ⟨p, ⟨hp, hne⟩, rfl⟩
    refine ⟨(List.filter_sublist.map Prod.fst).nodup h.fates.nodup, ?_, ?_, ?_, ?_, ?_⟩
    · intro other stage hmem
      obtain ⟨hlt, hstage⟩ := h.fates.known other stage (List.mem_of_mem_filter hmem)
      exact ⟨hlt, hstage.snoc (by simp) (by simp)⟩
    · intro other hother
      rw [hover, hnames]
      by_cases hsame : other = run
      · exact .inr (.inr hsame)
      · exact (h.fates.present other hother).imp (⟨·, hsame⟩) .inl
    · intro other hgone
      rw [hnames]
      rcases (hover other).mp hgone with hgone | rfl
      · obtain ⟨hlt, hmem⟩ := h.fates.gone other hgone
        exact ⟨hlt, fun hin => hmem hin.1⟩
      · exact ⟨hlt, fun hin => hin.2 rfl⟩
    · intro other hsettled
      exact started_snoc.mpr (.inl (h.fates.done other (by simpa using hsettled)))
    · intro i other time hi hnot hmem
      rw [hnames] at hmem
      rw [started_snoc, not_or] at hnot
      have hbefore : EntryAt journal i (.scheduled other time) := hi.of_snoc (by simp)
      refine Disturbed.snoc ?_ _
      by_cases hsame : other = run
      · subst hsame
        exact hdisturbed i time hbefore hnot.1
      · exact h.fates.disturbed i other time hbefore hnot.1 fun hin => hmem ⟨hin, hsame⟩

/-- Somebody who has waited goes on. -/
theorem goOn (hover : ∀ run, run + 1 = issued → Over journal run) :
    Account delay (journal ++ [.returned]) issued now runs where
  clock := h.clock
  numbered := h.numbered.snoc (by simp)
  starts := h.starts.snoc (by simp)
  aborts run inside hmem := h.aborts run inside (by simpa using hmem)
  returns := h.returns.goOn h.numbered hover
  fates := h.fates.snoc (.inr rfl)

end Account

/-- A run comes to another stage at which it waits. -/
theorem Account.move (h : Account delay journal issued now ((run, stage) :: rest)) {stage' : RunStage}
    (hstage : stage ≠ .active) (hstage' : stage' ≠ .active)
    (hfits : ∀ since, stage.Fits delay since now → stage'.Fits delay since now) :
    Account delay journal issued now ((run, stage') :: rest) := by
  refine { h with fates := ⟨h.fates.nodup, ?_, h.fates.present, h.fates.gone, h.fates.done, h.fates.disturbed⟩ }
  intro other st hmem
  rcases List.mem_cons.mp hmem with heq | hmem
  · obtain ⟨rfl, rfl⟩ := Prod.mk.inj heq
    obtain ⟨hlt, hknown⟩ := h.fates.known other stage List.mem_cons_self
    refine ⟨hlt, ?_, ?_⟩
    · rw [hknown.started]
      exact iff_of_false hstage hstage'
    · intro i since hi
      exact hfits since (hknown.fits i since hi)
  · exact h.fates.known other st (List.mem_cons_of_mem _ hmem)

/-- The call of a run is made, if its delay is over and nobody has called. -/
theorem Account.start (h : Account delay journal issued now ((run, .ready) :: rest))
    (hcalm : Undisturbed journal ((run, .ready) :: rest)) :
    Account delay (journal ++ [.started run now]) issued now ((run, .active) :: rest) := by
  obtain ⟨hlt, hready⟩ := h.fates.known run .ready List.mem_cons_self
  have hnot : ¬Started journal run := by simp [hready.started]
  obtain ⟨i, since, hi⟩ := h.numbered.complete run hlt
  have hstarts := h.starts.start hnot hi (hready.fits i since hi)
    (hcalm run .ready List.mem_cons_self (by simp) i since hi)
  have hover (other : Nat) : Over (journal ++ [.started run now]) other ↔ Over journal other := by
    simp [over_snoc]
  have hothers : ∀ p ∈ rest, p.1 ≠ run := by
    rintro p hp rfl
    exact (List.nodup_cons.mp h.fates.nodup).1 (List.mem_map.mpr ⟨p, hp, rfl⟩)
  refine ⟨h.clock, h.numbered.snoc (by simp), hstarts, ?_, h.returns.snoc (by simp), h.fates.nodup, ?_, ?_, ?_, ?_, ?_⟩
  · intro other inside hmem
    exact h.aborts other inside (by simpa using hmem)
  · intro other stage hmem
    rcases List.mem_cons.mp hmem with heq | hmem
    · obtain ⟨rfl, rfl⟩ := Prod.mk.inj heq
      refine ⟨hlt, ?_, fun _ _ _ => trivial⟩
      simp [started_snoc]
    · obtain ⟨hlt', hstage⟩ := h.fates.known other stage (List.mem_cons_of_mem _ hmem)
      refine ⟨hlt', hstage.snoc ?_ (by simp)⟩
      intro time heq
      exact hothers _ hmem (RunEvent.started.inj heq).1.symm
  · intro other hother
    rw [hover]
    exact h.fates.present other hother
  · intro other
    rw [hover]
    exact h.fates.gone other
  · intro other hsettled
    exact started_snoc.mpr (.inl (h.fates.done other (by simpa using hsettled)))
  · intro j other time hj hnot hmem
    rw [started_snoc, not_or] at hnot
    exact (h.fates.disturbed j other time (hj.of_snoc (by simp)) hnot.1 hmem).snoc _

/-- A run that was started comes to its end. -/
theorem Account.settle (h : Account delay journal issued now ((run, .active) :: rest)) :
    Account delay (journal ++ [.settled run]) issued now rest := by
  obtain ⟨hlt, hactive⟩ := h.fates.known run .active List.mem_cons_self
  have hstarted : Started journal run := hactive.started.mpr rfl
  have hnodup : run ∉ rest.map Prod.fst ∧ (rest.map Prod.fst).Nodup := List.nodup_cons.mp h.fates.nodup
  have hnames (other : Nat) : other ∈ ((run, RunStage.active) :: rest).map Prod.fst ↔
      other = run ∨ other ∈ rest.map Prod.fst := by rw [List.map_cons, List.mem_cons]
  have hover (other : Nat) : Over (journal ++ [.settled run]) other ↔ Over journal other ∨ other = run := by
    simp [over_snoc, @eq_comm _ run]
  refine ⟨h.clock, h.numbered.snoc (by simp), h.starts.snoc (by simp), ?_, h.returns.snoc (by simp), hnodup.2,
    ?_, ?_, ?_, ?_, ?_⟩
  · intro other inside hmem
    exact h.aborts other inside (by simpa using hmem)
  · intro other stage hmem
    obtain ⟨hlt', hstage⟩ := h.fates.known other stage (List.mem_cons_of_mem _ hmem)
    exact ⟨hlt', hstage.snoc (by simp) (by simp)⟩
  · intro other hother
    rw [hover]
    have hpresent := h.fates.present other hother
    rw [hnames] at hpresent
    tauto
  · intro other hgone
    rcases (hover other).mp hgone with hgone | rfl
    · obtain ⟨hlt', hmem⟩ := h.fates.gone other hgone
      rw [hnames, not_or] at hmem
      exact ⟨hlt', hmem.2⟩
    · exact ⟨hlt, hnodup.1⟩
  · intro other hsettled
    rw [started_snoc]
    rcases List.mem_append.mp hsettled with hsettled | hsettled
    · exact .inl (h.fates.done other hsettled)
    · obtain rfl := RunEvent.settled.inj (List.mem_singleton.mp hsettled)
      exact .inl hstarted
  · intro i other time hi hnot hmem
    rw [started_snoc, not_or] at hnot
    refine (h.fates.disturbed i other time (hi.of_snoc (by simp)) hnot.1 ?_).snoc _
    rw [hnames, not_or]
    refine ⟨?_, hmem⟩
    rintro rfl
    exact hnot.1 hstarted

/-- Time passes. -/
theorem Account.pass (h : Account delay journal issued now runs) {later : Float} (hlater : later ≤ later)
    (hfits : ∀ run stage, (run, stage) ∈ runs → ∀ since, stage.Fits delay since now →
      stage.Fits delay since later) : Account delay journal issued later runs := by
  refine { h with clock := hlater, fates := { h.fates with known := ?_ } }
  intro run stage hmem
  obtain ⟨hlt, hstage⟩ := h.fates.known run stage hmem
  exact ⟨hlt, hstage.started, fun i since hi => hfits run stage hmem since (hstage.fits i since hi)⟩

/-- At the beginning there are no runs, and nothing has been written. -/
theorem Account.nil (hnow : now ≤ now) : Account delay [] 0 now [] := by
  have hempty {i : Nat} {e : RunEvent} : ¬EntryAt [] i e := by simp [EntryAt]
  refine ⟨hnow, ⟨?_, ?_, ?_, ?_⟩, ⟨?_, ?_⟩, ?_, ?_, ⟨List.nodup_nil, ?_, ?_, ?_, ?_, ?_⟩⟩
  · exact fun i run time hi => (hempty hi).elim
  · exact fun run hrun => absurd hrun (Nat.not_lt_zero run)
  · exact fun i j run other time time' _ hi => (hempty hi).elim
  · exact fun i run time hi => (hempty hi).elim
  · exact fun i j run time time' hi => (hempty hi).elim
  · exact fun j run time hj => (hempty hj).elim
  · simp
  · exact fun k i run time hk => (hempty hk).elim
  · simp
  · exact fun run hrun => absurd hrun (Nat.not_lt_zero run)
  · simp [Over]
  · simp
  · exact fun i run time hi => (hempty hi).elim

end Folio
