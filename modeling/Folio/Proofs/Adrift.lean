-- When a browser is left loading. Every load that has begun is under way until it has come to its
-- end or is lost, and at any time one of them answers for what is shown, and some for what is owed.
-- So a browser without a load under way shows none and owes none, but for those that were lost.
import Folio.Proofs.Course
import Folio.Proofs.Journal

open Relation (ReflTransGen)

namespace Folio.Session

/-! ## The invariant -/

/-- The load in hand. -/
def Hand.load? : Hand → Option Load
  | .loading load _ | .settled load => some load
  | .waiting p => some p.load
  | _ => none

/-- Whether a load is in hand, or under way. -/
def Moment.has (m : Moment) (load : Load) : Prop :=
  m.hand.load? = some load ∨ load ∈ m.session.underWay

/-- What holds at every moment: the journal tells what is shown and what is owed, and the loads that
are in hand or under way account for it. -/
structure Tracked (m : Moment) : Prop where
  shown : (∀ load, m.hand ≠ .settled load) →
    m.session.browser.isLoading = showsLoad m.session.journal
  owed : m.session.browser.reloadPending = owesLoad m.session.journal
  accounted : Accounted m.has m.session.journal

variable {R : Realm} {m n : Moment} {s t : Session} {load : Load}

theorem Alike.underWay (h : Alike s t) : t.underWay.Perm s.underWay := by
  rw [underWay_eq, underWay_eq]
  exact h.pauses.map _

/-- A job that goes on with no load is taken out of what is ready. -/
theorem underWay_pass {before after : List Job} {job : Job}
    (hready : s.ready = before ++ job :: after) (hno : job.load? = none) :
    ({ s with ready := before ++ after } : Session).underWay = s.underWay := by
  unfold underWay
  dsimp only
  rw [hready, List.filterMap_append (f := Job.load?), List.filterMap_append (f := Job.load?),
    List.filterMap_cons_none hno]

theorem underWay_spawn {job : Job} (hno : job.load? = none) : (s.spawn job).underWay = s.underWay := by
  unfold underWay spawn
  simp [hno]

theorem underWay_showFetched (s : Session) (load : Load) (plan : PagePlan) (view : View) :
    (s.showFetched load plan view).1.underWay = s.underWay := by
  unfold showFetched
  exact underWay_spawn rfl

/-- The loads under way are those that stay when a run is forgotten, and those forgotten with it. -/
theorem underWay_abort (s : Session) (run : Nat) :
    s.underWay.Perm ((s.abort run).underWay ++ abort.forgotten s run) := by
  have hready := (List.filter_append_perm (abort.keeps run ·) s.ready).symm.filterMap Job.load?
  have hwaiting := (List.filter_append_perm (!abort.belongs run ·) s.waiting).symm.filterMap
    (·.pause.load?)
  simp only [List.filterMap_append, Bool.not_not] at hready hwaiting
  refine (hready.append hwaiting).trans ?_
  unfold abort.forgotten abort underWay
  dsimp only
  rw [List.append_assoc, List.append_assoc]
  refine .append_left _ ?_
  rw [← List.append_assoc, ← List.append_assoc]
  exact List.perm_append_comm.append_right _

/-- When the run that is pending is cancelled, the loads that are forgotten are noted. -/
theorem cancelRun_drops (s : Session) : ∃ loads, s.cancelRun.journal = s.journal ++ loads.map .dropped ∧
    s.underWay.Perm (s.cancelRun.underWay ++ loads) ∧ s.cancelRun.browser = s.browser := by
  cases hl : s.debouncer.latest with
  | none =>
    rw [cancelRun_none hl]
    exact ⟨[], (List.append_nil _).symm, .of_eq (List.append_nil _).symm, rfl⟩
  | some run =>
    rw [cancelRun_some hl]
    exact ⟨abort.forgotten s run, rfl, underWay_abort s run, rfl⟩

theorem underWay_scheduleRun (s : Session) : s.scheduleRun.underWay = s.cancelRun.underWay := by
  unfold scheduleRun
  exact underWay_spawn rfl

/-- Loads that are forgotten are told of aside. -/
theorem aside_dropped (loads : List Load) :
    ∀ event ∈ loads.map LoadEvent.dropped, event.isAside = true := by
  intro event hevent
  obtain ⟨load, -, rfl⟩ := List.mem_map.mp hevent
  rfl

/-- A load that waits with an action is under way. -/
theorem mem_underWay_park {w : Waiting} {p : LoadPause} (h : w.pause.loadPause? = some p) :
    load ∈ ({ s with waiting := s.waiting ++ [w] } : Session).underWay ↔
      load ∈ s.underWay ∨ load = p.load := by
  rw [underWay_eq, underWay_eq, pauses_park, h, List.map_append, List.mem_append]
  simp

/-! ## Moves keep it -/

section

variable {h k : Hand}

/-- What is noted in the journal has no bearing on what is shown and owed. -/
theorem Tracked.aside (ht : Tracked ⟨h, s⟩) (events : List LoadEvent)
    (journal : t.journal = s.journal ++ events) (haside : ∀ event ∈ events, event.isAside = true)
    (loading : (∃ load, k = .settled load) ∨
      (∀ load, h ≠ .settled load) ∧ t.browser.isLoading = s.browser.isLoading)
    (pending : t.browser.reloadPending = s.browser.reloadPending)
    (keep : ∀ load, Moment.has ⟨h, s⟩ load → Moment.has ⟨k, t⟩ load ∨ Lost load events) :
    Tracked ⟨k, t⟩ where
  shown := fun hk => by
    obtain ⟨load, hload⟩ | ⟨hh, hloading⟩ := loading
    · exact absurd hload (hk load)
    · rw [hloading, ht.shown hh, journal, showsLoad_aside s.journal haside]
  owed := by rw [pending, ht.owed, journal, owesLoad_aside s.journal haside]
  accounted := journal ▸ ht.accounted.aside haside keep

/-- Sessions alike have the same loads under way. -/
theorem Alike.keep (like : Alike s t) (hand : k.load? = h.load?) (load : Load) :
    Moment.has ⟨h, s⟩ load → Moment.has ⟨k, t⟩ load :=
  Or.imp (fun hin => hand.trans hin) fun hmem => like.underWay.mem_iff.mpr hmem

/-- Nothing is noted in the journal, and no load is lost. -/
theorem Tracked.quiet (ht : Tracked ⟨h, s⟩) (journal : t.journal = s.journal)
    (loading : (∃ load, k = .settled load) ∨
      (∀ load, h ≠ .settled load) ∧ t.browser.isLoading = s.browser.isLoading)
    (pending : t.browser.reloadPending = s.browser.reloadPending)
    (keep : ∀ load, Moment.has ⟨h, s⟩ load → Moment.has ⟨k, t⟩ load) : Tracked ⟨k, t⟩ :=
  ht.aside [] (journal.trans (List.append_nil _).symm) (fun _ h => absurd h List.not_mem_nil) loading
    pending fun load hload => Or.inl (keep load hload)

/-- The run that is pending is cancelled, and what it had begun is forgotten. -/
theorem Tracked.cancel (ht : Tracked ⟨h, s⟩) (hh : ∀ load, h ≠ .settled load)
    (hload : h.load? = none) (journal : t.journal = s.cancelRun.journal)
    (browser : t.browser = s.browser) (underWay : t.underWay = s.cancelRun.underWay) :
    Tracked ⟨k, t⟩ := by
  obtain ⟨loads, hjournal, hperm, -⟩ := cancelRun_drops s
  refine ht.aside (loads.map .dropped) (journal.trans hjournal) (aside_dropped loads)
    (Or.inr ⟨hh, congrArg Browser.isLoading browser⟩) (congrArg Browser.reloadPending browser)
    fun load hmem => ?_
  have hunder := hmem.resolve_left fun hin => by rw [hload] at hin; cases hin
  rcases List.mem_append.mp (hperm.mem_iff.mp hunder) with hin | hin
  · exact Or.inl (Or.inr (underWay ▸ hin))
  · exact Or.inr (Or.inr (List.mem_map_of_mem hin))

/-- One event is noted in the journal. -/
theorem Tracked.noting (ht : Tracked ⟨h, s⟩) (event : LoadEvent)
    (journal : t.journal = s.journal ++ [event]) (hh : ∀ load, h ≠ .settled load)
    (loading : t.browser.isLoading = event.showsLoad s.browser.isLoading)
    (pending : t.browser.reloadPending = event.owesLoad s.browser.reloadPending)
    (keep : ∀ load, Moment.has ⟨h, s⟩ load → Moment.has ⟨k, t⟩ load ∨ Lost load [event])
    (begun : ∀ load, event = .begun load → Moment.has ⟨k, t⟩ load)
    (putOff : ∀ behind, event = .putOff behind → ∀ load ∈ behind, Moment.has ⟨k, t⟩ load) :
    Tracked ⟨k, t⟩ where
  shown := fun _ => by
    rw [journal, showsLoad_note, loading, ht.shown hh]
  owed := by
    rw [journal, owesLoad_note, pending, ht.owed]
  accounted := journal ▸ ht.accounted.note event keep begun putOff

/-- Nothing is shown and nothing is owed. -/
theorem Tracked.of_rest (shown : showsLoad s.journal = false) (owed : owesLoad s.journal = false)
    (idle : s.browser.isLoading = false) (settled : s.browser.reloadPending = false) :
    Tracked ⟨h, s⟩ where
  shown := fun _ => idle.trans shown.symm
  owed := settled.trans owed.symm
  accounted := .nothing shown owed

end

/-- Every move keeps track. -/
theorem Tracked.move (hmove : Move R m n) (ht : Tracked m) : Tracked n := by
  cases hmove with
  | @calm h s t like state =>
    refine ⟨fun hk => ?_, (like.browser.pending.trans ht.owed).trans
      (congrArg owesLoad like.journal.symm), like.journal ▸ ht.accounted.mono (like.keep rfl)⟩
    exact ((isLoading_of_state state).trans (ht.shown hk)).trans (congrArg showsLoad like.journal.symm)
  | trouble s f =>
    exact ht.noting .troubled rfl (by simp) (Bool.and_false _).symm (Bool.and_true _).symm
      (fun _ => Or.inl) (fun _ h => by cases h) fun _ h => by cases h
  | refuse like idle state =>
    exact ht.quiet like.journal (Or.inr ⟨by simp, (not_loading (Or.inr state)).trans idle.symm⟩)
      like.browser.pending (like.keep rfl)
  | bump s renewed =>
    refine ht.aside [.renewed] rfl ?_ (Or.inr ⟨by simp, isLoading_of_state renewed.state⟩)
      renewed.pending fun _ => Or.inl
    exact fun event hevent => List.mem_singleton.mp hevent ▸ rfl
  | leave flawed s => exact ht.quiet rfl (Or.inr ⟨by simp, rfl⟩) rfl fun _ => id
  | @defer w holds s owes =>
    refine ht.quiet rfl (Or.inr ⟨by simp, rfl⟩) rfl fun load => Or.imp_right fun hmem => ?_
    unfold underWay at hmem ⊢
    rw [List.filterMap_append, ← List.append_assoc]
    exact List.mem_append_left _ hmem
  | @goOn w s before after ready owes =>
    refine ht.quiet rfl (Or.inr ⟨by simp, rfl⟩) rfl fun load => Or.imp_right fun hmem => ?_
    have hno : Job.load? (.resume w) = none := by
      change w.pause.load? = none
      rw [Pause.load?_eq, Pause.loadPause?_of_owes owes]
      rfl
    exact (underWay_pass ready hno).symm ▸ hmem
  | postpone wide s =>
    obtain ⟨-, -, -, hbrowser⟩ := cancelRun_drops s
    exact ht.cancel (by simp) rfl rfl hbrowser (underWay_scheduleRun s)
  | due wide ready =>
    refine ht.quiet rfl (Or.inr ⟨by simp, rfl⟩) rfl fun load => Or.imp_right fun hmem => ?_
    exact (underWay_pass ready rfl).symm ▸ hmem
  | cancel wide s =>
    obtain ⟨-, -, -, hbrowser⟩ := cancelRun_drops s
    exact ht.cancel (by simp) rfl rfl hbrowser rfl
  | runOver begun => exact ht.quiet rfl (Or.inr ⟨by simp, rfl⟩) rfl fun _ => id
  | @putOff s loading =>
    refine ht.noting (.putOff s.underWay) rfl (by simp) (Bool.and_true _).symm rfl
      (fun _ => Or.inl) (fun _ h => by cases h) fun behind h => ?_
    cases h
    exact fun load hload => Or.inr hload
  | @giveUp s t like idle state nothing =>
    refine ht.quiet like.journal (Or.inr ⟨by simp, ?_⟩) like.browser.pending (like.keep rfl)
    exact state.elim isLoading_of_state fun hfailed => (not_loading (Or.inr hfailed)).trans idle.symm
  | @begin h s load idle current executor generation hand =>
    have hno : h.load? = none := by obtain rfl | ⟨rfl, -⟩ := hand <;> rfl
    have hfree : ∀ load, h ≠ .settled load := by obtain rfl | ⟨rfl, -⟩ := hand <;> simp
    refine ht.noting (.begun load) rfl hfree rfl (Bool.and_true _).symm
      (fun other hother => Or.inl (Or.inr ?_)) (fun other hother => ?_) fun _ h => by cases h
    · exact hother.resolve_left fun hin => by rw [hno] at hin; cases hin
    · cases hother
      exact Or.inl rfl
  | decide planned => exact ht.quiet rfl (Or.inr ⟨by simp, rfl⟩) rfl fun _ => id
  | @ask load plan sent s t request =>
    cases request
    refine ht.aside [.asked _ load plan] rfl ?_ (Or.inr ⟨by simp, rfl⟩) rfl fun _ => Or.inl
    exact fun event hevent => List.mem_singleton.mp hevent ▸ rfl
  | @turn load plan sent rows paging s generation commit =>
    refine ht.aside [.fetched sent load plan rows] rfl ?_ (Or.inr ⟨by simp, rfl⟩) rfl
      fun _ => Or.inl
    exact fun event hevent => List.mem_singleton.mp hevent ▸ rfl
  | @display load plan sent view s generation =>
    obtain ⟨cache, hbrowser, -⟩ := showFetched_browser s load plan view
    refine ht.aside [.shown ⟨load, plan.config, view⟩] rfl ?_ (Or.inl ⟨load, rfl⟩) ?_
      fun other hother => Or.inl (hother.imp_right fun hmem => ?_)
    · exact fun event hevent => List.mem_singleton.mp hevent ▸ rfl
    · rw [hbrowser]
      rfl
    · rw [underWay_showFetched]
      exact hmem
  | @showAgain load step kept paging s recalled commit =>
    rw [showKept_committed commit]
    refine ht.aside [.recalled load _ step kept, .shown ⟨load, _, _⟩] (List.append_assoc _ _ _) ?_
      (Or.inl ⟨load, rfl⟩) rfl fun other hother => Or.inl (hother.imp_right fun hmem => ?_)
    · intro event hevent
      rcases List.mem_pair.mp hevent with rfl | rfl <;> rfl
    · dsimp only
      rw [underWay_spawn rfl]
      exact hmem
  | settle like state =>
    exact ht.quiet like.journal (Or.inl ⟨_, rfl⟩) like.browser.pending (like.keep rfl)
  | @finish load s idle settled =>
    refine .of_rest (showsLoad_hidden s.journal (.ended load) rfl) ?_ idle settled
    exact (owesLoad_note s.journal (.ended load)).trans
      ((Bool.and_true _).trans (ht.owed.symm.trans settled))
  | @relay load s idle =>
    refine .of_rest ?_ (owesLoad_relieved (s.journal ++ [LoadEvent.ended load]) .takenUp rfl) idle rfl
    exact (showsLoad_note (s.journal ++ [LoadEvent.ended load]) .takenUp).trans
      ((Bool.and_true _).trans (showsLoad_hidden s.journal (.ended load) rfl))
  | @takeUp s idle =>
    have hshown : s.browser.isLoading = showsLoad s.journal := ht.shown fun _ h => by cases h
    refine .of_rest ?_ (owesLoad_relieved s.journal .takenUp rfl) idle rfl
    exact (showsLoad_note s.journal .takenUp).trans
      ((Bool.and_true _).trans (hshown.symm.trans idle))
  | @broken load stage s breaks =>
    refine ht.aside [.broken load] rfl ?_ (Or.inr ⟨by simp, rfl⟩) rfl fun other hother => ?_
    · exact fun event hevent => List.mem_singleton.mp hevent ▸ rfl
    · rcases hother with hin | hmem
      · cases hin
        exact Or.inr (Or.inl List.mem_cons_self)
      · exact Or.inl (Or.inr hmem)
  | pause s => exact ht.quiet rfl (Or.inr ⟨by simp, rfl⟩) rfl fun _ => id
  | @park p w s waits =>
    refine ht.quiet rfl (Or.inr ⟨by simp, rfl⟩) rfl fun load hload => Or.inr ?_
    refine (mem_underWay_park waits).mpr ?_
    exact hload.symm.imp_right fun hin => (Option.some.inj hin).symm
  | @pick p w s before after ready waits =>
    refine ht.quiet rfl (Or.inr ⟨by simp, rfl⟩) rfl fun load hload => ?_
    have hmem := hload.resolve_left fun hin => by cases hin
    rcases List.mem_cons.mp ((underWay_take ready waits).mem_iff.mp hmem) with rfl | hrest
    · exact Or.inl rfl
    · exact Or.inr hrest
  | connect wide s connection backend =>
    obtain ⟨cache, unfiltered, hbrowser, -⟩ := useBackend_browser s connection backend
    refine ht.aside [.connected backend] rfl ?_ (Or.inr ⟨by simp, ?_⟩) ?_ fun _ => Or.inl
    · exact fun event hevent => List.mem_singleton.mp hevent ▸ rfl
    · rw [hbrowser]
      rfl
    · rw [hbrowser]
  | select s collection =>
    obtain ⟨history, hbrowser⟩ := selectCollection_browser s collection
    refine .of_rest (showsLoad_hidden _ (.selected _) rfl) (owesLoad_relieved _ (.selected _) rfl) ?_ ?_
    all_goals
      rw [hbrowser]
      rfl

/-- So does every way. -/
theorem Tracked.leads (hpath : ReflTransGen (Move R) m n) (ht : Tracked m) : Tracked n :=
  Leads.keeps (fun hmove => Tracked.move hmove) hpath ht

theorem tracked_start (browser : Browser) (backends : List Backend) (provider : Option Provider)
    (idle : browser.isLoading = false) (settled : browser.reloadPending = false) :
    Tracked ⟨.free, .start browser backends provider⟩ := .of_rest rfl rfl idle settled

/-- When no load is under way the journal tells of every one that is shown or owed that it was
lost. -/
theorem Tracked.at_rest (ht : Tracked ⟨.free, s⟩) (hnone : s.underWay = []) :
    (s.browser.isLoading = true ↔ Stranded s.journal) ∧
      (s.browser.reloadPending = true ↔ Forsaken s.journal) := by
  have haccounted : Accounted (fun _ => False) s.journal := by
    refine ht.accounted.mono fun load hload => ?_
    rcases hload with hin | hmem
    · cases hin
    · exact absurd hmem (by simp [hnone])
  have hshown : s.browser.isLoading = showsLoad s.journal := ht.shown fun _ h => by cases h
  exact ⟨by rw [hshown]; exact haccounted.stranded_iff.symm,
    by rw [ht.owed]; exact haccounted.forsaken_iff.symm⟩

/-! ## The law -/

/-- A realm in which nothing is taken for granted. -/
def anyRealm : Realm where
  backend := fun _ => True
  pause := fun _ => True
  breaks := fun _ => True
  command := fun _ => True
  wide := True
  flawed := True
  holds := True

theorem anyRealm_laws : anyRealm.Laws where
  responds := fun _ _ _ => trivial
  affects := fun _ _ _ _ _ => trivial
  prompt := Or.inl trivial
  schemas := fun _ _ => Or.inr trivial
  holds := fun _ _ => trivial
  loads := ⟨_, .of_any (fun _ => trivial) fun _ => trivial⟩

/-- A browser whose loads are all over shows no load and owes none, in whatever order everything
has been done, unless a load that was lost is shown still, or a reload is owed still that was put
off behind loads which were all lost. -/
theorem at_rest_iff_nothing_lost (settings : Settings) (connection collection : Option String)
    (executor : Option Nat) (archive : Option Archive) (backends : List Backend)
    (provider : Option Provider) (s : Session)
    (hcourse : ReflTransGen (Step fun _ => True)
      (.start (.start settings connection collection executor archive) backends provider) s)
    (hnone : s.underWay = []) :
    (s.browser.isLoading = false ∧ s.browser.reloadPending = false) ↔
      ¬ Stranded s.journal ∧ ¬ Forsaken s.journal := by
  obtain ⟨hpath, -⟩ := course_leads anyRealm_laws hcourse
    (within_start _ provider fun _ _ => trivial)
  obtain ⟨hloading, hpending⟩ := (Tracked.leads hpath (tracked_start _ _ _ rfl rfl)).at_rest hnone
  rw [← hloading, ← hpending, Bool.not_eq_true, Bool.not_eq_true]

/-! ## A browser left loading -/

/-- A browser of a collection without documents. -/
def emptySession : Session :=
  .start (.start .default (some "main") (some "docs") (some 0) none)
    [.ofSource (.store ⟨[("docs", [])], []⟩ false)] none

/-- A user types something. -/
def typing (text : String) : Command :=
  .dispatch (.object [("kind", .text "set_search_text"), ("text", .text text)])

/-- The load for what was typed first is out when something else is typed. -/
def retypedSession : Session :=
  let held := emptySession.ask 1 (.backend 0 .hold)
  ((held.ask 2 (typing "a")).sleep 1.0).ask 3 (typing "b")

theorem retypedSession_course : ReflTransGen (Step fun _ => True) emptySession retypedSession :=
  (course_ask _ 1 trivial).trans <| (course_ask _ 2 trivial).trans <|
    (course_sleep _ 1.0).trans (course_ask _ 3 trivial)

theorem retypedSession_loading :
    retypedSession.underWay = [] ∧ retypedSession.browser.isLoading = true := by
  have hnone : retypedSession.underWay.length = 0 := by decide +kernel
  exact ⟨List.eq_nil_of_length_eq_zero hnone, by decide +kernel⟩

/-- A load that is out is forgotten when something else is typed, and is shown ever after. -/
theorem retyped_search_is_left_loading :
    ReflTransGen (Step fun _ => True)
      (.start (.start .default (some "main") (some "docs") (some 0) none)
        [.ofSource (.store ⟨[("docs", [])], []⟩ false)] none) retypedSession ∧
    retypedSession.underWay = [] ∧
    ¬ (retypedSession.browser.isLoading = false ∧ retypedSession.browser.reloadPending = false) := by
  obtain ⟨hnone, hloading⟩ := retypedSession_loading
  exact ⟨retypedSession_course, hnone, fun h => by rw [hloading] at h; cases h.1⟩

/-- The journal tells that this browser is left loading. -/
theorem retyped_search_is_lost :
    Stranded retypedSession.journal ∨ Forsaken retypedSession.journal := by
  have hrest := at_rest_iff_nothing_lost .default (some "main") (some "docs") (some 0) none
    [.ofSource (.store ⟨[("docs", [])], []⟩ false)] none retypedSession retypedSession_course
    retypedSession_loading.1
  by_contra hno
  obtain ⟨hidle, -⟩ := hrest.mpr (not_or.mp hno)
  rw [retypedSession_loading.2] at hidle
  cases hidle

end Folio.Session
