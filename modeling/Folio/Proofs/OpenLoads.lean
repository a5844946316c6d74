-- How many loads are out at one time. A load is not let begin while one is shown; but a failure of
-- something else, and the selection of a collection, hide a load that is out still. Then another
-- one is let begin beside it, and in no other way.
import Folio.Proofs.Adrift
import Mathlib.Data.List.Induction

open Relation (ReflTransGen)

namespace Folio

/-! ## Open loads -/

namespace LoadEvent

/-- Whether a load is out no longer with an event. -/
def closes : LoadEvent → Bool
  | ended _ | broken _ | dropped _ => true
  | _ => false

/-- Whether an event hides a load that is out still. -/
def overtakes : LoadEvent → Bool
  | selected _ | troubled => true
  | _ => false

/-- How many loads are out after an event. -/
def openLoads (n : Nat) : LoadEvent → Nat
  | begun _ => n + 1
  | ended _ | broken _ | dropped _ => n - 1
  | _ => n

end LoadEvent

/-- How many loads are out, as the journal tells it. -/
def openLoads (journal : List LoadEvent) : Nat := journal.foldl LoadEvent.openLoads 0

/-- A load was let begin after something had hidden one that was out. -/
def Overtaken (journal : List LoadEvent) : Prop :=
  ∃ before event between load after,
    journal = before ++ event :: between ++ .begun load :: after ∧
    event.overtakes = true ∧ (∀ e ∈ between, e.closes = false) ∧ 1 ≤ openLoads before

/-- No load has begun while one was shown. -/
def Guarded : List LoadEvent → Prop :=
  Throughout fun before event => ∀ load, event = .begun load → showsLoad before = false

variable {journal events : List LoadEvent} {event : LoadEvent}

@[simp] theorem openLoads_note (journal : List LoadEvent) (event : LoadEvent) :
    openLoads (journal ++ [event]) = event.openLoads (openLoads journal) := by
  unfold openLoads
  rw [List.foldl_append]
  rfl

/-- Loads are out as long as none is closed. -/
theorem openLoads_le_append (journal : List LoadEvent) (h : ∀ e ∈ events, e.closes = false) :
    openLoads journal ≤ openLoads (journal ++ events) := by
  induction events generalizing journal with
  | nil => simp
  | cons event rest ih =>
    have hrest := ih (journal ++ [event]) fun e he => h e (List.mem_cons_of_mem _ he)
    have hevent := h event List.mem_cons_self
    rw [List.append_cons]
    refine Nat.le_trans ?_ hrest
    rw [openLoads_note]
    cases event <;> simp_all [LoadEvent.openLoads, LoadEvent.closes]

theorem openLoads_dropped (journal : List LoadEvent) (loads : List Load) :
    openLoads (journal ++ loads.map .dropped) = openLoads journal - loads.length := by
  induction loads generalizing journal with
  | nil => simp
  | cons load rest ih =>
    rw [List.map_cons, List.append_cons, ih, openLoads_note, List.length_cons]
    simp only [LoadEvent.openLoads]
    omega

theorem Overtaken.append (h : Overtaken journal) (events : List LoadEvent) :
    Overtaken (journal ++ events) := by
  obtain ⟨before, event, between, load, after, rfl, hrest⟩ := h
  exact ⟨before, event, between, load, after ++ events, by simp, hrest⟩

/-- An event lets a load begin, or closes one, or does neither. -/
theorem LoadEvent.opens_or_closes (event : LoadEvent) :
    (∃ load, event = .begun load) ∨ event.closes = true ∨
      (event.closes = false ∧ (∀ n, event.openLoads n = n) ∧
        (∀ shown, event.showsLoad shown = (shown && !event.hides)) ∧
        (event.hides = true → event.overtakes = true)) := by
  cases event with
  | begun load => exact Or.inl ⟨load, rfl⟩
  | ended _ | broken _ | dropped _ => exact Or.inr (Or.inl rfl)
  | selected _ | troubled => exact Or.inr (Or.inr ⟨rfl, fun _ => rfl, fun _ => rfl, fun _ => rfl⟩)
  | _ => exact Or.inr (Or.inr ⟨rfl, fun _ => rfl, fun _ => rfl, fun h => by cases h⟩)

theorem LoadEvent.openLoads_closed {event : LoadEvent} (h : event.closes = true) (n : Nat) :
    event.openLoads n = n - 1 := by
  cases event with
  | ended _ | broken _ | dropped _ => rfl
  | _ => cases h

/-- Where no load has begun while one was shown, and none was overtaken: at most one is out, and if
it is not shown something has hidden it since. -/
theorem Guarded.openLoads_le (hguarded : Guarded journal) (hno : ¬ Overtaken journal) :
    openLoads journal ≤ 1 ∧ (openLoads journal = 1 → showsLoad journal = false →
      ∃ before event between, journal = before ++ event :: between ∧ event.overtakes = true ∧
        (∀ e ∈ between, e.closes = false) ∧ 1 ≤ openLoads before) := by
  induction journal using List.reverseRecOn with
  | nil => exact ⟨Nat.zero_le 1, fun h => by cases h⟩
  | append_singleton earlier event ih =>
    obtain ⟨hone, hhidden⟩ := ih hguarded.earlier fun h => hno (h.append [event])
    rw [openLoads_note, showsLoad_note]
    rcases event.opens_or_closes with ⟨load, rfl⟩ | hcloses | ⟨hopen, hsame, hshows, hovertakes⟩
    · have hnone : openLoads earlier = 0 := by
        by_contra hsome
        have hone' : openLoads earlier = 1 := by omega
        obtain ⟨before, event, between, rfl, hover⟩ := hhidden hone' (hguarded earlier _ [] rfl load rfl)
        exact hno ⟨before, event, between, load, [], by simp, hover⟩
      refine ⟨?_, fun _ hshown => by cases hshown⟩
      simp [LoadEvent.openLoads, hnone]
    · rw [LoadEvent.openLoads_closed hcloses]
      refine ⟨by omega, fun h => ?_⟩
      omega
    · rw [hsame, hshows]
      refine ⟨hone, fun hout hshown => ?_⟩
      cases hbefore : showsLoad earlier with
      | false =>
        obtain ⟨before, e, between, rfl, hover, hclosed, hleast⟩ := hhidden hout hbefore
        refine ⟨before, e, between ++ [event], by simp, hover, fun other hother => ?_, hleast⟩
        rcases List.mem_append.mp hother with hmem | hmem
        · exact hclosed other hmem
        · rw [List.mem_singleton.mp hmem]
          exact hopen
      | true =>
        rw [hbefore] at hshown
        refine ⟨earlier, event, [], rfl, hovertakes (by simpa using hshown), by simp, ?_⟩
        omega

/-- Where no load has begun while one was shown, at most one was ever out just if none was
overtaken. -/
theorem Guarded.at_most_one_iff (hguarded : Guarded journal) :
    (∀ earlier, earlier <+: journal → openLoads earlier ≤ 1) ↔ ¬ Overtaken journal := by
  constructor
  · rintro hmost ⟨before, event, between, load, after, rfl, hover, hclosed, hleast⟩
    have hevents : ∀ e ∈ event :: between, e.closes = false := by
      intro e he
      rcases List.mem_cons.mp he with rfl | hmem
      · cases e <;> simp_all [LoadEvent.overtakes, LoadEvent.closes]
      · exact hclosed e hmem
    have hout := openLoads_le_append before hevents
    have hbegun := hmost (before ++ event :: between ++ [.begun load]) ⟨after, by simp⟩
    rw [openLoads_note] at hbegun
    simp only [LoadEvent.openLoads] at hbegun
    omega
  · rintro hno earlier ⟨later, rfl⟩
    exact (Guarded.openLoads_le hguarded.earlier fun h => hno (h.append later)).1

namespace Session

variable {R : Realm} {m n : Moment} {s t : Session} {h k : Hand}

/-! ## Moves keep count -/

/-- How many loads are in hand. -/
def Hand.loads (h : Hand) : Nat := h.load?.toList.length

/-- What holds at every moment: the loads that are out are under way or in hand, and none has begun
while one was shown. -/
structure Counted (m : Moment) : Prop where
  count : openLoads m.session.journal = m.session.underWay.length + m.hand.loads
  guarded : Guarded m.session.journal

/-- Nothing is noted that lets a load begin, or closes one. -/
theorem Counted.still (hc : Counted ⟨h, s⟩) (events : List LoadEvent)
    (journal : t.journal = s.journal ++ events)
    (still : ∀ event ∈ events, event.closes = false ∧ ∀ load, event ≠ .begun load)
    (underWay : t.underWay.length + k.loads = s.underWay.length + h.loads) : Counted ⟨k, t⟩ := by
  obtain ⟨hcount, hguarded⟩ := hc
  dsimp only at hcount hguarded
  have hkept : openLoads (s.journal ++ events) = openLoads s.journal ∧
      Guarded (s.journal ++ events) := by
    clear journal
    induction events using List.reverseRecOn with
    | nil => simpa using hguarded
    | append_singleton earlier event ih =>
      obtain ⟨hopen, hnone⟩ := still event (by simp)
      obtain ⟨hsame, hearlier⟩ := ih fun e he => still e (by simp [he])
      rw [← List.append_assoc, openLoads_note]
      refine ⟨?_, hearlier.note fun load hload => absurd hload (hnone load)⟩
      rcases event.opens_or_closes with ⟨load, rfl⟩ | hcloses | ⟨-, hn, -⟩
      · exact absurd rfl (hnone load)
      · rw [hopen] at hcloses
        cases hcloses
      · rw [hn, hsame]
  constructor
  · dsimp only
    rw [journal, hkept.1, hcount, underWay]
  · dsimp only
    rw [journal]
    exact hkept.2

/-- Nothing is noted at all. -/
theorem Counted.quiet (hc : Counted ⟨h, s⟩) (journal : t.journal = s.journal)
    (underWay : t.underWay.length + k.loads = s.underWay.length + h.loads) : Counted ⟨k, t⟩ :=
  hc.still [] (by simp [journal]) (by simp) underWay

/-- One event is noted that has no bearing on how many loads are out. -/
theorem Counted.passing (hc : Counted ⟨h, s⟩) (event : LoadEvent)
    (journal : t.journal = s.journal ++ [event]) (hopen : event.closes = false)
    (hnone : ∀ load, event ≠ .begun load)
    (underWay : t.underWay.length + k.loads = s.underWay.length + h.loads) : Counted ⟨k, t⟩ :=
  hc.still [event] journal (fun _ he => List.mem_singleton.mp he ▸ ⟨hopen, hnone⟩) underWay

/-- The load in hand is closed. -/
theorem Counted.closing (hc : Counted ⟨h, s⟩) (event : LoadEvent)
    (journal : t.journal = s.journal ++ [event]) (hcloses : event.closes = true)
    (underWay : t.underWay.length + k.loads + 1 = s.underWay.length + h.loads) :
    Counted ⟨k, t⟩ := by
  obtain ⟨hcount, hguarded⟩ := hc
  dsimp only at hcount hguarded
  constructor
  · dsimp only
    rw [journal, openLoads_note, LoadEvent.openLoads_closed hcloses, hcount]
    omega
  · dsimp only
    rw [journal]
    refine hguarded.note fun load hload => ?_
    subst hload
    cases hcloses

/-- Loads under way are forgotten. -/
theorem Counted.dropping (hc : Counted ⟨h, s⟩) (loads : List Load)
    (journal : t.journal = s.journal ++ loads.map .dropped)
    (underWay : s.underWay.Perm (t.underWay ++ loads)) (hand : k.loads = h.loads) :
    Counted ⟨k, t⟩ := by
  obtain ⟨hcount, hguarded⟩ := hc
  dsimp only at hcount hguarded
  have hlength := underWay.length_eq
  rw [List.length_append] at hlength
  constructor
  · dsimp only
    rw [journal, openLoads_dropped, hcount, hand]
    omega
  · dsimp only
    rw [journal]
    clear journal underWay hlength
    induction loads using List.reverseRecOn with
    | nil => simpa using hguarded
    | append_singleton earlier load ih =>
      rw [List.map_append, ← List.append_assoc]
      exact ih.note fun other hother => by cases hother

/-- Every move keeps count. A load begins only where none is shown. -/
theorem Counted.move (hmove : Move R m n) (ht : Tracked m) (hc : Counted m) : Counted n := by
  cases hmove with
  | calm like | refuse like | giveUp like | settle like =>
    exact hc.quiet like.journal (congrArg (· + Hand.loads _) like.underWay.length_eq)
  | trouble s f => exact hc.passing .troubled rfl rfl (by simp) rfl
  | bump => exact hc.passing .renewed rfl rfl (by simp) rfl
  | leave => exact hc.quiet rfl rfl
  | @defer w holds s owes =>
    have hno : w.pause.load? = none := by rw [Pause.load?_eq, Pause.loadPause?_of_owes owes]; rfl
    refine hc.quiet rfl ?_
    unfold underWay
    simp [hno, Hand.loads, Hand.load?]
  | @goOn w s before after ready owes =>
    have hno : Job.load? (.resume w) = none := by
      change w.pause.load? = none
      rw [Pause.load?_eq, Pause.loadPause?_of_owes owes]
      rfl
    exact hc.quiet rfl (by rw [underWay_pass ready hno]; rfl)
  | postpone wide s =>
    obtain ⟨loads, hjournal, hperm, -⟩ := cancelRun_drops s
    exact hc.dropping loads hjournal (by rwa [underWay_scheduleRun]) rfl
  | due wide ready => exact hc.quiet rfl (by rw [underWay_pass ready rfl]; rfl)
  | cancel wide s =>
    obtain ⟨loads, hjournal, hperm, -⟩ := cancelRun_drops s
    exact hc.dropping loads hjournal hperm rfl
  | runOver => exact hc.quiet rfl rfl
  | @putOff s loading => exact hc.passing (.putOff s.underWay) rfl rfl (by simp) rfl
  | @begin h s load idle current executor generation hand =>
    have hfree : h.loads = 0 ∧ ∀ load, h ≠ .settled load := by
      rcases hand with rfl | ⟨rfl, -⟩ <;> exact ⟨rfl, by simp⟩
    have hshown : showsLoad s.journal = false := (ht.shown hfree.2).symm.trans idle
    refine ⟨?_, hc.guarded.note fun _ _ => hshown⟩
    have hcount := hc.count
    dsimp only at hcount
    rw [hfree.1] at hcount
    change openLoads (s.journal ++ [.begun load]) = s.underWay.length + 1
    rw [openLoads_note, hcount]
    rfl
  | decide => exact hc.quiet rfl rfl
  | @ask load plan sent s t request =>
    cases request
    exact hc.passing (.asked _ load plan) rfl rfl (by simp) rfl
  | @turn load plan sent rows => exact hc.passing (.fetched sent load plan rows) rfl rfl (by simp) rfl
  | @display load plan sent view s generation =>
    refine hc.passing (.shown ⟨load, plan.config, view⟩) rfl rfl (by simp) ?_
    rw [underWay_showFetched]
    rfl
  | @showAgain load step kept paging s recalled commit =>
    rw [showKept_committed commit]
    refine hc.still [.recalled load _ step kept, .shown ⟨load, _, _⟩] (List.append_assoc _ _ _) ?_ ?_
    · intro event hevent
      rcases List.mem_pair.mp hevent with rfl | rfl <;> exact ⟨rfl, by simp⟩
    · dsimp only
      rw [underWay_spawn rfl]
      rfl
  | @finish load s => exact hc.closing (.ended load) rfl rfl rfl
  | @relay load s =>
    have hended : Counted ⟨.free, s.note (.ended load)⟩ := hc.closing (.ended load) rfl rfl rfl
    exact hended.passing .takenUp rfl rfl (by simp) rfl
  | takeUp => exact hc.passing .takenUp rfl rfl (by simp) rfl
  | @broken load => exact hc.closing (.broken load) rfl rfl rfl
  | pause => exact hc.quiet rfl rfl
  | @park p w s waits =>
    have hload : w.pause.load? = some p.load := by rw [Pause.load?_eq, waits]; rfl
    refine hc.quiet rfl ?_
    unfold underWay
    simp [hload, Hand.loads, Hand.load?]
    omega
  | pick ready waits =>
    refine hc.quiet rfl ?_
    rw [(underWay_take ready waits).length_eq]
    rfl
  | connect wide s connection backend =>
    exact hc.passing (.connected backend) rfl rfl (by simp) rfl
  | select s collection =>
    obtain ⟨loads, hjournal, hperm, -⟩ := cancelRun_drops s
    have hdropped : Counted ⟨.free, s.cancelRun⟩ := hc.dropping loads hjournal hperm rfl
    exact hdropped.passing (.selected _) rfl rfl (by simp) rfl

/-- So does every way. -/
theorem Counted.leads (hpath : ReflTransGen (Move R) m n) (ht : Tracked m) (hc : Counted m) :
    Counted n :=
  Leads.keeps_beside (fun hmove => Tracked.move hmove) (fun hmove ht hc => hc.move hmove ht) hpath ht hc

theorem counted_start (browser : Browser) (backends : List Backend) (provider : Option Provider) :
    Counted ⟨.free, .start browser backends provider⟩ :=
  ⟨rfl, .nil⟩

/-! ## The law -/

/-- The loads that are out are those under way, in whatever order everything has been done; and never
was more than one out, unless one was let begin after a failure of something else, or the selection
of a collection, had hidden one that was out. -/
theorem at_most_one_open_iff_not_overtaken (settings : Settings)
    (connection collection : Option String) (executor : Option Nat) (archive : Option Archive)
    (backends : List Backend) (provider : Option Provider) (s : Session)
    (hcourse : ReflTransGen (Step fun _ => True)
      (.start (.start settings connection collection executor archive) backends provider) s) :
    s.underWay.length = openLoads s.journal ∧
      ((∀ earlier, earlier <+: s.journal → openLoads earlier ≤ 1) ↔ ¬ Overtaken s.journal) := by
  obtain ⟨hpath, -⟩ := course_leads anyRealm_laws hcourse
    (within_start _ provider fun _ _ => trivial)
  have hcounted := Counted.leads hpath (tracked_start _ _ _ rfl rfl) (counted_start _ _ _)
  exact ⟨hcounted.count.symm, hcounted.guarded.at_most_one_iff⟩

/-! ## Two loads at once -/

/-- While a load is out, a change of a document that is not there fails; and another load is let
begin. -/
def crowdedSession : Session :=
  [.backend 0 .hold, .load .null false, .update (.int 9) (.object [("v", .int 0)]),
    .load .null false].foldl (fun s command => s.ask 1 command) emptySession

theorem crowdedSession_course : ReflTransGen (Step fun _ => True) emptySession crowdedSession :=
  course_foldl_ask (fun _ _ => trivial) emptySession

theorem crowdedSession_underWay : crowdedSession.underWay.length = 2 := by decide +kernel

/-- Two loads are out at once. -/
theorem two_loads_are_out :
    ReflTransGen (Step fun _ => True) emptySession crowdedSession ∧
      ¬ crowdedSession.underWay.length ≤ 1 := by
  refine ⟨crowdedSession_course, ?_⟩
  rw [crowdedSession_underWay]
  decide

/-- The journal tells that the first one was overtaken. -/
theorem crowded_load_is_overtaken : Overtaken crowdedSession.journal := by
  obtain ⟨hopen, hmost⟩ := at_most_one_open_iff_not_overtaken .default (some "main") (some "docs")
    (some 0) none [.ofSource (.store ⟨[("docs", [])], []⟩ false)] none crowdedSession
    crowdedSession_course
  by_contra hno
  have hone := hmost.mpr hno crowdedSession.journal (List.prefix_refl _)
  rw [← hopen, crowdedSession_underWay] at hone
  exact absurd hone (by decide)

end Session

end Folio
