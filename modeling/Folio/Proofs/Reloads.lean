-- Whether a change of the query is ever lost. After each of them the first page is loaded anew, at
-- once or after the load under way; and that load is never broken off. So when nothing is under way
-- any more it has been made, unless it was put off for good.
import Folio.Proofs.Adrift
import Folio.Proofs.FirstPages

open Relation (ReflTransGen)

namespace Folio

/-- The generation that begins with the selection of a collection. -/
def LoadEvent.selectedAt (generation : Nat) : LoadEvent → Nat
  | selected n => n
  | _ => generation

/-- The generation that began when a collection was selected last. -/
def selectedAt (journal : List LoadEvent) : Nat := journal.foldl LoadEvent.selectedAt 0

@[simp] theorem selectedAt_note (journal : List LoadEvent) (event : LoadEvent) :
    selectedAt (journal ++ [event]) = event.selectedAt (selectedAt journal) := by
  unfold selectedAt
  rw [List.foldl_append]
  rfl

/-- The load is one of the first page, for the query as it is. -/
structure Load.Renews (load : Load) (b : Browser) : Prop where
  first : load.IsFirst
  collection : b.current? = some load.collection
  generation : load.generation = b.generation

theorem Load.Renews.of_same {load : Load} {b c : Browser} (h : load.Renews b)
    (hlike : Session.SameQuery b c) : load.Renews c where
  first := h.first
  collection := hlike.current.trans h.collection
  generation := h.generation.trans hlike.generation.symm

namespace Session

/-- The first page has been loaded for the query as it is. -/
def Reloaded (s : Session) : Prop :=
  ∃ load, .ended load ∈ s.journal ∧ load.page = .int 1 ∧
    s.browser.current? = some load.collection ∧ load.generation = s.browser.generation

/-- Nothing is ready to be done, and nothing waits for a backend. -/
def Quiescent (s : Session) : Prop := s.ready = [] ∧ ∀ w ∈ s.waiting, w.pause.gate = .background

theorem gate_ne_background {pause : Pause} (h : pause.gate = .background) :
    pause.loadPause? = none ∧ pause.owes = false := by
  induction pause with
  | load p after => cases p <;> cases h
  | schema query after => cases h
  | request sent => cases h
  | background => exact ⟨rfl, rfl⟩
  | web before waits pause ih => exact ih h

variable {s t : Session} {m n : Moment} {load : Load}

theorem InDebt.spawn (h : s.InDebt) (job : Job) : (s.spawn job).InDebt := by
  obtain ⟨w, hw, howes⟩ := h
  refine ⟨w, ?_, howes⟩
  unfold Session.actions at hw
  unfold Session.actions Session.spawn
  rw [List.filterMap_append, List.append_assoc]
  exact (List.mem_append.mp hw).elim (List.mem_append_left _)
    fun hmem => List.mem_append_right _ (List.mem_append_right _ hmem)

theorem Quiescent.actions (h : s.Quiescent) : s.actions = s.waiting := by
  unfold Session.actions
  rw [h.1]
  rfl

theorem Quiescent.underWay (h : s.Quiescent) : s.underWay = [] := by
  rw [underWay_eq, List.map_eq_nil_iff]
  unfold pauses
  rw [h.actions, List.filterMap_eq_nil_iff]
  exact fun w hw => (gate_ne_background (h.2 w hw)).1

theorem Quiescent.not_inDebt (h : s.Quiescent) : ¬ s.InDebt := by
  rintro ⟨w, hw, howes⟩
  rw [h.actions] at hw
  rw [(gate_ne_background (h.2 w hw)).2] at howes
  cases howes

/-! ## The invariant -/

/-- What holds at every moment: when the query has changed since the collection was selected, the
first page has been loaded for it, or is being loaded, or is owed. -/
def Provided (m : Moment) : Prop :=
  selectedAt m.session.journal < m.session.browser.generation →
  m.session.browser.executor.isSome → m.session.browser.current?.isSome →
    m.hand = .owing ∨ m.session.browser.reloadPending = true ∨ m.session.InDebt ∨
    ∃ load, load.Renews m.session.browser ∧ (m.has load ∨ .ended load ∈ m.session.journal)

/-- The query stays, and so does the load that was made for it. -/
theorem Provided.keep {h k : Hand} (hp : Provided ⟨h, s⟩)
    (like : SameQuery s.browser t.browser) (selected : selectedAt t.journal = selectedAt s.journal)
    (owing : h = .owing → k = .owing) (debt : s.InDebt → t.InDebt)
    (keep : ∀ load : Load, load.IsFirst → Moment.has ⟨h, s⟩ load →
      Moment.has ⟨k, t⟩ load ∨ .ended load ∈ t.journal)
    (ended : ∀ load, .ended load ∈ s.journal → .ended load ∈ t.journal) : Provided ⟨k, t⟩ := by
  intro hchanged hexecutor hcurrent
  dsimp only at hchanged hexecutor hcurrent ⊢
  rw [selected, like.generation] at hchanged
  rw [like.executor] at hexecutor
  rw [like.current] at hcurrent
  rcases hp hchanged hexecutor hcurrent with hhand | hpending | hdebt | ⟨load, hrenews, hload⟩
  · exact Or.inl (owing hhand)
  · exact Or.inr (Or.inl (like.pending.trans hpending))
  · exact Or.inr (Or.inr (Or.inl (debt hdebt)))
  · refine Or.inr (Or.inr (Or.inr ⟨load, hrenews.of_same like, ?_⟩))
    exact hload.elim (keep load hrenews.first) fun hended => Or.inr (ended load hended)

theorem Provided.of_owing : Provided ⟨.owing, s⟩ := fun _ _ _ => Or.inl rfl

/-- A session begins as if its collection had just been selected. -/
theorem provided_start (browser : Browser) (backends : List Backend) (provider : Option Provider)
    (hgeneration : browser.generation = 0) :
    Provided ⟨.free, .start browser backends provider⟩ := by
  intro hchanged
  have hless : 0 < browser.generation := hchanged
  omega

/-- Every move keeps it. A load of the first page may wait, but cannot be broken off. -/
theorem Provided.move (hmove : Move keyedRealm m n) (hp : Provided m) : Provided n := by
  cases hmove with
  | calm like state =>
    exact hp.keep like.browser.toSameQuery (congrArg selectedAt like.journal) id like.debt
      (fun load _ hload => Or.inl (like.keep rfl load hload)) fun _ hended => like.journal ▸ hended
  | refuse like idle state | settle like state =>
    exact hp.keep like.browser.toSameQuery (congrArg selectedAt like.journal) (fun h => by cases h)
      like.debt (fun load _ hload => Or.inl (like.keep rfl load hload))
      fun _ hended => like.journal ▸ hended
  | trouble s f =>
    exact hp.keep ⟨rfl, rfl, rfl, rfl⟩ (selectedAt_note s.journal .troubled) (fun h => by cases h) id
      (fun _ _ => Or.inl) fun _ hended => List.mem_append_left _ hended
  | bump => exact .of_owing
  | leave flawed => exact flawed.elim
  | @defer w holds s owes =>
    refine fun _ _ _ => Or.inr (Or.inr (Or.inl ⟨w, ?_, owes⟩))
    exact List.mem_append_right _ (List.mem_append_right _ List.mem_cons_self)
  | goOn => exact .of_owing
  | postpone wide => exact wide.elim
  | due wide => exact wide.elim
  | cancel wide => exact wide.elim
  | runOver => exact hp
  | putOff => exact fun _ _ _ => Or.inr (Or.inl rfl)
  | giveUp like idle state nothing =>
    intro _ hexecutor hcurrent
    rw [like.browser.executor] at hexecutor
    rw [like.browser.current] at hcurrent
    rcases nothing with hnone | hnone
    · rw [hnone] at hcurrent
      cases hcurrent
    · rw [hnone] at hexecutor
      cases hexecutor
  | @begin h s load idle current executor generation hand =>
    rcases hand with rfl | ⟨rfl, hpage, hforced⟩
    · refine hp.keep ⟨rfl, rfl, rfl, rfl⟩ (selectedAt_note s.journal (.begun load))
        (fun h => by cases h) id (fun other _ hother => Or.inl (Or.inr ?_))
        fun _ hended => List.mem_append_left _ hended
      exact hother.resolve_left fun hin => by cases hin
    · exact fun _ _ _ => Or.inr (Or.inr (Or.inr
        ⟨load, ⟨⟨hpage, hforced⟩, current, generation⟩, Or.inl (Or.inl rfl)⟩))
  | decide =>
    exact hp.keep ⟨rfl, rfl, rfl, rfl⟩ rfl (fun h => by cases h) id (fun _ _ => Or.inl) fun _ => id
  | @ask load plan sent s t request =>
    cases request
    exact hp.keep ⟨rfl, rfl, rfl, rfl⟩ (selectedAt_note s.journal (.asked _ load plan))
      (fun h => by cases h) id (fun _ _ => Or.inl) fun _ hended => List.mem_append_left _ hended
  | @turn load plan sent rows paging s =>
    exact hp.keep ⟨rfl, rfl, rfl, rfl⟩ (selectedAt_note s.journal (.fetched sent load plan rows))
      (fun h => by cases h) id (fun _ _ => Or.inl) fun _ hended => List.mem_append_left _ hended
  | @display load plan sent view s generation =>
    obtain ⟨cache, hbrowser, -⟩ := showFetched_browser s load plan view
    refine hp.keep ?_ (selectedAt_note s.journal (.shown ⟨load, plan.config, view⟩))
      (fun h => by cases h) (fun hdebt => hdebt.spawn _)
      (fun other _ hother => Or.inl (hother.imp_right fun hmem => ?_))
      fun _ hended => List.mem_append_left _ hended
    · rw [hbrowser]
      exact ⟨rfl, rfl, rfl, rfl⟩
    · rw [underWay_showFetched]
      exact hmem
  | @showAgain load step kept paging s recalled commit =>
    rw [showKept_committed commit]
    refine hp.keep ⟨rfl, rfl, rfl, rfl⟩ ?_ (fun h => by cases h) (fun hdebt => hdebt.spawn _)
      (fun other _ hother => Or.inl (hother.imp_right fun hmem => ?_))
      fun _ hended => List.mem_append_left _ (List.mem_append_left _ hended)
    · exact (selectedAt_note _ (.shown _)).trans (selectedAt_note s.journal (.recalled _ _ _ _))
    · dsimp only
      rw [underWay_spawn rfl]
      exact hmem
  | @finish load s idle settled =>
    refine hp.keep ⟨rfl, rfl, rfl, rfl⟩ (selectedAt_note s.journal (.ended load))
      (fun h => by cases h) id (fun other _ hother => ?_) fun _ hended => List.mem_append_left _ hended
    rcases hother with hin | hmem
    · cases hin
      exact Or.inr (List.mem_append_right _ List.mem_cons_self)
    · exact Or.inl (Or.inr hmem)
  | relay => exact .of_owing
  | takeUp => exact .of_owing
  | @broken load stage s breaks =>
    refine hp.keep ⟨rfl, rfl, rfl, rfl⟩ (selectedAt_note s.journal (.broken load))
      (fun h => by cases h) id (fun other hfirst hother => ?_)
      fun _ hended => List.mem_append_left _ hended
    rcases hother with hin | hmem
    · cases hin
      exact absurd hfirst breaks
    · exact Or.inl (Or.inr hmem)
  | pause s =>
    exact hp.keep ⟨rfl, rfl, rfl, rfl⟩ rfl (fun h => by cases h) id (fun _ _ => Or.inl) fun _ => id
  | @park p w s waits =>
    refine hp.keep ⟨rfl, rfl, rfl, rfl⟩ rfl (fun h => by cases h)
      (fun ⟨v, hv, howes⟩ => ⟨v, ?_, howes⟩) (fun other _ hother => Or.inl (Or.inr ?_)) fun _ => id
    · rw [actions_park]
      exact List.mem_append_left _ hv
    · exact (mem_underWay_park waits).mpr
        (hother.symm.imp_right fun hin => (Option.some.inj hin).symm)
  | @pick p w s before after ready waits =>
    refine hp.keep ⟨rfl, rfl, rfl, rfl⟩ rfl (fun h => by cases h)
      (fun ⟨v, hv, howes⟩ => ⟨v, ?_, howes⟩) (fun other _ hother => Or.inl ?_) fun _ => id
    · rcases List.mem_cons.mp ((actions_take ready).mem_iff.mp hv) with rfl | hrest
      · rw [Pause.loadPause?_of_owes howes] at waits
        cases waits
      · exact hrest
    · have hmem := hother.resolve_left fun hin => by cases hin
      rcases List.mem_cons.mp ((underWay_take ready waits).mem_iff.mp hmem) with rfl | hrest
      · exact Or.inl rfl
      · exact Or.inr hrest
  | connect wide => exact wide.elim
  | select s collection =>
    intro hchanged
    have hselected : selectedAt (s.selectCollection collection).journal =
        (s.selectCollection collection).browser.generation := selectedAt_note _ (.selected _)
    rw [hselected] at hchanged
    exact absurd hchanged (lt_irrefl _)

/-! ## The law -/

/-- When nothing is under way any more, the first page has been loaded for the query as it is, if
that has changed since its collection was selected, and no reload is owed: unless a reload was put
off behind loads that were all broken off, and is owed still. -/
theorem reloaded_iff_not_forsaken (settings : Settings) (connection collection : Option String)
    (executor : Option Nat) (archive : Option Archive) (backends : List Backend)
    (provider : Option Provider) (s : Session) (hbackends : ∀ b ∈ backends, b.Keyed)
    (hcourse : ReflTransGen (Step Deliberate)
      (.start (.start settings connection collection executor archive) backends provider) s)
    (hquiescent : s.Quiescent) (hexecutor : s.browser.executor.isSome)
    (hcurrent : s.browser.current?.isSome)
    (hchanged : selectedAt s.journal < s.browser.generation) :
    (s.Reloaded ∧ s.browser.reloadPending = false) ↔ ¬ Forsaken s.journal := by
  obtain ⟨hpath, -⟩ := course_leads keyedRealm_laws hcourse (within_start _ provider hbackends)
  obtain ⟨-, hpending⟩ := (Tracked.leads hpath (tracked_start _ _ _ rfl rfl)).at_rest
    hquiescent.underWay
  have hprovided := Leads.keeps (fun hmove => Provided.move hmove) hpath
    (provided_start _ _ _ rfl) hchanged hexecutor hcurrent
  rw [← hpending, Bool.not_eq_true]
  refine ⟨fun h => h.2, fun hsettled => ⟨?_, hsettled⟩⟩
  rcases hprovided with hhand | howed | hdebt | ⟨load, hrenews, hload⟩
  · cases hhand
  · rw [hsettled] at howed
    cases howed
  · exact absurd hdebt hquiescent.not_inDebt
  · rcases hload with (hin | hmem) | hended
    · cases hin
    · rw [hquiescent.underWay] at hmem
      cases hmem
    · exact ⟨load, hended, hrenews.first.1, hrenews.collection, hrenews.generation⟩

/-! ## A change that is lost -/

/-- A store of three documents. -/
def threeDocs : Backend :=
  let docs : List Fields := [[("id", .int 1)], [("id", .int 2)], [("id", .int 3)]]
  .ofSource (.store ⟨[("docs", docs.map (fun d => ⟨d.get "id", d⟩))], []⟩ true)

theorem threeDocs_keyed : threeDocs.Keyed := by
  refine ⟨_, true, rfl, fun entry hentry d hd => ?_, fun _ _ h => by cases h⟩
  rw [List.mem_singleton.mp hentry] at hd
  obtain ⟨fields, hfields, rfl⟩ := List.mem_map.mp hd
  simp only [List.mem_cons, List.not_mem_nil, or_false] at hfields
  rcases hfields with rfl | rfl | rfl
  · exact ⟨.int 1, rfl⟩
  · exact ⟨.int 2, rfl⟩
  · exact ⟨.int 3, rfl⟩

/-- A browser of this store that shows one document on a page. -/
def threePages : Session :=
  .start (.start { Settings.default with pageSize := 1 } (some "main") (some "docs") (some 0) none)
    [threeDocs] none

/-- A user goes to a page. -/
def goTo (page : Int) : Command :=
  .dispatch (.object [("kind", .text "go_to_page"), ("page", .int page)])

/-- A user turns the order round. -/
def turnRound : Command := .dispatch (.object
  [("kind", .text "set_sort"), ("attribute", .text "id"), ("direction", .text "desc")])

theorem goTo_deliberate (page : Int) : Deliberate (goTo page) := by
  refine ⟨fun intent h => ?_, trivial⟩
  change (Intent.goToPage <$> Fields.needed [("kind", .text "go_to_page"), ("page", .int page)]
    "page" (Reader.wholeIn 1 none)).orFault = .ok intent at h
  cases hpage : Fields.needed [("kind", .text "go_to_page"), ("page", .int page)] "page"
      (Reader.wholeIn 1 none) with
  | sound n =>
    rw [hpage] at h
    cases h
    rfl
  | flawed flaws =>
    rw [hpage] at h
    cases h

theorem turnRound_deliberate : Deliberate turnRound := ⟨fun _ h => by cases h; rfl, trivial⟩

/-- While the third page is under way an update fails, and the first page is shown again as it was
kept. Then the third page is shown, but cannot be entered another time; and the order is turned
round. -/
def tornWalk : List Command :=
  [goTo 1, goTo 2, .backend 0 .hold, goTo 3, .update (.int 9) (.object [("v", .int 0)]), goTo 1,
    .backend 0 (.release false), goTo 3, turnRound]

theorem tornWalk_deliberate : ∀ command ∈ tornWalk, Deliberate command := by
  intro command hcommand
  simp only [tornWalk, List.mem_cons, List.not_mem_nil, or_false] at hcommand
  rcases hcommand with rfl | rfl | rfl | rfl | rfl | rfl | rfl | rfl | rfl
  · exact goTo_deliberate 1
  · exact goTo_deliberate 2
  · exact ⟨trivial, trivial⟩
  · exact goTo_deliberate 3
  · refine ⟨trivial, fun fields h v hv => ?_⟩
    cases h
    simp at hv
  · exact goTo_deliberate 1
  · exact ⟨trivial, trivial⟩
  · exact goTo_deliberate 3
  · exact turnRound_deliberate

def tornSession : Session := tornWalk.foldl (fun s command => s.ask 1 command) threePages

theorem tornSession_eq :
    tornSession.ready.length = 0 ∧ tornSession.waiting.length = 0 ∧
      tornSession.browser.executor = some 0 ∧ tornSession.browser.current? = some "docs" ∧
      selectedAt tornSession.journal < tornSession.browser.generation ∧
      tornSession.browser.reloadPending = true := by
  decide +kernel

/-- The order was turned round, and the first page is never loaded in the new one. -/
theorem turned_order_is_never_loaded :
    threeDocs.Keyed ∧ ReflTransGen (Step Deliberate) threePages tornSession ∧
    tornSession.Quiescent ∧ tornSession.browser.executor.isSome ∧
    tornSession.browser.current?.isSome ∧
    selectedAt tornSession.journal < tornSession.browser.generation ∧
    ¬ (tornSession.Reloaded ∧ tornSession.browser.reloadPending = false) := by
  obtain ⟨hready, hwaiting, hexecutor, hcurrent, hchanged, hpending⟩ := tornSession_eq
  have hnothing := List.eq_nil_of_length_eq_zero hwaiting
  refine ⟨threeDocs_keyed, course_foldl_ask tornWalk_deliberate threePages, ⟨?_, ?_⟩, ?_, ?_,
    hchanged, ?_⟩
  · exact List.eq_nil_of_length_eq_zero hready
  · rw [hnothing]
    exact fun _ hw => absurd hw List.not_mem_nil
  · rw [hexecutor]
    rfl
  · rw [hcurrent]
    rfl
  · rw [hpending]
    exact fun h => by cases h.2

/-- The journal tells that the reload was put off for good. -/
theorem turned_order_is_forsaken : Forsaken tornSession.journal := by
  obtain ⟨hready, hwaiting, hexecutor, hcurrent, hchanged, hpending⟩ := tornSession_eq
  have hnothing := List.eq_nil_of_length_eq_zero hwaiting
  have hiff := reloaded_iff_not_forsaken { Settings.default with pageSize := 1 } (some "main")
    (some "docs") (some 0) none [threeDocs] none tornSession
    (fun b hb => List.mem_singleton.mp hb ▸ threeDocs_keyed)
    (course_foldl_ask tornWalk_deliberate threePages)
    ⟨List.eq_nil_of_length_eq_zero hready, by
      rw [hnothing]
      exact fun _ hw => absurd hw List.not_mem_nil⟩
    (by rw [hexecutor]; rfl) (by rw [hcurrent]; rfl) hchanged
  by_contra hno
  obtain ⟨-, hsettled⟩ := hiff.mpr hno
  rw [hpending] at hsettled
  cases hsettled

end Session

end Folio
