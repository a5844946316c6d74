-- What the journal tells of pages. A page is fetched only after it was asked for, it is shown only
-- after it was fetched or recalled, and it is recalled only after it was fetched and kept.
import Folio.Proofs.Generations

open Relation (ReflTransGen)

namespace Folio

/-! ## Pages that are shown -/

/-- The page that an event shows. -/
def LoadEvent.showing? : LoadEvent → Option Showing
  | shown showing => some showing
  | _ => none

theorem LoadEvent.shown_of_showing {events : List LoadEvent} {showing : Showing}
    (h : showing ∈ events.filterMap showing?) : .shown showing ∈ events := by
  obtain ⟨event, hevent, hshown⟩ := List.mem_filterMap.mp h
  cases event with
  | shown other =>
    cases hshown
    exact hevent
  | _ => cases hshown

/-- If numbers of documents are shown, the first of them is shown with a page. -/
theorem LoadEvent.shown_of_totals {events : List LoadEvent} {total : Option Int}
    {later : List (Option Int)}
    (h : (events.filterMap showing?).map (·.view.total) = total :: later) :
    ∃ showing, .shown showing ∈ events ∧ showing.view.total = total := by
  obtain ⟨showing, hshowing, htotal⟩ := List.mem_map.mp (h ▸ List.mem_cons_self)
  exact ⟨showing, shown_of_showing hshowing, htotal⟩

/-! ## Pages that are borne out -/

/-- A page of a collection was planned for some connection and page size: its fingerprint and its
request are those of its query. -/
def PagePlan.MadeFor (plan : PagePlan) (collection : String) : Prop :=
  ∃ connection pageSize, plan.Compiled pageSize ∧ plan.fingerprint =
    Cache.fingerprint connection collection plan.config plan.move.page pageSize

namespace CachedPage

/-- A page that was kept has the fingerprint of a query, for some connection and page size. -/
def KeptFor (page : CachedPage) (collection : String) (config : QueryConfig) (n : Int) : Prop :=
  ∃ connection pageSize, page.fingerprint = Cache.fingerprint connection collection config n pageSize

/-- A page that was kept is one that was fetched. -/
def FetchedIn (page : CachedPage) (journal : List LoadEvent) : Prop :=
  ∃ sent load plan, plan.fingerprint = page.fingerprint ∧
    .fetched sent load plan (page.rows.map .object) ∈ journal

end CachedPage

/-- The page that is shown is one that its load has fetched or recalled for its query. -/
inductive Showing.FoundIn (showing : Showing) (journal : List LoadEvent) : Prop where
  | fetched {sent : Sent} {plan : PagePlan} (config : plan.config = showing.config)
      (fetched : .fetched sent showing.load plan (showing.view.rows.map .object) ∈ journal)
  | recalled {move : PageMove} {page : CachedPage} (view : showing.view = .ofRows page.rows page.total)
      (recalled : .recalled showing.load showing.config move page ∈ journal)

/-- What an event tells of a page is borne out by what was noted before. -/
def Grounded (before : List LoadEvent) : LoadEvent → Prop
  | .asked sent load plan => sent.collection = load.collection ∧
      sent.request = plan.request.toFields ∧ plan.MadeFor load.collection
  | .fetched sent load plan _ => .asked sent load plan ∈ before
  | .recalled load config move page => page.KeptFor load.collection config move.page ∧
      page.FetchedIn before
  | .shown showing => showing.FoundIn before
  | _ => True

/-- What is no page needs no bearing out. -/
theorem Grounded.of_topic {event : LoadEvent} (h : event.topic ≠ .page) (before : List LoadEvent) :
    Grounded before event := by
  cases event with
  | asked _ _ _ | fetched _ _ _ _ | recalled _ _ _ _ | shown _ => exact absurd rfl h
  | _ => trivial

/-- What was fetched had been asked for. -/
theorem asked_of_fetched {journal : List LoadEvent} (hgrounded : Throughout Grounded journal)
    {sent : Sent} {load : Load} {plan : PagePlan} {rows : List Value}
    (hmem : .fetched sent load plan rows ∈ journal) :
    ∃ earlier later, journal = earlier ++ .asked sent load plan :: later ∧
      .fetched sent load plan rows ∈ later := by
  obtain ⟨before, after, rfl, hasked⟩ := hgrounded.of_mem hmem
  obtain ⟨earlier, between, rfl⟩ := List.append_of_mem hasked
  exact ⟨earlier, between ++ .fetched sent load plan rows :: after, by simp, by simp⟩

/-- What a load has come to stands in the journal. -/
def Stage.NotedIn (journal : List LoadEvent) (load : Load) : Stage → Prop
  | .begun => True
  | .planned plan => plan.MadeFor load.collection
  | .asked plan sent => .asked sent load plan ∈ journal
  | .answered plan sent rows => .fetched sent load plan rows ∈ journal

theorem Stage.NotedIn.append {journal : List LoadEvent} {load : Load} {stage : Stage}
    (h : stage.NotedIn journal load) (events : List LoadEvent) :
    stage.NotedIn (journal ++ events) load := by
  cases stage with
  | begun | planned _ => exact h
  | asked _ _ | answered _ _ _ => exact List.mem_append_left _ h

theorem CachedPage.FetchedIn.append {page : CachedPage} {journal : List LoadEvent}
    (h : page.FetchedIn journal) (events : List LoadEvent) : page.FetchedIn (journal ++ events) := by
  obtain ⟨sent, load, plan, hsame, hmem⟩ := h
  exact ⟨sent, load, plan, hsame, List.mem_append_left _ hmem⟩

namespace Session

variable {R : Realm} {m n : Moment} {s t : Session} {load : Load} {stage : Stage}

/-- A page that is kept after a move was kept before, or was fetched and is shown. -/
theorem Move.pages (hmove : Move R m n) {page : CachedPage}
    (hpage : page ∈ n.session.browser.cache.pages) : page ∈ m.session.browser.cache.pages ∨
      ∃ load plan sent, ∃ view : View, ∃ clock,
        (load, .answered plan sent (view.rows.map .object)) ∈ m.works ∧
          page = ⟨plan.fingerprint, view.rows, view.total, clock⟩ := by
  cases hmove with
  | calm like | refuse like | giveUp like | settle like => exact Or.inl (like.browser.pages page hpage)
  | bump s renewed => exact Or.inl (renewed.pages page hpage)
  | postpone wide s | cancel wide s =>
    exact Or.inl (show page ∈ s.browser.cache.pages from cancelRun_browser s ▸ hpage)
  | ask request =>
    cases request
    exact Or.inl hpage
  | @display load plan sent view s generation =>
    obtain ⟨cache, hbrowser, hpages⟩ := showFetched_browser s load plan view
    dsimp only at hpage
    rw [hbrowser] at hpage
    rcases hpages page hpage with hold | hnew
    · exact Or.inl hold
    · exact Or.inr ⟨load, plan, sent, view, s.clock, mem_works_loading, hnew⟩
  | showAgain recalled commit =>
    rw [showKept_committed commit] at hpage
    exact Or.inl hpage
  | connect wide s connection backend =>
    obtain ⟨cache, unfiltered, hbrowser, hpages⟩ := useBackend_browser s connection backend
    dsimp only at hpage
    rw [hbrowser] at hpage
    exact Or.inl (hpages page hpage)
  | select s collection =>
    obtain ⟨history, hbrowser⟩ := selectCollection_browser s collection
    dsimp only at hpage
    rw [hbrowser, cancelRun_browser] at hpage
    exact Or.inl hpage
  | _ => exact Or.inl hpage

/-- What holds at every moment: the journal is borne out, loads have got where they are as it tells,
and pages that are kept were fetched. -/
structure Traced (m : Moment) : Prop where
  grounded : Throughout Grounded m.session.journal
  works : ∀ load stage, (load, stage) ∈ m.works → stage.NotedIn m.session.journal load
  kept : ∀ page ∈ m.session.browser.cache.pages, page.FetchedIn m.session.journal

theorem Traced.grounded_move (hmove : Move R m n) (hm : Traced m) :
    Throughout Grounded n.session.journal := by
  obtain ⟨events, hjournal, hwrites⟩ := hmove.writes
  rw [hjournal]
  cases hwrites with
  | loads topic =>
    exact hm.grounded.append fun event hevent => .of_topic (by simp [topic event hevent])
  | renewing generation topic =>
    refine hm.grounded.append fun event hevent => .of_topic ?_
    rcases topic event hevent with h | h <;> simp [h]
  | connected => exact hm.grounded.note trivial
  | asked mem request =>
    subst request
    refine hm.grounded.note ?_
    exact ⟨rfl, rfl, hm.works _ _ mem⟩
  | fetched mem => exact hm.grounded.note (hm.works _ _ mem)
  | shown mem => exact hm.grounded.note (.fetched rfl (hm.works _ _ mem))
  | @recalled load move kept mem recalled =>
    have hrecalled : Grounded m.session.journal
        (.recalled load m.session.browser.config move kept) :=
      ⟨⟨_, _, recalled.fingerprint⟩, hm.kept kept recalled.kept⟩
    rw [List.append_cons]
    refine (hm.grounded.note hrecalled).note ?_
    exact .recalled rfl (List.mem_append_right _ List.mem_cons_self)

/-- Every move keeps it so. -/
theorem Traced.move (hmove : Move R m n) (hm : Traced m) : Traced n := by
  obtain ⟨events, hjournal, -⟩ := hmove.writes
  refine ⟨hm.grounded_move hmove, fun load stage hmem => ?_, fun page hpage => ?_⟩
  · cases hmove.gotThere hmem with
    | stayed mem =>
      rw [hjournal]
      exact (hm.works _ _ mem).append events
    | begun => trivial
    | decided mem planned same =>
      refine ⟨m.session.browser.connection, _, planned.compiled, ?_⟩
      rw [planned.config]
      exact planned.fingerprint
    | asked mem request journal =>
      rw [journal]
      exact List.mem_append_right _ List.mem_cons_self
    | answered mem journal =>
      rw [journal]
      exact List.mem_append_right _ List.mem_cons_self
  · rw [hjournal]
    rcases hmove.pages hpage with hold | ⟨load, plan, sent, view, clock, mem, rfl⟩
    · exact (hm.kept page hold).append events
    · exact CachedPage.FetchedIn.append ⟨sent, load, plan, rfl, hm.works _ _ mem⟩ events

/-- So does every way. -/
theorem Traced.leads (hpath : ReflTransGen (Move R) m n) (hm : Traced m) : Traced n :=
  Leads.keeps (fun hmove => Traced.move hmove) hpath hm

theorem traced_start (browser : Browser) (backends : List Backend) (provider : Option Provider)
    (hnone : browser.cache.pages = []) : Traced ⟨.free, .start browser backends provider⟩ where
  grounded := .nil
  works := fun _ _ hmem => absurd hmem List.not_mem_nil
  kept := fun page hpage => by
    have hempty : page ∈ browser.cache.pages := hpage
    rw [hnone] at hempty
    cases hempty

end Session

end Folio
