-- Where the keys come from behind which pages are asked for. A key is one of the query that a page
-- is asked for, as far as filters have not been made anew since, rankings do not depend on what is
-- known of attributes, and no other backend is used.
import Folio.Proofs.Calls
import Folio.Proofs.Records

open Relation (ReflTransGen)

namespace Folio

/-! ## Backends in use -/

/-- The backend that is used after an event. -/
def LoadEvent.backendAfter (used : Option Nat) : LoadEvent → Option Nat
  | connected backend => some backend
  | _ => used

/-- The backend that is used after all of a journal, if one was used before. -/
def backendAfter (used : Option Nat) (journal : List LoadEvent) : Option Nat :=
  journal.foldl LoadEvent.backendAfter used

/-- Where none is connected the same backend is used. -/
theorem backendAfter_append (used : Option Nat) (journal : List LoadEvent) {events : List LoadEvent}
    (hnone : ∀ backend, .connected backend ∉ events) :
    backendAfter used (journal ++ events) = backendAfter used journal := by
  induction events generalizing journal with
  | nil => rw [List.append_nil]
  | cons event rest ih =>
    rw [List.append_cons, ih _ fun backend hin => hnone backend (List.mem_cons_of_mem _ hin)]
    unfold backendAfter
    rw [List.foldl_append]
    cases event with
    | connected backend => exact absurd List.mem_cons_self (hnone backend)
    | _ => rfl

/-! ## Keys that pages have supplied -/

/-- What pages are asked for with: the generation, the collection, the query, and how many documents
a page holds. -/
structure Asking where
  generation : Nat
  collection : Option String
  config : QueryConfig
  pageSize : Int

/-- The same is asked for later, apart from filters that were made anew. -/
structure Asking.Lasts (a b : Asking) : Prop where
  generation : b.generation = a.generation
  collection : b.collection = a.collection
  config : a.config.RetypedTo b.config
  pageSize : b.pageSize = a.pageSize

/-- The last row of a page that was fetched, or kept and recalled, has a key; and the page was one of
what is asked for. -/
inductive Supplies (journal : List LoadEvent) (a : Asking) (key : RowKey) : Prop where
  | fetched {sent : Sent} {load : Load} {plan : PagePlan} {rows : List Value}
      (mem : .fetched sent load plan rows ∈ journal) (ends : EndsWith rows key)
      (lasts : Asking.Lasts ⟨load.generation, some load.collection, plan.config, a.pageSize⟩ a)
      (compiled : plan.Compiled a.pageSize)
  | recalled {load : Load} {config : QueryConfig} {move : PageMove} {page : CachedPage}
      (mem : .recalled load config move page ∈ journal)
      (ends : EndsWith (page.rows.map .object) key)
      (lasts : Asking.Lasts ⟨load.generation, some load.collection, config, a.pageSize⟩ a)
      (fingerprint : ∃ connection, page.fingerprint =
        Cache.fingerprint connection load.collection config move.page a.pageSize)

theorem Asking.Lasts.trans {a b c : Asking} (hab : a.Lasts b) (hbc : b.Lasts c) : a.Lasts c where
  generation := hbc.generation.trans hab.generation
  collection := hbc.collection.trans hab.collection
  config := Relation.ReflTransGen.trans hab.config hbc.config
  pageSize := hbc.pageSize.trans hab.pageSize

namespace Supplies

variable {journal : List LoadEvent} {a b : Asking} {key : RowKey}

/-- A key that was supplied is one for what is asked later. -/
theorem lasting (h : Supplies journal a key) (hlasts : a.Lasts b) : Supplies journal b key := by
  have hsize := hlasts.pageSize
  cases h with
  | fetched mem ends lasts compiled =>
    refine .fetched mem ends ?_ (hsize ▸ compiled)
    rw [hsize]
    exact lasts.trans hlasts
  | recalled mem ends lasts fingerprint =>
    refine .recalled mem ends ?_ (hsize ▸ fingerprint)
    rw [hsize]
    exact lasts.trans hlasts

theorem append (h : Supplies journal a key) (events : List LoadEvent) :
    Supplies (journal ++ events) a key := by
  cases h with
  | fetched mem ends lasts compiled => exact .fetched (List.mem_append_left _ mem) ends lasts compiled
  | recalled mem ends lasts fingerprint =>
    exact .recalled (List.mem_append_left _ mem) ends lasts fingerprint

end Supplies

/-- The key of a plan was supplied for what the plan asks for. -/
def PagePlan.Keyed (plan : PagePlan) (journal : List LoadEvent) (load : Load) : Prop :=
  ∀ key, plan.move.cursor = some key → ∃ pageSize, plan.Compiled pageSize ∧
    Supplies journal ⟨load.generation, some load.collection, plan.config, pageSize⟩ key

theorem PagePlan.Keyed.append {plan : PagePlan} {journal : List LoadEvent} {load : Load}
    (h : plan.Keyed journal load) (events : List LoadEvent) : plan.Keyed (journal ++ events) load := by
  intro key hkey
  obtain ⟨pageSize, hcompiled, hsupplies⟩ := h key hkey
  exact ⟨pageSize, hcompiled, hsupplies.append events⟩

/-- The pages of a plan have one size. -/
theorem PagePlan.Compiled.unique {plan : PagePlan} {m n : Int} (hm : plan.Compiled m)
    (hn : plan.Compiled n) : m = n := by
  obtain ⟨_, hm⟩ := hm
  obtain ⟨_, hn⟩ := hn
  exact Option.some.inj ((Query.requests hm).topK.symm.trans (Query.requests hn).topK)

/-- A page is asked for of the backend that is used, and its key was supplied. -/
def AskedWell (used : Option Nat) (before : List LoadEvent) (event : LoadEvent) : Prop :=
  ∀ sent load plan, event = .asked sent load plan →
    backendAfter used before = some sent.backend ∧ plan.Keyed before load

/-- A walk remembers a key. -/
def Paging.Holds (p : Paging) (key : RowKey) : Prop := p.next = some key ∨ key ∈ p.previous

/-- A walk that starts over remembers none. -/
theorem Paging.not_holds {p : Paging} {key : RowKey} (next : p.next = none) (previous : p.previous = []) :
    ¬ p.Holds key := by
  unfold Holds
  simp [next, previous]

/-- A walk goes on behind keys that it remembers. -/
theorem Paging.holds_plan {p : Paging} {target : Int} {key : RowKey}
    (h : (p.plan target).cursor = some key) : p.Holds key := by
  have hentry : ∀ page, p.entryCursor page = some key → p.Holds key := by
    intro page hpage
    unfold entryCursor at hpage
    split at hpage
    · cases hpage
    · exact Or.inr (List.mem_of_getElem? hpage)
  unfold plan at h
  dsimp only at h
  split at h
  · cases h
  · split at h
    · exact hentry _ h
    · split at h
      · split at h
        · exact hentry _ h
        · rename_i next hnext
          cases h
          exact Or.inl hnext
      · split at h
        · cases h
        · rename_i entry hfound
          cases h
          exact hentry _ hfound

namespace Session

variable {R : Realm} {m n : Moment} {s t : Session} {load : Load} {stage : Stage} {used : Option Nat}

/-! ## Every key was supplied -/

/-- What a browser asks for. -/
def asking (b : Browser) : Asking := ⟨b.generation, b.current?, b.config, b.paging.pageSize⟩

theorem Onward.lasts {b c : Browser} (hon : Onward b c) (hsame : c.generation = b.generation) :
    (asking b).Lasts (asking c) := by
  obtain ⟨hcurrent, hconfig, hpageSize⟩ := hon.query hsame
  exact ⟨hsame, hcurrent, hconfig, hpageSize⟩

/-- What holds at every moment: keys that are remembered, and those of plans, were supplied; and the
journal tells that all pages were asked for with such keys. -/
structure Sourced (used : Option Nat) (m : Moment) : Prop where
  executor : backendAfter used m.session.journal = m.session.browser.executor
  paging : ∀ key, m.session.browser.paging.Holds key →
    Supplies m.session.journal (asking m.session.browser) key
  works : ∀ load stage, (load, stage) ∈ m.works → ∀ plan, stage.plan? = some plan →
    plan.Keyed m.session.journal load
  asked : Throughout (AskedWell used) m.session.journal

/-- Another backend is used only when one is connected. -/
theorem Move.executor (hmove : Move R m n) :
    n.session.browser.executor = m.session.browser.executor ∨
      ∃ backend, n.session.browser.executor = some backend ∧
        n.session.journal = m.session.journal ++ [.connected backend] := by
  cases hmove with
  | calm like | refuse like | giveUp like | settle like => exact Or.inl like.browser.executor
  | bump s renewed => exact Or.inl renewed.executor
  | postpone wide s | cancel wide s => exact Or.inl (congrArg Browser.executor (cancelRun_browser s))
  | ask request =>
    cases request
    exact Or.inl rfl
  | @display load plan sent view s generation =>
    obtain ⟨cache, hbrowser, -⟩ := showFetched_browser s load plan view
    exact Or.inl ((congrArg Browser.executor hbrowser).trans rfl)
  | showAgain recalled commit =>
    rw [showKept_committed commit]
    exact Or.inl rfl
  | connect wide s connection backend =>
    obtain ⟨cache, unfiltered, hbrowser, -⟩ := useBackend_browser s connection backend
    exact Or.inr ⟨backend, congrArg Browser.executor hbrowser, rfl⟩
  | select s collection =>
    obtain ⟨history, hbrowser⟩ := selectCollection_browser s collection
    refine Or.inl ?_
    dsimp only
    rw [hbrowser, cancelRun_browser]
    rfl
  | _ => exact Or.inl rfl

theorem Sourced.executor_move (hmove : Move R m n) (hm : Sourced used m) :
    backendAfter used n.session.journal = n.session.browser.executor := by
  rcases hmove.executor with hsame | ⟨backend, hexecutor, hjournal⟩
  · obtain ⟨events, hjournal, hwrites⟩ := hmove.writes
    rw [hjournal]
    have hkept : (∀ backend, .connected backend ∉ events) →
        backendAfter used (m.session.journal ++ events) = n.session.browser.executor :=
      fun hnone => (backendAfter_append used _ hnone).trans (hm.executor.trans hsame.symm)
    cases hwrites with
    | loads topic => exact hkept fun backend hmem => by cases topic _ hmem
    | renewing generation topic =>
      exact hkept fun backend hmem => by rcases topic _ hmem with h | h <;> cases h
    | connected executor =>
      rw [executor]
      unfold backendAfter
      rw [List.foldl_append]
      rfl
    | asked | fetched | shown | recalled => exact hkept (by simp)
  · rw [hjournal, hexecutor]
    unfold backendAfter
    rw [List.foldl_append]
    rfl

/-- A walk that stays remembers what it did. -/
theorem Sourced.paging_kept (hmove : Move R m n) (hm : Sourced used m)
    (generation : n.session.browser.generation = m.session.browser.generation)
    (paging : n.session.browser.paging = m.session.browser.paging) {key : RowKey}
    (hkey : n.session.browser.paging.Holds key) :
    Supplies n.session.journal (asking n.session.browser) key := by
  obtain ⟨events, hjournal, -⟩ := hmove.writes
  rw [hjournal]
  rw [paging] at hkey
  exact ((hm.paging key hkey).append events).lasting (hmove.onward.lasts generation)

/-- A load that is up to date asks for what the browser does. -/
theorem Fits.lasts (hfits : Fits s load stage) (generation : s.browser.generation = load.generation)
    {config : QueryConfig} (hconfig : config.RetypedTo s.browser.config) :
    Asking.Lasts ⟨load.generation, some load.collection, config, s.browser.paging.pageSize⟩
      (asking s.browser) :=
  ⟨generation, (hfits.upToDate generation.symm).current, hconfig, rfl⟩

theorem Sourced.paging_move (hmove : Move R m n) (ht : Timely m) (hm : Sourced used m) :
    ∀ key, n.session.browser.paging.Holds key →
      Supplies n.session.journal (asking n.session.browser) key := by
  intro key hkey
  have hkept := hm.paging_kept hmove
  have hon := hmove.onward
  cases hmove with
  | calm like | refuse like | giveUp like | settle like =>
    exact hkept like.browser.generation like.browser.paging hkey
  | bump s renewed => exact absurd hkey (Paging.not_holds renewed.next renewed.previous)
  | postpone wide s | cancel wide s =>
    have hsame := cancelRun_browser s
    exact hkept (congrArg Browser.generation hsame) (congrArg Browser.paging hsame) hkey
  | ask request =>
    cases request
    exact hkept rfl rfl hkey
  | @turn load plan sent rows paging s generation commit =>
    have hcommits := Paging.commits commit
    have hfits := ht _ _ mem_works_loading
    obtain ⟨hconfig, hcompiled⟩ := hfits.plan generation.symm plan rfl
    have hlasts := hfits.lasts generation hconfig
    refine Supplies.lasting (a := asking s.browser) ?_ (hon.lasts rfl)
    rcases hkey with hnext | hprevious
    · exact .fetched (List.mem_append_right _ List.mem_cons_self) (hcommits.next key hnext) hlasts
        hcompiled
    · refine Supplies.append ?_ _
      rcases hcommits.previous key hprevious with hold | hcursor
      · exact hm.paging key (Or.inr hold)
      · obtain ⟨pageSize, hsize, hsupplies⟩ := hm.works _ _ mem_works_loading plan rfl key hcursor
        rw [hsize.unique hcompiled] at hsupplies
        exact hsupplies.lasting hlasts
  | @display load plan sent view s generation =>
    obtain ⟨cache, hbrowser, -⟩ := showFetched_browser s load plan view
    exact hkept ((congrArg Browser.generation hbrowser).trans rfl)
      ((congrArg Browser.paging hbrowser).trans rfl) hkey
  | @showAgain load step kept paging s recalled commit =>
    have hcommits := Paging.commits commit
    have hfits := ht _ _ mem_works_loading
    have hlasts := hfits.lasts recalled.generation (.refl _)
    obtain ⟨target, hstep⟩ := recalled.move
    rw [showKept_committed commit] at hkey hon ⊢
    refine Supplies.lasting (a := asking s.browser) ?_ (hon.lasts rfl)
    rcases hkey with hnext | hprevious
    · refine .recalled ?_ (hcommits.next key hnext) hlasts ⟨_, recalled.fingerprint⟩
      exact List.mem_append_left _ (List.mem_append_right _ List.mem_cons_self)
    · refine Supplies.append (Supplies.append ?_ _) _
      rcases hcommits.previous key hprevious with hold | hcursor
      · exact hm.paging key (Or.inr hold)
      · exact hm.paging key (Paging.holds_plan (hstep ▸ hcursor))
  | connect wide s connection backend =>
    obtain ⟨cache, unfiltered, hbrowser, -⟩ := useBackend_browser s connection backend
    exact hkept ((congrArg Browser.generation hbrowser).trans rfl)
      ((congrArg Browser.paging hbrowser).trans rfl) hkey
  | select s collection =>
    obtain ⟨history, hbrowser⟩ := selectCollection_browser s collection
    dsimp only at hkey
    rw [hbrowser] at hkey
    exact absurd hkey (Paging.not_holds rfl rfl)
  | _ => exact hkept rfl rfl hkey

theorem Sourced.works_move (hmove : Move R m n) (ht : Timely m) (hm : Sourced used m) :
    ∀ load stage, (load, stage) ∈ n.works → ∀ plan, stage.plan? = some plan →
      plan.Keyed n.session.journal load := by
  intro load stage hmem plan hplan
  obtain ⟨events, hjournal, -⟩ := hmove.writes
  rw [hjournal]
  refine PagePlan.Keyed.append ?_ events
  rcases (hmove.gotThere hmem).plan? with rfl | ⟨_, rfl, hbegun, -, planned⟩ |
    ⟨earlier, hearlier, hsame⟩
  · cases hplan
  · cases hplan
    intro _ hkey
    obtain ⟨page, hmove⟩ := planned.move
    have hsupplies := hm.paging _ (Paging.holds_plan (hmove ▸ hkey))
    have hcurrent := ((ht _ _ hbegun).upToDate planned.generation.symm).current
    refine ⟨_, planned.compiled, ?_⟩
    rw [planned.config, ← planned.generation, ← hcurrent]
    exact hsupplies
  · exact hm.works load earlier hearlier plan (hsame.trans hplan)

theorem Sourced.asked_move (hmove : Move R m n) (ht : Timely m) (hm : Sourced used m) :
    Throughout (AskedWell used) n.session.journal := by
  obtain ⟨events, hjournal, hwrites⟩ := hmove.writes
  rw [hjournal]
  have hother : (∀ event ∈ events, ∀ sent load plan, event ≠ .asked sent load plan) →
      Throughout (AskedWell used) (m.session.journal ++ events) := fun hnone =>
    hm.asked.append fun event hmem _ sent load plan hasked =>
      absurd hasked (hnone event hmem sent load plan)
  cases hwrites with
  | loads topic =>
    refine hother fun event hmem sent load plan hasked => ?_
    have htopic := topic event hmem
    rw [hasked] at htopic
    cases htopic
  | renewing generation topic =>
    refine hother fun event hmem sent load plan hasked => ?_
    have htopic := topic event hmem
    rw [hasked] at htopic
    rcases htopic with h | h <;> cases h
  | connected | fetched | shown => exact hother (List.forall_mem_singleton.mpr (by simp))
  | recalled => exact hother (by simp)
  | @asked load plan sent mem request =>
    refine hm.asked.note fun sent' load' plan' hasked => ?_
    cases hasked
    refine ⟨?_, hm.works _ _ mem plan rfl⟩
    obtain ⟨backend, hbackend⟩ := Option.isSome_iff_exists.mp (ht _ _ mem).executor
    rw [hm.executor, ← request, hbackend]
    change some backend = some (m.session.browser.executor.getD 0)
    rw [hbackend]
    rfl

/-- Every move keeps it so. -/
theorem Sourced.move (hmove : Move R m n) (ht : Timely m) (hm : Sourced used m) : Sourced used n where
  executor := hm.executor_move hmove
  paging := hm.paging_move hmove ht
  works := hm.works_move hmove ht
  asked := hm.asked_move hmove ht

/-- So does every way. -/
theorem Sourced.leads (hpath : ReflTransGen (Move R) m n) (ht : Timely m) (hm : Sourced used m) :
    Sourced used n :=
  Leads.keeps_beside (fun hmove => Timely.move hmove) (fun hmove ht hm => hm.move hmove ht) hpath ht hm

theorem sourced_start (browser : Browser) (backends : List Backend) (provider : Option Provider)
    (next : browser.paging.next = none) (previous : browser.paging.previous = []) :
    Sourced browser.executor ⟨.free, .start browser backends provider⟩ where
  executor := rfl
  paging := fun _ hkey => absurd hkey (Paging.not_holds next previous)
  works := fun _ _ hmem => absurd hmem List.not_mem_nil
  asked := .nil

end Session

/-! ## What is asked for again -/

/-- The page that an event asks for. -/
def LoadEvent.plan? : LoadEvent → Option PagePlan
  | asked _ _ plan => some plan
  | _ => none

/-- The key behind which a page is asked for; the first page is asked for from the start. -/
def PagePlan.start? (plan : PagePlan) : Option RowKey :=
  if plan.move.page > 1 then plan.move.cursor else none

/-- A request asks for a page as it was planned. -/
structure Sent.AsksFor (sent : Sent) (load : Load) (plan : PagePlan) : Prop where
  collection : sent.collection = load.collection
  request : sent.request = plan.request.toFields
  filters : plan.request.filters = Query.withCursor (Query.compileFilters plan.config) plan.start?

theorem Sent.asksFor {before : List LoadEvent} {sent : Sent} {load : Load} {plan : PagePlan}
    (h : Grounded before (.asked sent load plan)) : sent.AsksFor load plan := by
  obtain ⟨hcollection, hrequest, _, _, ⟨_, hcompiled⟩, -⟩ := h
  exact ⟨hcollection, hrequest, (Query.requests hcompiled).filters⟩

/-- A page is asked for as another one was before, apart from where it starts and from filters that
were made anew. -/
structure PagePlan.AsksAgain (first plan : PagePlan) : Prop where
  topK : plan.request.topK = first.request.topK
  config : first.config.RetypedTo plan.config
  filters : (∀ p ∈ first.config.predicates, p.typeAssumed = false) →
    Query.compileFilters plan.config = Query.compileFilters first.config
  rankBy : (∀ r s, Query.compileRank first.config r = Query.compileRank first.config s) →
    plan.request.rankBy = first.request.rankBy

/-- Queries whose attributes were known stay as they are. -/
theorem QueryConfig.RetypedTo.eq_of_known {c d : QueryConfig} (h : c.RetypedTo d)
    (hknown : ∀ p ∈ c.predicates, p.typeAssumed = false) : d = c := by
  induction h with
  | refl => rfl
  | @tail b d _ hretypes ih =>
    subst ih
    obtain ⟨registry, rfl⟩ := hretypes
    have hsame : b.predicates.map (·.retype registry) = b.predicates := by
      conv => rhs; rw [← List.map_id b.predicates]
      exact List.map_congr_left fun p hp => Predicate.retype_of_known (hknown p hp) registry
    rw [hsame]

/-- No ranking depends on filters. -/
theorem QueryConfig.RetypedTo.compileRank_eq {c d : QueryConfig} (h : c.RetypedTo d)
    (registry : Registry) : d.aggregates = c.aggregates ∧
      Query.compileRank d registry = Query.compileRank c registry := by
  induction h with
  | refl => exact ⟨rfl, rfl⟩
  | tail _ hretypes ih =>
    obtain ⟨other, rfl⟩ := hretypes
    exact ih

theorem PagePlan.AsksAgain.of_compiled {first plan : PagePlan} {pageSize : Int}
    (hfirst : first.Compiled pageSize) (hplan : plan.Compiled pageSize)
    (hconfig : first.config.RetypedTo plan.config) : first.AsksAgain plan := by
  obtain ⟨r, hfirst⟩ := hfirst
  obtain ⟨s, hplan⟩ := hplan
  obtain ⟨-, htopK, hrank⟩ := Query.requests hfirst
  obtain ⟨-, htopK', hrank'⟩ := Query.requests hplan
  obtain ⟨haggregates, hcompile⟩ := hconfig.compileRank_eq s
  refine ⟨htopK'.trans htopK.symm, hconfig, fun hknown => ?_, fun hfixed => ?_⟩
  · rw [hconfig.eq_of_known hknown]
  · rw [haggregates, hcompile] at hrank'
    split at hrank
    · rename_i hsome
      rw [if_pos hsome] at hrank'
      rw [hrank, hrank']
    · rename_i hnone
      rw [if_neg hnone] at hrank'
      exact Except.ok.inj (hrank'.symm.trans ((hfixed s r).trans hrank))

/-- The rows behind which a page is asked for are those of a page of its query: that was asked for
when this was the query, or was kept under the fingerprint of it; always apart from filters that were
made anew. -/
inductive PageOfQuery (later : List LoadEvent) (first : Sent) (firstPlan : PagePlan)
    (rows : List Value) (sent : Sent) (plan : PagePlan) : Prop where
  | asked (collection : sent.collection = first.collection) (again : firstPlan.AsksAgain plan)
  | kept {load : Load} {found : QueryConfig} {move : PageMove} {page : CachedPage}
      (recalled : .recalled load found move page ∈ later) (same : rows = page.rows.map .object)
      (config : found.RetypedTo plan.config)
      (fingerprint : ∃ connection pageSize, plan.Compiled pageSize ∧ firstPlan.fingerprint =
        Cache.fingerprint connection sent.collection found move.page pageSize)

/-- The page whose last row has supplied a key was asked for before. -/
theorem Supplies.page {before : List LoadEvent} (hgrounded : Throughout Grounded before) {sent : Sent}
    {load : Load} {plan : PagePlan} {pageSize : Int} {key : RowKey}
    (hcollection : sent.collection = load.collection) (hcompiled : plan.Compiled pageSize)
    (h : Supplies before ⟨load.generation, some load.collection, plan.config, pageSize⟩ key) :
    ∃ earlier first firstLoad firstPlan rows later,
      before = earlier ++ .asked first firstLoad firstPlan :: later ∧
      .fetched first firstLoad firstPlan rows ∈ later ∧ EndsWith rows key ∧
      PageOfQuery later first firstPlan rows sent plan := by
  cases h with
  | @fetched first firstLoad firstPlan rows mem ends lasts compiled =>
    obtain ⟨earlier, later, rfl, hlater⟩ := asked_of_fetched hgrounded mem
    obtain ⟨hfirst, -⟩ := hgrounded earlier _ later rfl
    have hsame : load.collection = firstLoad.collection := Option.some.inj lasts.collection
    refine ⟨earlier, first, firstLoad, firstPlan, rows, later, rfl, hlater, ends, .asked ?_ ?_⟩
    · rw [hcollection, hsame, hfirst]
    · exact .of_compiled compiled hcompiled lasts.config
  | @recalled recalledLoad found move page mem ends lasts fingerprint =>
    obtain ⟨front, back, rfl, -, first, firstLoad, firstPlan, hprint, hfetched⟩ :=
      hgrounded.of_mem mem
    have hfront : Throughout Grounded front := hgrounded.earlier
    obtain ⟨earlier, later, rfl, hlater⟩ := asked_of_fetched hfront hfetched
    obtain ⟨connection, hkept⟩ := fingerprint
    have hsame : load.collection = recalledLoad.collection := Option.some.inj lasts.collection
    refine ⟨earlier, first, firstLoad, firstPlan, _,
      later ++ .recalled recalledLoad found move page :: back, by simp,
      List.mem_append_left _ hlater, ends, ?_⟩
    refine .kept (List.mem_append_right _ List.mem_cons_self) rfl lasts.config
      ⟨connection, pageSize, hcompiled, ?_⟩
    rw [hprint, hkept, hcollection, hsame]

/-- The pages that were asked for. -/
def plansAsked (journal : List LoadEvent) : List PagePlan := journal.filterMap LoadEvent.plan?

theorem plansAsked_append (before after : List LoadEvent) :
    plansAsked (before ++ after) = plansAsked before ++ plansAsked after := List.filterMap_append

/-- The first page that was asked for, and what was noted after it. -/
theorem plansAsked_eq_cons {journal : List LoadEvent} {plan : PagePlan} {rest : List PagePlan}
    (h : plansAsked journal = plan :: rest) : ∃ before sent load after,
      journal = before ++ .asked sent load plan :: after ∧ plansAsked before = [] ∧
      plansAsked after = rest := by
  obtain ⟨before, event, after, rfl, hnone, hplan, hrest⟩ := List.filterMap_eq_cons_iff.mp h
  have hbefore : plansAsked before = [] := List.filterMap_eq_nil_iff.mpr hnone
  cases event with
  | asked sent load other =>
    cases hplan
    exact ⟨before, sent, load, after, rfl, hbefore, hrest⟩
  | _ => cases hplan

theorem mem_plansAsked {journal : List LoadEvent} {sent : Sent} {load : Load} {plan : PagePlan}
    (h : .asked sent load plan ∈ journal) : plan ∈ plansAsked journal :=
  List.mem_filterMap.mpr ⟨_, h, rfl⟩

/-- Every key behind which a page was asked for was supplied by a page with the same filters. -/
def KeysKeepFilters : List LoadEvent → Prop :=
  Throughout fun before event => ∀ sent load plan, event = .asked sent load plan →
    ∀ key, plan.start? = some key → ∃ first firstLoad firstPlan rows,
      .fetched first firstLoad firstPlan rows ∈ before ∧ EndsWith rows key ∧
      Query.compileFilters plan.config = Query.compileFilters firstPlan.config

namespace Session

/-! ## The law -/

/-- A page that is asked for behind a key is asked for behind the last row of a page of its query,
that was asked for before: in the same collection, with the same filters and ranking and as many
documents, apart from filters that were made anew since and rankings that depend on what is known of
attributes; or that page was kept under the fingerprint of its query. If no other backend has been
connected since, both are asked of the same. -/
theorem page_is_asked_for_behind_its_query (settings : Settings)
    (connection collection : Option String) (executor : Option Nat) (archive : Option Archive)
    (backends : List Backend) (provider : Option Provider) (s : Session)
    (hcourse : ReflTransGen (Step fun _ => True)
      (.start (.start settings connection collection executor archive) backends provider) s)
    (before : List LoadEvent) (sent : Sent) (load : Load) (plan : PagePlan) (after : List LoadEvent)
    (hjournal : s.journal = before ++ .asked sent load plan :: after) (key : RowKey)
    (hkey : plan.start? = some key) :
    sent.AsksFor load plan ∧ ∃ earlier first firstLoad firstPlan rows later,
      before = earlier ++ .asked first firstLoad firstPlan :: later ∧
      first.AsksFor firstLoad firstPlan ∧ .fetched first firstLoad firstPlan rows ∈ later ∧
      EndsWith rows key ∧ PageOfQuery later first firstPlan rows sent plan ∧
      ((∀ backend, .connected backend ∉ later) → sent.backend = first.backend) := by
  obtain ⟨hpath, -⟩ := course_leads anyRealm_laws hcourse
    (within_start _ provider fun _ _ => trivial)
  have hgrounded := (Traced.leads hpath (traced_start _ _ _ rfl)).grounded
  have hasked := (Sourced.leads hpath (timely_start _ _ _) (sourced_start _ _ _ rfl rfl)).asked
  have hsent := Sent.asksFor (hgrounded before _ after hjournal)
  have hcursor : plan.move.cursor = some key := by
    unfold PagePlan.start? at hkey
    split at hkey
    · exact hkey
    · cases hkey
  obtain ⟨hbackend, hkeyed⟩ := hasked before _ after hjournal sent load plan rfl
  obtain ⟨pageSize, hcompiled, hsupplies⟩ := hkeyed key hcursor
  dsimp only at hjournal hgrounded hasked
  rw [hjournal] at hgrounded hasked
  obtain ⟨earlier, first, firstLoad, firstPlan, rows, later, rfl, hfetched, hends, hpage⟩ :=
    hsupplies.page hgrounded.earlier hsent.collection hcompiled
  have hfirst := Sent.asksFor (hgrounded.earlier earlier _ later rfl)
  refine ⟨hsent, earlier, first, firstLoad, firstPlan, rows, later, rfl, hfirst, hfetched, hends,
    hpage, fun hnone => ?_⟩
  obtain ⟨hfirstBackend, -⟩ := hasked.earlier earlier _ later rfl first firstLoad firstPlan rfl
  have hsince : ∀ backend, .connected backend ∉ .asked first firstLoad firstPlan :: later := by
    simpa using hnone
  have hunchanged := backendAfter_append executor earlier hsince
  exact Option.some.inj (hbackend.symm.trans (hunchanged.trans hfirstBackend))

/-! ## A key of another filter -/

/-- A browser of lists of tags in one store that shows no schemas; a page holds one document. -/
def taggedDocuments : Session :=
  .start (.start { Settings.default with pageSize := 1 } (some "main") (some "docs") (some 0) none)
    [.ofSource (.store ⟨[("docs", [
      ⟨.int 1, [("id", .int 1), ("tags", .texts ["b"])]⟩,
      ⟨.int 2, [("id", .int 2), ("tags", .texts ["a"])]⟩,
      ⟨.int 3, [("id", .int 3), ("tags", .texts ["c"])]⟩])], []⟩ false)] none

/-- Documents are asked for without a tag before it is known that tags are lists; and when it is
known the second page is asked for. -/
def retypedTags : Session :=
  [.dispatch (.object [("kind", .text "add_filter"), ("attribute", .text "tags"),
      ("operator", .text "not_equals"), ("value", .text "a")]),
    .dispatch (.object [("kind", .text "go_to_page"), ("page", .int 2)])].foldl
    (fun s command => s.ask 1 command) taggedDocuments

theorem retypedTags_course : ReflTransGen (Step fun _ => True) taggedDocuments retypedTags :=
  course_foldl_ask (fun _ _ => trivial) taggedDocuments

theorem retypedTags_plans :
    (plansAsked retypedTags.journal).map
      (fun plan => (plan.start?, Json.canonical (Query.compileFilters plan.config))) =
    [(none, "[\"tags\",\"NotEq\",\"a\"]"),
      (some (.int 1), "[\"Not\",[\"tags\",\"ContainsAny\",\"a\"]]")] := by
  decide +kernel

/-- Two pages were asked for; the second one behind the first document, and with another filter. -/
theorem retypedTags_journal : ∃ before sent load plan after firstPlan,
    retypedTags.journal = before ++ .asked sent load plan :: after ∧
      plan.start? = some (.int 1) ∧ plansAsked before = [firstPlan] ∧
      Query.compileFilters plan.config ≠ Query.compileFilters firstPlan.config := by
  obtain ⟨firstPlan, others, hplans, hfirst, hothers⟩ := List.map_eq_cons_iff.mp retypedTags_plans
  obtain ⟨plan, rfl, hplan⟩ := List.map_eq_singleton_iff.mp hothers
  obtain ⟨front, first, firstLoad, between, hjournal, hfront, hbetween⟩ := plansAsked_eq_cons hplans
  obtain ⟨middle, sent, load, after, rfl, hmiddle, -⟩ := plansAsked_eq_cons hbetween
  refine ⟨front ++ .asked first firstLoad firstPlan :: middle, sent, load, plan, after, firstPlan, ?_,
    congrArg Prod.fst hplan, ?_, fun hsame => ?_⟩
  · rw [hjournal, List.append_assoc, List.cons_append]
  · rw [plansAsked_append, hfront]
    change firstPlan :: plansAsked middle = [firstPlan]
    rw [hmiddle]
  · obtain ⟨-, hfirstText⟩ := Prod.mk.inj hfirst
    obtain ⟨-, htext⟩ := Prod.mk.inj hplan
    rw [hsame, hfirstText] at htext
    exact absurd htext (by decide)

/-- The second page is asked for behind a key that only a page of another filter has supplied. -/
theorem key_meets_another_filter :
    ReflTransGen (Step fun _ => True) taggedDocuments retypedTags ∧
      ¬ KeysKeepFilters retypedTags.journal := by
  refine ⟨retypedTags_course, fun hkeep => ?_⟩
  obtain ⟨before, sent, load, plan, after, only, hjournal, hkey, honly, hother⟩ := retypedTags_journal
  obtain ⟨first, firstLoad, firstPlan, rows, hfetched, -, hsame⟩ :=
    hkeep before _ after hjournal sent load plan rfl _ hkey
  obtain ⟨hpath, -⟩ := course_leads anyRealm_laws retypedTags_course
    (within_start _ none fun _ _ => trivial)
  have hgrounded := (Traced.leads hpath (traced_start _ _ _ rfl)).grounded
  dsimp only at hgrounded
  rw [hjournal] at hgrounded
  obtain ⟨earlier, later, rfl, -⟩ := asked_of_fetched hgrounded.earlier hfetched
  have hmem : firstPlan ∈ [only] := honly ▸
    mem_plansAsked (List.mem_append_right earlier List.mem_cons_self)
  rw [List.mem_singleton.mp hmem] at hsame
  exact hother hsame

/-- It is asked for as it was planned, behind the last row of a page that was asked for before. -/
theorem retyped_page_is_asked_for_behind_a_page : ∃ before sent load plan after,
    retypedTags.journal = before ++ .asked sent load plan :: after ∧ plan.start? = some (.int 1) ∧
      sent.AsksFor load plan ∧ ∃ first firstLoad firstPlan rows,
        .fetched first firstLoad firstPlan rows ∈ before ∧ EndsWith rows (.int 1) ∧
        first.AsksFor firstLoad firstPlan := by
  obtain ⟨before, sent, load, plan, after, -, hjournal, hkey, -, -⟩ := retypedTags_journal
  obtain ⟨hsent, earlier, first, firstLoad, firstPlan, rows, later, hbefore, hfirst, hfetched, hends,
    -, -⟩ := page_is_asked_for_behind_its_query { Settings.default with pageSize := 1 } (some "main")
      (some "docs") (some 0) none taggedDocuments.backends none retypedTags retypedTags_course before
      sent load plan after hjournal (.int 1) hkey
  refine ⟨before, sent, load, plan, after, hjournal, hkey, hsent, first, firstLoad, firstPlan, rows,
    ?_, hends, hfirst⟩
  rw [hbefore]
  exact List.mem_append_right _ (List.mem_cons_of_mem _ hfetched)

end Session

end Folio
