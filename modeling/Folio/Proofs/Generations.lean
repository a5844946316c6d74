-- Loads and the queries that they are for. Every change of the query begins a generation; within
-- one the query stays, but for filters that are made anew. A load is for the query of its
-- generation, so what it shows and asks for is up to date just as long as that has not passed.
import Folio.Proofs.Adrift

open Relation (ReflTransGen)

namespace Folio

/-- What an event is about. -/
inductive Topic where
  | load
  /-- What was loaded before is out of date. -/
  | renewal
  | page
  | backend
  deriving DecidableEq

namespace LoadEvent

def topic : LoadEvent → Topic
  | renewed | selected _ => .renewal
  | asked .. | fetched .. | recalled .. | shown _ => .page
  | connected _ => .backend
  | _ => .load

/-- Whether what was loaded before an event is out of date after it. -/
def renews (event : LoadEvent) : Bool := event.topic == .renewal

end LoadEvent

/-- A load has begun, and nothing that was loaded since is out of date. -/
def BegunSince (load : Load) (journal : List LoadEvent) : Prop :=
  ∃ before after, journal = before ++ .begun load :: after ∧ ∀ event ∈ after, event.renews = false

theorem BegunSince.append {load : Load} {journal events : List LoadEvent}
    (h : BegunSince load journal) (hevents : ∀ event ∈ events, event.renews = false) :
    BegunSince load (journal ++ events) := by
  obtain ⟨before, after, rfl, hafter⟩ := h
  refine ⟨before, after ++ events, by simp, fun event hmem => ?_⟩
  rcases List.mem_append.mp hmem with hin | hin
  · exact hafter event hin
  · exact hevents event hin

/-! ## What a walk remembers -/

/-- The last of some rows has a key. -/
def EndsWith (rows : List Value) (key : RowKey) : Prop :=
  ∃ fields, rows.getLast? = some (.object fields) ∧
    Reader.nullable RowKey.read (Fields.get fields "id") = .sound (some key)

/-- What a walk remembers when a page has been fetched. -/
structure Paging.Commits (p : Paging) (move : PageMove) (rows : List Value) (q : Paging) : Prop where
  pageSize : q.pageSize = p.pageSize
  next : ∀ key, q.next = some key → EndsWith rows key
  previous : ∀ key ∈ q.previous, key ∈ p.previous ∨ move.cursor = some key

theorem Checked.within_sound {α : Type} {c : Checked α} {field : String} {a : α}
    (h : c.within field = .sound a) : c = .sound a := by
  cases c with
  | sound b => exact h
  | flawed flaws => cases h

theorem Paging.entered_sound {p : Paging} {move : PageMove} {keys : List RowKey}
    (h : p.entered move = .sound keys) : ∀ key ∈ keys, key ∈ p.previous ∨ move.cursor = some key := by
  unfold entered at h
  split at h
  · cases h
    exact fun key hkey => absurd hkey List.not_mem_nil
  · split at h
    · rename_i last hlast
      cases h
      intro key hkey
      rcases List.mem_append.mp hkey with hin | hin
      · exact Or.inl (List.mem_of_mem_take hin)
      · exact Or.inr (List.mem_singleton.mp hin ▸ hlast)
    · cases h

theorem Paging.commits {p q : Paging} {move : PageMove} {rows : List Value}
    (h : p.commit move rows = .ok q) : p.Commits move rows q := by
  have hread : ∀ last, Checked.orFault (mk move.page p.pageSize <$>
      (Reader.nullable RowKey.read last).within "next_cursor" <*> p.entered move) = .ok q →
      ∃ next keys, Reader.nullable RowKey.read last = .sound next ∧ p.entered move = .sound keys ∧
        q = ⟨move.page, p.pageSize, next, keys⟩ := by
    intro last hlast
    cases hc : mk move.page p.pageSize <$>
      (Reader.nullable RowKey.read last).within "next_cursor" <*> p.entered move with
    | flawed flaws =>
      rw [hc] at hlast
      cases hlast
    | sound found =>
      rw [hc] at hlast
      cases hlast
      obtain ⟨g, keys, hg, hkeys, rfl⟩ := Session.seq_sound hc
      cases hn : (Reader.nullable RowKey.read last).within "next_cursor" with
      | flawed flaws =>
        rw [hn] at hg
        cases hg
      | sound next =>
        rw [hn] at hg
        cases hg
        exact ⟨next, keys, Checked.within_sound hn, hkeys, rfl⟩
  unfold commit at h
  cases hl : rows.getLast? with
  | none =>
    rw [hl] at h
    obtain ⟨next, keys, hnext, hkeys, rfl⟩ := hread _ h
    cases hnext
    exact ⟨rfl, fun key hkey => (by cases hkey), entered_sound hkeys⟩
  | some row =>
    rw [hl] at h
    cases row with
    | object fields =>
      obtain ⟨next, keys, hnext, hkeys, rfl⟩ := hread _ h
      refine ⟨rfl, fun key hkey => ⟨fields, hl, ?_⟩, entered_sound hkeys⟩
      rw [hnext]
      exact congrArg Checked.sound hkey
    | _ => cases h

/-! ## What a page is asked for with -/

/-- What stands in the request for a page. -/
structure Query.Requests (c : QueryConfig) (page : PageRequest) (registry : Registry)
    (request : Request) : Prop where
  filters : request.filters = withCursor (compileFilters c) (if page.page > 1 then page.cursor else none)
  topK : request.topK = some page.pageSize
  rankBy : if c.aggregates then request.rankBy = .null
    else compileRank c registry = .ok request.rankBy

theorem Query.requests {c : QueryConfig} {page : PageRequest} {registry : Registry}
    {request : Request} (h : compilePage c page registry = .ok request) :
    Requests c page registry request := by
  unfold compilePage at h
  cases haggregates : c.aggregates with
  | true =>
    simp only [haggregates, if_true, pure, Except.pure, Except.ok.injEq] at h
    subst h
    exact ⟨rfl, rfl, by simp [haggregates, Request.empty]⟩
  | false =>
    cases hr : compileRank c registry with
    | error f => simp [haggregates, hr, bind, Except.bind] at h
    | ok ranking =>
      simp only [haggregates, hr, Bool.false_eq_true, if_false, bind, Except.bind, pure,
        Except.pure, Except.ok.injEq] at h
      subst h
      exact ⟨rfl, rfl, by simp [haggregates, hr]⟩

/-- The request of a plan is made for its query, for pages of a size. -/
def PagePlan.Compiled (plan : PagePlan) (pageSize : Int) : Prop :=
  ∃ registry, Query.compilePage plan.config ⟨plan.move.page, pageSize, plan.move.cursor⟩ registry =
    .ok plan.request

namespace Session

variable {R : Realm} {m n : Moment} {h : Hand} {s t : Session} {load : Load} {stage : Stage}

/-! ## Queries that stay -/

/-- The query of a browser is that of another one, but for filters that were made anew. -/
structure KeepsQuery (b c : Browser) : Prop where
  current : c.current? = b.current?
  config : b.config.RetypedTo c.config
  pageSize : c.paging.pageSize = b.paging.pageSize

theorem KeepsQuery.refl (b : Browser) : KeepsQuery b b := ⟨rfl, .refl _, rfl⟩

theorem AlikeBrowsers.keepsQuery {b c : Browser} (like : AlikeBrowsers b c) : KeepsQuery b c :=
  ⟨like.current, like.config, congrArg Paging.pageSize like.paging⟩

/-- What every move leaves: the generations go on, and within one the query stays. -/
structure Onward (b c : Browser) : Prop where
  executor : b.executor.isSome → c.executor.isSome
  generation : b.generation ≤ c.generation
  query : c.generation = b.generation → KeepsQuery b c

theorem Onward.refl (b : Browser) : Onward b b := ⟨id, Nat.le_refl _, fun _ => .refl b⟩

/-- The generation stays. -/
theorem Onward.staying {b c : Browser} (executor : b.executor.isSome → c.executor.isSome)
    (generation : c.generation = b.generation) (query : KeepsQuery b c) : Onward b c :=
  ⟨executor, Nat.le_of_eq generation.symm, fun _ => query⟩

/-- Another generation begins. -/
theorem Onward.renewing {b c : Browser} (executor : b.executor.isSome → c.executor.isSome)
    (generation : c.generation = b.generation + 1) : Onward b c :=
  ⟨executor, by omega, fun hsame => absurd hsame (by omega)⟩

theorem AlikeBrowsers.onward {b c : Browser} (like : AlikeBrowsers b c) : Onward b c :=
  .staying (fun hsome => like.executor.symm ▸ hsome) like.generation like.keepsQuery

theorem cancelRun_browser (s : Session) : s.cancelRun.browser = s.browser := by
  obtain ⟨-, -, -, hbrowser⟩ := cancelRun_drops s
  exact hbrowser

/-- Every move goes onward. -/
theorem Move.onward (hmove : Move R m n) : Onward m.session.browser n.session.browser := by
  cases hmove with
  | calm like | refuse like | giveUp like | settle like => exact like.browser.onward
  | bump s renewed =>
    exact .renewing (fun hsome => renewed.executor.symm ▸ hsome) renewed.generation
  | postpone wide s | cancel wide s =>
    exact (cancelRun_browser s).symm ▸ .refl s.browser
  | ask request =>
    cases request
    exact .refl _
  | turn generation commit =>
    exact .staying id rfl ⟨rfl, .refl _, (Paging.commits commit).pageSize⟩
  | @display load plan sent view s generation =>
    obtain ⟨cache, hbrowser, -⟩ := showFetched_browser s load plan view
    dsimp only
    rw [hbrowser]
    exact .staying id rfl ⟨rfl, .refl _, rfl⟩
  | showAgain recalled commit =>
    rw [showKept_committed commit]
    exact .staying id rfl ⟨rfl, .refl _, (Paging.commits commit).pageSize⟩
  | connect wide s connection backend =>
    obtain ⟨cache, unfiltered, hbrowser, -⟩ := useBackend_browser s connection backend
    dsimp only
    rw [hbrowser]
    exact .staying (fun _ => rfl) rfl ⟨rfl, .refl _, rfl⟩
  | select s collection =>
    obtain ⟨history, hbrowser⟩ := selectCollection_browser s collection
    dsimp only
    rw [hbrowser, cancelRun_browser]
    exact .renewing id rfl
  | _ => exact .staying id rfl ⟨rfl, .refl _, rfl⟩

/-! ## Loads for the query as it is -/

/-- The load that is still to come to an end, and how far it has come. -/
def Hand.work? : Hand → Option (Load × Stage)
  | .loading load stage => some (load, stage)
  | .waiting p => some (p.load, p.stage)
  | _ => none

/-- The loads that are in hand or wait, and how far they have come. -/
def Moment.works (m : Moment) : List (Load × Stage) :=
  m.hand.work?.toList ++ m.session.pauses.map fun p => (p.load, p.stage)

/-! ## What the journal tells -/

/-- What is noted in the journal when something happens. -/
inductive Writes (m n : Moment) : List LoadEvent → Prop where
  /-- What becomes of loads. -/
  | loads {events : List LoadEvent} (topic : ∀ event ∈ events, event.topic = .load) :
      Writes m n events
  | renewing {events : List LoadEvent}
      (generation : n.session.browser.generation = m.session.browser.generation + 1)
      (topic : ∀ event ∈ events, event.topic = .load ∨ event.topic = .renewal) : Writes m n events
  | connected {backend : Nat} (executor : n.session.browser.executor = some backend) :
      Writes m n [.connected backend]
  | asked {load : Load} {plan : PagePlan} {sent : Sent} (mem : (load, .planned plan) ∈ m.works)
      (request : (m.session.request load.collection plan.request).2 = sent) :
      Writes m n [.asked sent load plan]
  | fetched {load : Load} {plan : PagePlan} {sent : Sent} {rows : List Value}
      (mem : (load, .asked plan sent) ∈ m.works) : Writes m n [.fetched sent load plan rows]
  | shown {load : Load} {plan : PagePlan} {sent : Sent} {view : View}
      (mem : (load, .answered plan sent (view.rows.map .object)) ∈ m.works) :
      Writes m n [.shown ⟨load, plan.config, view⟩]
  | recalled {load : Load} {move : PageMove} {kept : CachedPage}
      (mem : (load, .begun) ∈ m.works) (recalled : Recalled m.session.browser load move kept) :
      Writes m n [.recalled load m.session.browser.config move kept,
        .shown ⟨load, m.session.browser.config, .ofRows kept.rows kept.total⟩]

theorem Writes.single {event : LoadEvent} (topic : event.topic = .load) : Writes m n [event] :=
  .loads (List.forall_mem_singleton.mpr topic)

theorem Writes.dropped (loads : List Load) : Writes m n (loads.map .dropped) :=
  .loads (List.forall_mem_map.mpr fun _ _ => rfl)

/-- Within a generation nothing is noted after which pages are out of date. -/
theorem Writes.renews {events : List LoadEvent} (h : Writes m n events)
    (hsame : n.session.browser.generation = m.session.browser.generation) :
    ∀ event ∈ events, event.renews = false := by
  cases h with
  | loads topic =>
    intro event hmem
    unfold LoadEvent.renews
    rw [topic event hmem]
    rfl
  | renewing generation => omega
  | connected | asked | fetched | shown => exact List.forall_mem_singleton.mpr rfl
  | recalled => simp [LoadEvent.renews, LoadEvent.topic]

theorem mem_works_loading {load : Load} {stage : Stage} {s : Session} :
    (load, stage) ∈ (⟨.loading load stage, s⟩ : Moment).works := List.mem_cons_self

/-- Every move only adds to the journal. -/
theorem Move.writes (hmove : Move R m n) :
    ∃ events, n.session.journal = m.session.journal ++ events ∧ Writes m n events := by
  cases hmove with
  | calm like | refuse like | giveUp like | settle like =>
    exact ⟨[], by simp [like.journal], .loads (by simp)⟩
  | trouble s f => exact ⟨[.troubled], rfl, .single rfl⟩
  | bump s renewed =>
    exact ⟨[.renewed], rfl,
      .renewing renewed.generation (List.forall_mem_singleton.mpr (Or.inr rfl))⟩
  | postpone wide s | cancel wide s =>
    obtain ⟨loads, hjournal, -, -⟩ := cancelRun_drops s
    exact ⟨loads.map .dropped, hjournal, .dropped loads⟩
  | @putOff s loading => exact ⟨[.putOff s.underWay], rfl, .single rfl⟩
  | @begin h s load => exact ⟨[.begun load], rfl, .single rfl⟩
  | ask request =>
    cases request
    exact ⟨[.asked _ _ _], rfl, .asked mem_works_loading rfl⟩
  | turn generation commit => exact ⟨[.fetched _ _ _ _], rfl, .fetched mem_works_loading⟩
  | display generation => exact ⟨[.shown _], rfl, .shown mem_works_loading⟩
  | showAgain recalled commit =>
    rw [showKept_committed commit]
    exact ⟨_, List.append_assoc _ _ _, .recalled mem_works_loading recalled⟩
  | @finish load => exact ⟨[.ended load], rfl, .single rfl⟩
  | @relay load s => exact ⟨[.ended load, .takenUp], List.append_assoc _ _ _,
      .loads (by simp [LoadEvent.topic])⟩
  | takeUp => exact ⟨[.takenUp], rfl, .single rfl⟩
  | @broken load => exact ⟨[.broken load], rfl, .single rfl⟩
  | connect wide s connection backend =>
    obtain ⟨cache, unfiltered, hbrowser, -⟩ := useBackend_browser s connection backend
    exact ⟨[.connected backend], rfl, .connected (congrArg Browser.executor hbrowser)⟩
  | select s collection =>
    obtain ⟨loads, hjournal, -, -⟩ := cancelRun_drops s
    obtain ⟨history, hbrowser⟩ := selectCollection_browser s collection
    refine ⟨loads.map .dropped ++ [.selected (s.selectCollection collection).browser.generation],
      ?_, .renewing ?_ ?_⟩
    · rw [← List.append_assoc, ← hjournal]
      rfl
    · dsimp only
      rw [hbrowser, cancelRun_browser]
      rfl
    · intro event hevent
      rcases List.mem_append.mp hevent with hin | hin
      · obtain ⟨load, -, rfl⟩ := List.mem_map.mp hin
        exact Or.inl rfl
      · rw [List.mem_singleton.mp hin]
        exact Or.inr rfl
  | _ => exact ⟨[], (List.append_nil _).symm, .loads (by simp)⟩

/-- How a load has got where it is. -/
inductive GotThere (m n : Moment) (load : Load) : Stage → Prop where
  /-- It was there before. -/
  | stayed {stage : Stage} (mem : (load, stage) ∈ m.works) : GotThere m n load stage
  | begun (executor : m.session.browser.executor.isSome)
      (generation : load.generation = m.session.browser.generation)
      (current : m.session.browser.current? = some load.collection)
      (journal : n.session.journal = m.session.journal ++ [.begun load]) :
      GotThere m n load .begun
  | decided {plan : PagePlan} (mem : (load, .begun) ∈ m.works)
      (planned : Planned m.session.browser load plan) (same : n.session = m.session) :
      GotThere m n load (.planned plan)
  | asked {plan : PagePlan} {sent : Sent} (mem : (load, .planned plan) ∈ m.works)
      (request : (m.session.request load.collection plan.request).2 = sent)
      (journal : n.session.journal = m.session.journal ++ [.asked sent load plan]) :
      GotThere m n load (.asked plan sent)
  | answered {plan : PagePlan} {sent : Sent} {rows : List Value}
      (mem : (load, .asked plan sent) ∈ m.works)
      (journal : n.session.journal = m.session.journal ++ [.fetched sent load plan rows]) :
      GotThere m n load (.answered plan sent rows)

/-- A load decides on its page once. -/
theorem GotThere.plan? (got : GotThere m n load stage) : stage = .begun ∨
    (∃ plan, stage = .planned plan ∧ (load, .begun) ∈ m.works ∧ n.session = m.session ∧
      Planned m.session.browser load plan) ∨
    ∃ earlier, (load, earlier) ∈ m.works ∧ earlier.plan? = stage.plan? := by
  cases got with
  | stayed mem => exact Or.inr (Or.inr ⟨_, mem, rfl⟩)
  | begun => exact Or.inl rfl
  | decided mem planned same => exact Or.inr (Or.inl ⟨_, rfl, mem, same, planned⟩)
  | asked mem => exact Or.inr (Or.inr ⟨_, mem, rfl⟩)
  | answered mem => exact Or.inr (Or.inr ⟨_, mem, rfl⟩)

/-- Where no other loads are in hand or wait, none has moved. -/
theorem GotThere.of_fewer {m n : Moment} (hmem : (load, stage) ∈ n.works)
    (hand : ∀ work, n.hand.work? = some work → m.hand.work? = some work)
    (pauses : ∀ p ∈ n.session.pauses, p ∈ m.session.pauses) : GotThere m n load stage := by
  refine .stayed ?_
  unfold Moment.works at hmem ⊢
  rcases List.mem_append.mp hmem with hin | hin
  · exact List.mem_append_left _ (Option.mem_toList.mpr (hand _ (Option.mem_toList.mp hin)))
  · obtain ⟨p, hp, heq⟩ := List.mem_map.mp hin
    exact List.mem_append_right _ (List.mem_map.mpr ⟨p, pauses p hp, heq⟩)

/-- A load that is in hand has got there, or another one waits as before. -/
theorem GotThere.of_hand {m n : Moment} {own : Load} {reached : Stage}
    (hmem : (load, stage) ∈ n.works) (hand : n.hand.work? = some (own, reached))
    (pauses : ∀ p ∈ n.session.pauses, p ∈ m.session.pauses)
    (got : GotThere m n own reached) : GotThere m n load stage := by
  unfold Moment.works at hmem
  rw [hand] at hmem
  rcases List.mem_append.mp hmem with hin | hin
  · cases List.mem_singleton.mp hin
    exact got
  · obtain ⟨p, hp, heq⟩ := List.mem_map.mp hin
    cases heq
    exact .stayed (List.mem_append_right _ (List.mem_map.mpr ⟨p, pauses p hp, rfl⟩))

theorem pauses_cancelRun (s : Session) : s.cancelRun.pauses.Sublist s.pauses :=
  (actions_cancelRun s).filterMap _

theorem pauses_showFetched (s : Session) (load : Load) (plan : PagePlan) (view : View) :
    (s.showFetched load plan view).1.pauses = s.pauses := by
  unfold showFetched
  exact pauses_spawn rfl

theorem pauses_scheduleRun (s : Session) : s.scheduleRun.pauses = s.cancelRun.pauses := by
  unfold scheduleRun
  exact pauses_spawn rfl

theorem pauses_take {before after : List Job} {job : Job} (hready : s.ready = before ++ job :: after) :
    ({ s with ready := before ++ after } : Session).pauses.Sublist s.pauses :=
  (actions_take_sublist hready).filterMap _

/-- Every load that is under way after a move has got there in one of these ways. -/
theorem Move.gotThere (hmove : Move R m n) (hmem : (load, stage) ∈ n.works) :
    GotThere m n load stage := by
  cases hmove with
  | calm like => exact .of_fewer hmem (fun _ => id) fun p => like.pauses.mem_iff.mp
  | refuse like | giveUp like | settle like =>
    exact .of_fewer hmem (fun _ h => nomatch h) fun p => like.pauses.mem_iff.mp
  | trouble | bump | leave | runOver | putOff | finish | relay | takeUp | broken =>
    exact .of_fewer hmem (fun _ h => nomatch h) fun p => id
  | connect wide s connection backend =>
    exact .of_fewer hmem (fun _ h => nomatch h) fun p => id
  | @defer w holds s owes =>
    refine .of_fewer hmem (fun _ h => nomatch h) fun p hp => ?_
    rw [pauses_park, Pause.loadPause?_of_owes owes] at hp
    simpa using hp
  | goOn ready | due _ ready =>
    exact .of_fewer hmem (fun _ h => nomatch h) fun p hp => (pauses_take ready).subset hp
  | postpone wide s =>
    refine .of_fewer hmem (fun _ h => nomatch h) fun p hp => ?_
    exact (pauses_cancelRun s).subset (pauses_scheduleRun s ▸ hp)
  | cancel wide s =>
    exact .of_fewer hmem (fun _ h => nomatch h) fun p hp => (pauses_cancelRun s).subset hp
  | select s collection =>
    exact .of_fewer hmem (fun _ h => nomatch h) fun p hp => (pauses_cancelRun s).subset hp
  | begin idle current executor generation hand =>
    exact .of_hand hmem rfl (fun p => id) (.begun executor generation current rfl)
  | decide planned => exact .of_hand hmem rfl (fun p => id) (.decided mem_works_loading planned rfl)
  | ask request =>
    cases request
    exact .of_hand hmem rfl (fun p => id) (.asked mem_works_loading rfl rfl)
  | turn generation commit => exact .of_hand hmem rfl (fun p => id) (.answered mem_works_loading rfl)
  | display generation =>
    refine .of_fewer hmem (fun _ h => nomatch h) fun p hp => ?_
    rwa [pauses_showFetched] at hp
  | showAgain recalled commit =>
    refine .of_fewer hmem (fun _ h => nomatch h) fun p hp => ?_
    rwa [showKept_committed commit, pauses_spawn rfl] at hp
  | pause s => exact .of_hand hmem rfl (fun p => id) (.stayed mem_works_loading)
  | @park p w s waits =>
    obtain ⟨q, hq, heq⟩ := List.mem_map.mp hmem
    cases heq
    rw [pauses_park, waits] at hq
    rcases List.mem_append.mp hq with hin | hin
    · exact .stayed (List.mem_append_right _ (List.mem_map.mpr ⟨q, hin, rfl⟩))
    · cases List.mem_singleton.mp hin
      exact .stayed List.mem_cons_self
  | @pick p w s before after ready waits =>
    refine .of_hand hmem rfl (fun q hq => (pauses_take ready).subset hq) (.stayed ?_)
    refine List.mem_append_right _ (List.mem_map.mpr ⟨p, ?_, rfl⟩)
    refine List.mem_filterMap.mpr ⟨w, ?_, waits⟩
    exact (actions_take ready).mem_iff.mpr List.mem_cons_self

/-! ## Every load is for the query of its generation -/

/-- A load is one of the generation that there is, for the collection that is selected. -/
structure UpToDate (s : Session) (load : Load) : Prop where
  generation : load.generation = s.browser.generation
  current : s.browser.current? = some load.collection
  begun : BegunSince load s.journal

theorem Planned.compiled {b : Browser} {plan : PagePlan} (h : Planned b load plan) :
    plan.Compiled b.paging.pageSize := ⟨b.registry, h.config ▸ h.request⟩

/-- The page that a load has decided on is one of the query as it is. -/
structure PlanFits (s : Session) (plan : PagePlan) : Prop where
  config : plan.config.RetypedTo s.browser.config
  compiled : plan.Compiled s.browser.paging.pageSize

/-- A load is for the query as it is, unless it is out of date. -/
structure Fits (s : Session) (load : Load) (stage : Stage) : Prop where
  executor : s.browser.executor.isSome
  generation : load.generation ≤ s.browser.generation
  upToDate : load.generation = s.browser.generation → UpToDate s load
  plan : load.generation = s.browser.generation → ∀ plan, stage.plan? = some plan → PlanFits s plan

/-- Within a generation every move leaves its loads up to date. -/
theorem UpToDate.move (hmove : Move R m n)
    (hsame : n.session.browser.generation = m.session.browser.generation)
    (h : UpToDate m.session load) : UpToDate n.session load := by
  obtain ⟨events, hjournal, hwrites⟩ := hmove.writes
  refine ⟨h.generation.trans hsame.symm, (hmove.onward.query hsame).current.trans h.current, ?_⟩
  rw [hjournal]
  exact h.begun.append (hwrites.renews hsame)

theorem PlanFits.onward {plan : PagePlan} (hon : Onward s.browser t.browser)
    (hsame : t.browser.generation = s.browser.generation) (h : PlanFits s plan) : PlanFits t plan where
  config := Relation.ReflTransGen.trans h.config (hon.query hsame).config
  compiled := (hon.query hsame).pageSize ▸ h.compiled

/-- What is for the query as it is stays so until it is out of date. -/
theorem Fits.move (hmove : Move R m n) (h : Fits m.session load stage) :
    Fits n.session load stage := by
  have hon := hmove.onward
  have hsame : load.generation = n.session.browser.generation →
      load.generation = m.session.browser.generation ∧
        n.session.browser.generation = m.session.browser.generation := by
    intro hload
    have hfrom := h.generation
    have hto := hon.generation
    omega
  refine ⟨hon.executor h.executor, Nat.le_trans h.generation hon.generation, fun hload => ?_,
    fun hload plan hplan => ?_⟩
  · exact (h.upToDate (hsame hload).1).move hmove (hsame hload).2
  · exact (h.plan (hsame hload).1 plan hplan).onward hon (hsame hload).2

/-- All loads in hand or waiting are for the query of their generations. -/
def Timely (m : Moment) : Prop := ∀ load stage, (load, stage) ∈ m.works → Fits m.session load stage

/-- Every move keeps it so. -/
theorem Timely.move (hmove : Move R m n) (hm : Timely m) : Timely n := by
  intro load stage hmem
  have hon := hmove.onward
  have hgot := hmove.gotThere hmem
  rcases hgot.plan? with rfl | ⟨plan, rfl, earlier, same, planned⟩ | ⟨earlier, hearlier, hplan⟩
  · cases hgot with
    | stayed mem => exact (hm _ _ mem).move hmove
    | begun executor generation current journal =>
      refine ⟨hon.executor executor, generation ▸ hon.generation, fun hload => ?_,
        fun _ _ hplan => nomatch hplan⟩
      have hquery := hon.query (hload.symm.trans generation)
      refine ⟨hload, hquery.current.trans current, m.session.journal, [], journal, ?_⟩
      exact fun _ h => absurd h List.not_mem_nil
  · obtain ⟨hexecutor, hgeneration, hupToDate, -⟩ := hm _ _ earlier
    rw [same]
    refine ⟨hexecutor, hgeneration, hupToDate, fun _ plan hplan => ?_⟩
    cases hplan
    refine ⟨?_, planned.compiled⟩
    rw [planned.config]
    exact .refl _
  · obtain ⟨hexecutor, hgeneration, hupToDate, hfits⟩ := (hm _ _ hearlier).move hmove
    exact ⟨hexecutor, hgeneration, hupToDate, hplan ▸ hfits⟩

theorem timely_start (browser : Browser) (backends : List Backend) (provider : Option Provider) :
    Timely ⟨.free, .start browser backends provider⟩ :=
  fun _ _ hmem => absurd hmem List.not_mem_nil

end Session

end Folio
