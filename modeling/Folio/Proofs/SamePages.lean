-- What leaves pages alone. Most of what is done in a session bears neither on the pages that are
-- kept nor on the number of documents that is known; and what loads do leaves at least the ground
-- on which both rest.
import Folio.Proofs.Backends
import Folio.Proofs.Records
import Folio.Proofs.StaleAnswers

namespace Folio

/-- What pages rest on, apart from their query. -/
structure Footing where
  clock : Float
  lifetime : Float
  connection : Option String
  executor : Option Nat
  generation : Nat
  pageSize : Int

/-- Whether an event neither shows a page nor brings another backend. -/
def LoadEvent.leavesPages : LoadEvent → Bool
  | shown _ | connected _ => false
  | _ => true

/-- A load waits for a schema. -/
def LoadPause.isSchema : LoadPause → Bool
  | schema _ _ => true
  | _ => false

namespace Session

variable {s t u : Session} {load : Load} {plan : PagePlan}

def footing (s : Session) : Footing where
  clock := s.clock
  lifetime := s.browser.cache.lifetime
  connection := s.browser.connection
  executor := s.browser.executor
  generation := s.browser.generation
  pageSize := s.browser.paging.pageSize

/-- What has been noted since. -/
def since (s t : Session) : List LoadEvent := t.journal.drop s.journal.length

theorem since_eq {l : List LoadEvent} (h : t.journal = s.journal ++ l) : s.since t = l := by
  unfold since
  rw [h, List.drop_left]

theorem journal_since (h : s.journal <+: t.journal) : t.journal = s.journal ++ s.since t := by
  obtain ⟨events, hevents⟩ := h
  rw [since_eq hevents.symm, hevents]

theorem since_trans (hst : s.journal <+: t.journal) (htu : t.journal <+: u.journal) :
    s.since u = s.since t ++ t.since u := by
  apply since_eq
  rw [← List.append_assoc, ← journal_since hst, ← journal_since htu]

/-- What has been noted stays noted. -/
theorem since_mono (htu : t.journal <+: u.journal) : s.since t ⊆ s.since u := by
  obtain ⟨events, hevents⟩ := htu
  unfold since
  rw [← hevents, List.drop_append]
  exact List.subset_append_left _ _

theorem mem_since_right (hst : s.journal <+: t.journal) (htu : t.journal <+: u.journal)
    {event : LoadEvent} (h : event ∈ t.since u) : event ∈ s.since u := by
  rw [since_trans hst htu]
  exact List.mem_append_right _ h

/-- Sessions of which the second has the footing of the first, and is no more held up. -/
structure Alongside (s t : Session) : Prop where
  footing : t.footing = s.footing
  unheld : (∀ b ∈ s.backends, b.held = false) → ∀ b ∈ t.backends, b.held = false
  yielded : s.yielded <+: t.yielded
  journal : s.journal <+: t.journal
  connected : ∀ backend, .connected backend ∉ s.since t

namespace Alongside

theorem refl (s : Session) : Alongside s s where
  footing := rfl
  unheld := id
  yielded := List.prefix_rfl
  journal := List.prefix_rfl
  connected := fun _ h => by simp [since] at h

theorem trans (hst : Alongside s t) (htu : Alongside t u) : Alongside s u where
  footing := htu.footing.trans hst.footing
  unheld := fun h => htu.unheld (hst.unheld h)
  yielded := hst.yielded.trans htu.yielded
  journal := hst.journal.trans htu.journal
  connected := by
    intro backend hmem
    rw [since_trans hst.journal htu.journal] at hmem
    rcases List.mem_append.mp hmem with h | h
    · exact hst.connected backend h
    · exact htu.connected backend h

end Alongside

/-- Sessions between which no page is shown or kept, none that is kept is dropped, and nobody has to
wait. -/
structure SamePages (s t : Session) : Prop extends Alongside s t where
  actions : t.actions ⊆ s.actions
  cache : t.browser.cache = s.browser.cache
  unfiltered : t.browser.unfiltered = s.browser.unfiltered
  shown : ∀ showing, .shown showing ∉ s.since t

namespace SamePages

theorem refl (s : Session) : SamePages s s :=
  ⟨.refl s, fun _ h => h, rfl, rfl, fun _ h => by simp [since] at h⟩

theorem trans (hst : SamePages s t) (htu : SamePages t u) : SamePages s u where
  toAlongside := hst.toAlongside.trans htu.toAlongside
  actions := fun w hw => hst.actions (htu.actions hw)
  cache := htu.cache.trans hst.cache
  unfiltered := htu.unfiltered.trans hst.unfiltered
  shown := by
    intro showing hmem
    rw [since_trans hst.journal htu.journal] at hmem
    rcases List.mem_append.mp hmem with h | h
    · exact hst.shown showing h
    · exact htu.shown showing h

/-- Sessions with the same backends and records. -/
theorem of_still (footing : t.footing = s.footing) (backends : t.backends = s.backends)
    (yielded : t.yielded = s.yielded) (actions : t.actions ⊆ s.actions)
    (journal : t.journal = s.journal) (cache : t.browser.cache = s.browser.cache)
    (unfiltered : t.browser.unfiltered = s.browser.unfiltered) : SamePages s t := by
  have hnone : s.since t = [] := by
    unfold since
    rw [journal, List.drop_length]
  refine ⟨⟨footing, ?_, ?_, ?_, ?_⟩, actions, cache, unfiltered, ?_⟩
  · intro h
    rwa [backends]
  · rewrite [yielded]
    exact List.prefix_rfl
  · rewrite [journal]
    exact List.prefix_rfl
  · intro backend hmem
    simp [hnone] at hmem
  · intro showing hmem
    simp [hnone] at hmem

/-- Only who is ready, and the debouncer, have changed. -/
theorem of_browser (browser : t.browser = s.browser) (clock : t.clock = s.clock)
    (backends : t.backends = s.backends) (yielded : t.yielded = s.yielded)
    (actions : t.actions ⊆ s.actions) (journal : t.journal = s.journal) : SamePages s t := by
  apply of_still _ backends yielded actions journal
  · rw [browser]
  · rw [browser]
  · unfold footing
    rw [browser, clock]

/-- A change of the browser that leaves its pages alone. -/
theorem update {f : Browser → Browser} (footing : (s.update f).footing = s.footing)
    (cache : (f s.browser).cache = s.browser.cache)
    (unfiltered : (f s.browser).unfiltered = s.browser.unfiltered) : SamePages s (s.update f) :=
  .of_still footing rfl rfl (fun _ h => h) rfl cache unfiltered

theorem noting {events : List LoadEvent} (s : Session)
    (hevents : ∀ event ∈ events, event.leavesPages = true) :
    SamePages s { s with journal := s.journal ++ events } := by
  have hsince : s.since { s with journal := s.journal ++ events } = events := since_eq rfl
  refine ⟨⟨rfl, id, List.prefix_rfl, List.prefix_append _ _, ?_⟩, fun _ h => h, rfl, rfl, ?_⟩
  · intro backend hmem
    rw [hsince] at hmem
    exact absurd (hevents _ hmem) Bool.false_ne_true
  · intro showing hmem
    rw [hsince] at hmem
    exact absurd (hevents _ hmem) Bool.false_ne_true

theorem note (s : Session) {e : LoadEvent} (h : e.leavesPages = true) :
    SamePages s (s.note e) := noting s (List.forall_mem_singleton.mpr h)

theorem spawn (s : Session) {j : Job} (h : j.action? = none) : SamePages s (s.spawn j) := by
  refine of_browser rfl rfl rfl rfl ?_ rfl
  rw [actions_spawn h]
  exact List.Subset.refl _

end SamePages

/-! ## What is done beside loads -/

theorem trouble_samePages (s : Session) (f : Fault) : SamePages s (s.trouble f) :=
  (SamePages.update (f := (·.fail f)) rfl rfl rfl).trans (.note _ rfl)

theorem Apprised.samePages (h : Apprised s t) : SamePages s t := by
  obtain ⟨registry, known, rfl⟩ := h
  exact .update rfl rfl rfl

theorem attempted_samePages (s : Session) (provider : Provider) :
    SamePages s (s.attempted provider) := .of_still rfl rfl rfl (fun _ h => h) rfl rfl rfl

theorem setBackend_samePages {number : Nat} {b c : Backend} (there : s.backend? number = some b)
    (held : c.held = b.held) : SamePages s (s.setBackend number c) := by
  have hsame : SamePages s s := .refl s
  refine ⟨⟨rfl, ?_, List.prefix_rfl, List.prefix_rfl, hsame.connected⟩, fun _ h => h, rfl, rfl,
    hsame.shown⟩
  intro hunheld other hother
  rcases List.mem_or_eq_of_mem_set hother with hmem | rfl
  · exact hunheld other hmem
  · rw [held]
    exact hunheld b (List.mem_of_getElem? there)

theorem write_held {α : Type} {b c : Backend} {operation : String}
    {f : DocumentStore → DocumentStore × Except Failure α} {result : Except Fault α}
    (h : b.write operation f = (c, result)) : c.held = b.held := by
  have hholds := b.write_holds operation f
  rw [h] at hholds
  exact (Prod.mk.inj hholds).1

theorem delete_held {b c : Backend} {collection : String} {keys : Value} {result : Except Fault Nat}
    (h : b.delete collection keys = (c, result)) : c.held = b.held := by
  have hholds := b.delete_holds collection keys
  rw [h] at hholds
  exact (Prod.mk.inj hholds).1

theorem Refuses.held {allowed : Command → Prop} {b c : Backend} {collection : String}
    (h : Refuses allowed b collection c) : c.held = b.held := by
  cases h with
  | delete _ _ refused => exact delete_held refused
  | update _ refused => exact write_held refused
  | upsert _ refused => exact write_held refused

theorem respond_samePages (s : Session) (sent : Sent) : SamePages s (s.respond sent).1 := by
  rcases s.respond_cases sent with ⟨-, hnone⟩ | ⟨b, hb, hsome⟩
  · rw [hnone]
    exact .refl s
  · have hheld := (Prod.mk.inj (b.respond_holds sent.collection sent.request)).1
    have hanswered := setBackend_samePages hb hheld
    rw [hsome]
    exact hanswered.trans ⟨⟨rfl, id, List.prefix_append _ _, List.prefix_rfl,
      (Alongside.refl _).connected⟩, fun _ h => h, rfl, rfl, (SamePages.refl _).shown⟩

theorem send_samePages (s : Session) (backend : Nat) (collection : String) (request : Fields) :
    SamePages s (s.send backend collection request).1 :=
  .of_browser rfl rfl rfl rfl (fun _ h => h) rfl

theorem cancelRun_samePages (s : Session) : SamePages s s.cancelRun := by
  have hactions := (actions_cancelRun s).subset
  obtain ⟨_, _, _, _, loads, hcancelled⟩ := s.cancelRun_changes
  have hnoted : SamePages s { s with journal := s.journal ++ loads.map .dropped } :=
    .noting s (List.forall_mem_map.mpr fun _ _ => rfl)
  rw [hcancelled] at hactions ⊢
  exact hnoted.trans (.of_browser rfl rfl rfl rfl hactions rfl)

theorem scheduleRun_samePages (s : Session) : SamePages s s.scheduleRun := by
  unfold scheduleRun
  refine (cancelRun_samePages s).trans (SamePages.trans ?_ (.spawn _ rfl))
  exact .of_browser rfl rfl rfl rfl (fun _ h => h) rfl

theorem logRecent_samePages (s : Session) : SamePages s s.logRecent := by
  rcases s.logRecent_cases with hsame | ⟨history, hlogged⟩
  · rw [hsame]
    exact .refl s
  · have hid : SamePages s s.newId.1 := .of_browser rfl rfl rfl rfl (fun _ h => h) rfl
    rw [hlogged]
    refine hid.trans (.update ?_ ?_ ?_) <;> rfl

theorem openGate_samePages (s : Session) (gate : Gate) : SamePages s (s.openGate gate) :=
  .of_browser rfl rfl rfl rfl (fun _ hw => (actions_openGate s gate).mem_iff.mp hw) rfl

theorem retype_samePages (s : Session) : SamePages s (s.update (·.retype)) := by
  refine .update ?_ ?_ ?_ <;> rfl

theorem rest_samePages (s : Session) : SamePages s (s.update (·.rest)) := by
  refine .update ?_ ?_ ?_ <;> rfl

theorem fail_samePages (s : Session) (f : Fault) : SamePages s (s.update (·.fail f)) := by
  refine .update ?_ ?_ ?_ <;> rfl

/-- An answer is recorded. -/
theorem respond_yielded {sent : Sent} {response : Value} (h : s.respond sent = (t, .ok response)) :
    t.yielded = s.yielded ++ [.answer sent response] := by
  rcases s.respond_cases sent with ⟨-, hnone⟩ | ⟨b, -, hsome⟩
  · cases hnone.symm.trans h
  · obtain ⟨rfl, hresponse⟩ := Prod.mk.inj (hsome.symm.trans h)
    rw [hresponse]
    rfl

/-! ## Showing a page -/

/-- The walk goes on to a page of the same size. -/
theorem walk_samePages {paging : Paging} (h : paging.pageSize = s.browser.paging.pageSize) :
    SamePages s (s.update ({ · with paging := paging })) := by
  refine .update ?_ rfl rfl
  unfold footing update
  dsimp only
  rw [h]

/-- A page is shown, and perhaps kept. -/
structure Shows (s t : Session) (showing : Showing) : Prop extends Alongside s t where
  actions : t.actions ⊆ s.actions
  since : ∀ other, .shown other ∈ s.since t ↔ other = showing
  backends : t.backends = s.backends
  collection : t.browser.collection = s.browser.collection
  rows : t.browser.view.rows = showing.view.rows
  unfiltered : t.browser.unfiltered =
    if showing.config.browsesAll then showing.view.total else s.browser.unfiltered
  pages : ∀ page ∈ t.browser.cache.pages, page ∈ s.browser.cache.pages ∨
    page.rows = showing.view.rows ∧ page.total = showing.view.total

theorem showFetched_shows (s : Session) (load : Load) (plan : PagePlan) (view : View) :
    Shows s (s.showFetched load plan view).1 ⟨load, plan.config, view⟩ := by
  have hjournal : (s.showFetched load plan view).1.journal =
    s.journal ++ [.shown ⟨load, plan.config, view⟩] := rfl
  have hsince := since_eq hjournal
  obtain ⟨cache, hbrowser, hpages⟩ := showFetched_browser s load plan view
  refine ⟨⟨?_, id, List.prefix_rfl, ⟨_, hjournal.symm⟩, ?_⟩, ?_, ?_, rfl, ?_, ?_, ?_, ?_⟩
  · unfold showFetched footing
    dsimp only
    split <;> rfl
  · intro backend hmem
    simp [hsince] at hmem
  · exact (SamePages.spawn (s.note (.shown ⟨load, plan.config, view⟩)) rfl).actions
  · simp [hsince]
  · rw [hbrowser]
    rfl
  · rw [hbrowser]
    rfl
  · rw [hbrowser]
    rfl
  · intro page hpage
    rw [hbrowser] at hpage
    exact (hpages page hpage).imp_right fun hnew => by simp [hnew]

/-- A page that was kept is shown from what was kept of it, which is noted. -/
theorem showKept_shows (load : Load) (config : QueryConfig) {move : PageMove} {page : CachedPage}
    {paging : Paging}
    (hcommit : s.browser.paging.commit move (page.rows.map .object) = .ok paging) :
    Shows s (s.showKept load config move page).1 ⟨load, config, .ofRows page.rows page.total⟩ ∧
      .recalled load config move page ∈ s.since (s.showKept load config move page).1 ∧
      (s.showKept load config move page).1.browser.cache = s.browser.cache := by
  rw [showKept_committed hcommit]
  have hwalked := walk_samePages (Paging.commits hcommit).pageSize
  have hspawned := SamePages.spawn s (j := .discover load.collection page.rows) rfl
  generalize hu : Session.spawn _ _ = u
  have hjournal : u.journal = s.journal ++ [.recalled load config move page,
      .shown ⟨load, config, .ofRows page.rows page.total⟩] := by
    rw [← hu]
    simp [Session.spawn, note, update]
  have hsince := since_eq hjournal
  refine ⟨⟨⟨?_, ?_, ?_, ⟨_, hjournal.symm⟩, ?_⟩, ?_, ?_, ?_, ?_, ?_, ?_, ?_⟩, ?_, ?_⟩
  · rw [← hwalked.footing, ← hu]
    rfl
  · rw [← hu]
    exact hspawned.unheld
  · rw [← hu]
    exact hspawned.yielded
  · intro backend hmem
    simp [hsince] at hmem
  · rw [← hu]
    exact hspawned.actions
  · simp [hsince]
  · rw [← hu]
    rfl
  · rw [← hu]
    rfl
  · rw [← hu]
    rfl
  · rw [← hu]
    rfl
  · rw [← hu]
    exact fun _ => .inl
  · simp [hsince]
  · rw [← hu]
    rfl

/-! ## Strides -/

variable {leg next : Leg}

/-- A stride that shows no page leaves pages alone. -/
theorem Stride.samePages (h : Stride (s, leg) (t, next))
    (hunshown : ∀ load, next ≠ .stops load (.done true)) : SamePages s t := by
  cases h with
  | idle | decide | know | tell | broken | wait => exact .refl s
  | refuse => exact fail_samePages s _
  | begin =>
    have hbegun : SamePages s (s.update (·.begin)) := by
      refine .update ?_ ?_ ?_ <;> rfl
    exact hbegun.trans (.note _ rfl)
  | learn known => exact (apprised_of_ensure known).samePages
  | take taken => exact (apprised_of_take taken).samePages
  | retype => exact retype_samePages s
  | showAgain => exact absurd rfl (hunshown _)
  | count unknown request =>
    cases request
    exact send_samePages s _ _ _
  | @hear _ _ sent _ _ _ respond =>
    have hresponds := respond_samePages s sent
    rwa [respond] at hresponds
  | ask request =>
    cases request
    exact (send_samePages s _ _ _).trans (.note _ rfl)
  | @receive _ _ sent _ _ _ _ respond =>
    have hresponds := respond_samePages s sent
    rwa [respond] at hresponds
  | turn current read commit =>
    exact (walk_samePages (Paging.commits commit).pageSize).trans (.note _ rfl)
  | display => exact absurd rfl (hunshown _)
  | rest => exact rest_samePages s
  | fail => exact fail_samePages s _
  | close _ load outcome =>
    cases outcome with
    | done shown => exact .note s rfl
    | raised f => exact .note s rfl
    | paused p => exact .refl s

/-- Whatever is shown, every stride goes on alongside of what was there. -/
theorem Stride.alongside (h : Stride (s, leg) (t, next)) : Alongside s t := by
  by_cases hunshown : ∀ load, next ≠ .stops load (.done true)
  · exact (h.samePages hunshown).toAlongside
  · cases h with
    | showAgain recalled target found commit => exact (showKept_shows _ _ commit).1.toAlongside
    | display => exact (showFetched_shows _ _ _ _).toAlongside
    | _ => exact absurd (by simp) hunshown

theorem takeUp_samePages (s : Session) :
    SamePages s ((s.update ({ · with reloadPending := false })).note .takenUp) := by
  have hupdated : SamePages s (s.update ({ · with reloadPending := false })) := by
    refine .update ?_ ?_ ?_ <;> rfl
  exact hupdated.trans (.note _ rfl)

/-- So does every load. -/
theorem alongside_invariant (s : Session) : LoadInvariant fun t _ => Alongside s t where
  stride := fun hstride ht => ht.trans hstride.alongside
  takeUp := fun _ _ ht => ht.trans (takeUp_samePages _).toAlongside

theorem beginLoad_alongside (s : Session) (page : Value) (forced : Bool) :
    Alongside s (s.beginLoad page forced).1 := (alongside_invariant s).beginLoad (.refl s)

theorem loadDocuments_alongside (s : Session) (page : Value) (forced : Bool) :
    Alongside s (s.loadDocuments page forced).1 :=
  (alongside_invariant s).loadDocuments page forced (.refl s)

end Session

end Folio
