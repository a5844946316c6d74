-- Whether what is shown is up to date. A browser of stores in memory that shows a page without
-- being about to load another one shows what a load has found that was begun after the last change.
import Folio.Proofs.KeyedStores
import Folio.Proofs.Records

open Relation (ReflTransGen)

namespace Folio

/-! ## The page that was shown last -/

/-- The page that was shown last. -/
def lastShown? (journal : List LoadEvent) : Option Showing :=
  (journal.filterMap LoadEvent.showing?).getLast?

theorem lastShown?_shown (journal : List LoadEvent) (showing : Showing) :
    lastShown? (journal ++ [.shown showing]) = some showing := by
  unfold lastShown?
  rw [List.filterMap_append, List.getLast?_append]
  rfl

/-- Events that show no page. -/
theorem lastShown?_append (journal : List LoadEvent) {events : List LoadEvent}
    (hnone : ∀ event ∈ events, event.showing? = none) :
    lastShown? (journal ++ events) = lastShown? journal := by
  unfold lastShown?
  rw [List.filterMap_append, List.filterMap_eq_nil_iff.mpr hnone, List.append_nil]

theorem lastShown?_note (journal : List LoadEvent) {event : LoadEvent} (hnone : event.showing? = none) :
    lastShown? (journal ++ [event]) = lastShown? journal :=
  lastShown?_append journal (List.forall_mem_singleton.mpr hnone)

theorem lastShown?_dropped (journal : List LoadEvent) (loads : List Load) :
    lastShown? (journal ++ loads.map .dropped) = lastShown? journal :=
  lastShown?_append journal (List.forall_mem_map.mpr fun _ _ => rfl)

/-! ## Stores in memory -/

/-- A store in memory shows its schemas without delay. -/
def Backend.Prompt (b : Backend) : Prop := b.InMemory ∧ b.schemaHeld = false

namespace Backend.Prompt

variable {b : Backend}

theorem write (h : b.Prompt) {α : Type} (operation : String)
    {f : DocumentStore → DocumentStore × Except Failure α}
    (hf : ∀ store, (f store).1.schemas = store.schemas) : (b.write operation f).1.Prompt := by
  refine ⟨Backed.write h.1 operation fun store htyped => ?_,
    (Prod.mk.inj (b.write_holds operation f)).2.trans h.2⟩
  unfold DocumentStore.SchemasTyped
  rwa [hf store]

theorem respond (h : b.Prompt) (collection : String) (request : Fields) :
    (b.respond collection request).1.Prompt :=
  ⟨Backed.respond h.1 collection request,
    (Prod.mk.inj (b.respond_holds collection request)).2.trans h.2⟩

theorem delete (h : b.Prompt) (collection : String) (keys : Value) :
    (b.delete collection keys).1.Prompt := by
  rcases b.delete_cases collection keys with ⟨f, hd⟩ | hd
  · rw [hd]
    exact h
  · rw [hd]
    refine h.write _ fun store => ?_
    unfold DocumentStore.delete
    split <;> rfl

theorem update (h : b.Prompt) (collection : String) (key changes : Value) :
    (b.update collection key changes).1.Prompt := by
  refine h.write _ fun store => ?_
  split
  · rename_i changed hchanged
    obtain ⟨-, -, -, -, rfl⟩ := DocumentStore.update_ok hchanged
    rfl
  · rfl

theorem upsert (h : b.Prompt) (collection : String) (rows : Value) :
    (b.upsert collection rows).1.Prompt := by
  refine h.write _ fun store => ?_
  unfold DocumentStore.upsert
  dsimp only
  split
  · split <;> rfl
  · rfl

end Backend.Prompt

/-- What is asked for other than that a backend holds back its schemas. -/
def Command.LeavesSchemas : Command → Prop
  | .backend _ .holdSchemas => False
  | _ => True

namespace Session

/-- A realm of stores in memory that show their schemas without delay. -/
def promptRealm : Realm where
  backend := Backend.Prompt
  pause := fun _ => True
  breaks := fun _ => True
  command := Command.LeavesSchemas
  wide := True
  flawed := False
  holds := False

theorem affects_prompt {command : Command} {b c : Backend} (hc : command.LeavesSchemas)
    (h : Command.Affects command b c) (hb : b.Prompt) : c.Prompt := by
  cases h with
  | delete keys collection b => exact hb.delete collection keys
  | update key changes collection b => exact hb.update collection key changes
  | upsert rows collection b => exact hb.upsert collection rows
  | backend number affects =>
    cases affects with
    | delete collection keys b => exact hb.delete collection keys
    | update collection key changes b => exact hb.update collection key changes
    | upsert collection rows b => exact hb.upsert collection rows
    | holdSchemas => exact hc.elim
    | releaseSchemas => exact ⟨hb.1, rfl⟩
    | _ => exact hb

theorem promptRealm_laws : promptRealm.Laws where
  responds := fun hb collection request => Backend.Prompt.respond hb collection request
  affects := fun hc _ _ h hb => affects_prompt hc h hb
  prompt := Or.inl trivial
  schemas := fun {s} hw query => by
    have hprompt : ∀ b ∈ s.backends, b.Prompt := hw.backends
    obtain ⟨t, ht, -⟩ := takeSchema_learned query fun b hb =>
      (hprompt b (List.mem_of_getElem? hb)).1
    exact Or.inl (by rw [ht])
  holds := fun {b} hb hheld => by
    have hunheld : b.schemaHeld = false := hb.2
    rw [hunheld] at hheld
    cases hheld
  loads := ⟨_, .of_any (fun _ => trivial) fun _ => trivial⟩

/-! ## What is shown at every moment -/

variable {R : Realm} {m n : Moment} {h k : Hand} {s t : Session} {load : Load}

/-- A reload is still to be made. -/
def Behind (m : Moment) : Prop := m.hand = .owing ∨ m.session.runsAhead ≠ []

/-- The page that was shown last is shown still, and is one of the query as it is unless a reload is
still to be made. -/
structure StillShows (m : Moment) (showing : Showing) : Prop where
  last : lastShown? m.session.journal = some showing
  view : showing.view.EditedTo m.session.browser.view
  executor : m.session.browser.executor.isSome
  current : m.session.browser.current? = some showing.load.collection
  upToDate : Behind m ∨
    UpToDate m.session showing.load ∧ showing.config.RetypedTo m.session.browser.config

/-- What holds at every moment of what is shown as loaded. -/
def Faithful (m : Moment) : Prop :=
  m.session.browser.state = .success → ∃ showing, StillShows m showing

/-- Nothing is shown as loaded. -/
theorem Faithful.of_unshown (hstate : m.session.browser.state ≠ .success) : Faithful m :=
  fun hshown => absurd hshown hstate

/-- What is shown stays, and is no more out of date than before. -/
theorem Faithful.kept (hmove : Move R m n) (hf : Faithful m)
    (state : n.session.browser.state = m.session.browser.state)
    (last : lastShown? n.session.journal = lastShown? m.session.journal)
    (view : m.session.browser.view.EditedTo n.session.browser.view)
    (current : n.session.browser.current? = m.session.browser.current?)
    (behind : Behind n ∨
      n.session.browser.generation = m.session.browser.generation ∧ (Behind m → Behind n)) :
    Faithful n := by
  intro hshown
  have hon := hmove.onward
  obtain ⟨showing, hshows⟩ := hf (state.symm.trans hshown)
  refine ⟨showing, last.trans hshows.last, Relation.ReflTransGen.trans hshows.view view,
    hon.executor hshows.executor, current.trans hshows.current, ?_⟩
  rcases behind with hbehind | ⟨hsame, hbehind⟩
  · exact Or.inl hbehind
  · refine hshows.upToDate.imp hbehind fun ⟨hload, hconfig⟩ => ⟨hload.move hmove hsame, ?_⟩
    exact Relation.ReflTransGen.trans hconfig (hon.query hsame).config

/-- What is in hand has no bearing on what is shown, nor has what is noted. -/
theorem Faithful.passing (hmove : Move R ⟨h, s⟩ ⟨k, t⟩) (hf : Faithful ⟨h, s⟩)
    (browser : t.browser = s.browser)
    (last : lastShown? t.journal = lastShown? s.journal) (hand : h ≠ .owing)
    (ahead : t.runsAhead = s.runsAhead) : Faithful ⟨k, t⟩ := by
  refine hf.kept hmove (congrArg Browser.state browser) last ?_ (congrArg Browser.current? browser)
    (Or.inr ⟨congrArg Browser.generation browser, fun hbehind => Or.inr ?_⟩)
  · dsimp only
    rw [browser]
    exact .refl _
  · exact ahead ▸ hbehind.resolve_left hand

/-- A page that a load shows is one of the query as it is. -/
theorem Faithful.showing {showing : Showing} {stage : Stage} (hmove : Move R m n)
    (hfits : Fits m.session showing.load stage)
    (generation : m.session.browser.generation = showing.load.generation)
    (config : showing.config.RetypedTo m.session.browser.config)
    (same : n.session.browser.generation = m.session.browser.generation)
    (last : lastShown? n.session.journal = some showing)
    (view : n.session.browser.view = showing.view) : Faithful n := by
  intro _
  have hon := hmove.onward
  have hnow := (hfits.upToDate generation.symm).move hmove same
  refine ⟨showing, last, ?_, hon.executor hfits.executor, hnow.current, Or.inr ⟨hnow, ?_⟩⟩
  · rw [view]
    exact .refl _
  · exact Relation.ReflTransGen.trans config (hon.query same).config

/-- What is shown stays until a reload that is owed has been made. -/
theorem Faithful.owing (hmove : Move R ⟨h, s⟩ ⟨.owing, t⟩) (hf : Faithful ⟨h, s⟩)
    (state : t.browser.state = s.browser.state) (last : lastShown? t.journal = lastShown? s.journal)
    (view : t.browser.view = s.browser.view) (current : t.browser.current? = s.browser.current?) :
    Faithful ⟨.owing, t⟩ := by
  refine hf.kept hmove state last ?_ current (Or.inl (Or.inl rfl))
  dsimp only
  rw [view]
  exact .refl _

/-- Every move leaves what is shown up to date, or about to be loaded anew. -/
theorem Faithful.move (hmove : Move promptRealm m n) (ht : Timely m) (hf : Faithful m) :
    Faithful n := by
  have hmoved := hmove
  cases hmove with
  | @calm h s t like state =>
    refine hf.kept hmoved state (congrArg lastShown? like.journal) like.browser.view
      like.browser.current (Or.inr ⟨like.browser.generation, Or.imp id fun hsome hnone => hsome ?_⟩)
    have hahead := like.ahead
    rw [show t.runsAhead = [] from hnone] at hahead
    exact hahead.symm.eq_nil
  | trouble s f => exact .of_unshown (by simp [trouble, note, update, Browser.fail])
  | refuse like idle state => exact .of_unshown (by simp [state])
  | settle like state => exact .of_unshown (by rcases state with h | h <;> simp [h])
  | begin => exact .of_unshown (by simp [note, update, Browser.begin])
  | @putOff s loading =>
    have hstate : s.browser.state = .loading := eq_of_beq loading
    exact .of_unshown (by simp [note, update, hstate])
  | select s collection =>
    obtain ⟨history, hbrowser⟩ := selectCollection_browser s collection
    exact .of_unshown (by simp [hbrowser, Browser.select])
  | leave flawed => exact flawed.elim
  | defer holds => exact holds.elim
  | bump s renewed =>
    exact hf.owing hmoved renewed.state (lastShown?_note _ rfl) renewed.view renewed.current
  | goOn | due => exact hf.owing hmoved rfl rfl rfl rfl
  | cancel wide s =>
    obtain ⟨loads, hjournal, -, hbrowser⟩ := cancelRun_drops s
    refine hf.owing hmoved ?_ ?_ ?_ ?_
    · rw [hbrowser]
    · rw [hjournal, lastShown?_dropped]
    · rw [hbrowser]
    · rw [hbrowser]
  | relay =>
    exact hf.owing hmoved rfl ((lastShown?_note _ rfl).trans (lastShown?_note _ rfl)) rfl rfl
  | takeUp => exact hf.owing hmoved rfl (lastShown?_note _ rfl) rfl rfl
  | postpone wide s =>
    obtain ⟨loads, hjournal, -, hbrowser⟩ := cancelRun_drops s
    have hsame : s.scheduleRun.browser = s.browser := hbrowser
    refine hf.kept hmoved ?_ ?_ ?_ ?_ (Or.inl (Or.inr ?_))
    · rw [hsame]
    · exact (congrArg lastShown? hjournal).trans (lastShown?_dropped _ _)
    · rw [hsame]
      exact .refl _
    · rw [hsame]
    · rw [runsAhead_scheduleRun]
      simp
  | @giveUp s t like idle state nothing =>
    intro hshown
    have hbefore : s.browser.state = .success :=
      (state.resolve_right fun hfailed => by rw [hfailed] at hshown; cases hshown).symm.trans hshown
    obtain ⟨showing, -, -, hexecutor, hcurrent, -⟩ := hf hbefore
    rcases nothing with hnone | hnone
    · rw [hcurrent] at hnone
      cases hnone
    · rw [hnone] at hexecutor
      cases hexecutor
  | runOver | decide | pause => exact hf.passing hmoved rfl rfl (by simp) rfl
  | park => exact hf.passing hmoved rfl rfl (by simp) rfl
  | pick ready => exact hf.passing hmoved rfl rfl (by simp) (runsAhead_pass ready rfl)
  | ask request =>
    cases request
    exact hf.passing hmoved rfl (lastShown?_note _ rfl) (by simp) rfl
  | finish | broken => exact hf.passing hmoved rfl (lastShown?_note _ rfl) (by simp) rfl
  | turn =>
    exact hf.kept hmoved rfl (lastShown?_note _ rfl) (.refl _) rfl
      (Or.inr ⟨rfl, fun hbehind => Or.inr (hbehind.resolve_left (by simp))⟩)
  | connect wide s connection backend =>
    obtain ⟨cache, unfiltered, hbrowser, -⟩ := useBackend_browser s connection backend
    refine hf.kept hmoved ?_ (lastShown?_note _ rfl) ?_ ?_ (Or.inr ⟨?_, id⟩) <;> dsimp only <;>
      rw [hbrowser]
    · exact .refl _
    · rfl
  | @display load plan sent view s generation =>
    obtain ⟨cache, hbrowser, -⟩ := showFetched_browser s load plan view
    have hfits := ht _ _ List.mem_cons_self
    refine Faithful.showing hmoved hfits generation ?_ ?_ (lastShown?_shown _ _) ?_
    · exact (hfits.plan generation.symm plan rfl).config
    · rw [hbrowser]
      rfl
    · rw [hbrowser]
      rfl
  | @showAgain load step kept paging s recalled commit =>
    have hfits := ht _ _ List.mem_cons_self
    rw [showKept_committed commit] at hmoved ⊢
    exact Faithful.showing hmoved hfits recalled.generation (.refl _) rfl (lastShown?_shown _ _) rfl

/-- So does every way. -/
theorem Faithful.leads (hpath : ReflTransGen (Move promptRealm) m n) (ht : Timely m)
    (hf : Faithful m) : Faithful n :=
  Leads.keeps_beside (fun hmove => Timely.move hmove) (fun hmove ht hf => hf.move hmove ht) hpath ht hf

/-! ## The law -/

/-- A browser of stores in memory that shows a page as loaded, while no run of the debouncer is
pending, shows the page that was shown last, apart from documents that were deleted or changed since.
The load that has found it was begun after everything that puts pages out of date, for the collection
that is selected; and its query is the one that there is, apart from filters that were made anew. So
it is in whatever order everything has been done, and whatever has failed. -/
theorem shown_page_is_current (settings : Settings) (connection collection : Option String)
    (executor : Option Nat) (archive : Option Archive) (backends : List Backend)
    (provider : Option Provider) (s : Session) (hbackends : ∀ b ∈ backends, b.Prompt)
    (hcourse : ReflTransGen (Step Command.LeavesSchemas)
      (.start (.start settings connection collection executor archive) backends provider) s)
    (hshown : s.browser.state = .success) (hsettled : s.debouncer.pending = false) :
    Throughout Grounded s.journal ∧ ∃ showing, lastShown? s.journal = some showing ∧
      showing.view.EditedTo s.browser.view ∧ UpToDate s showing.load ∧
      showing.config.RetypedTo s.browser.config := by
  obtain ⟨hpath, hwithin⟩ := course_leads promptRealm_laws hcourse
    (within_start _ provider hbackends)
  have htraced := Traced.leads hpath (traced_start _ _ _ rfl)
  have hfaithful : Faithful ⟨.free, s⟩ := Faithful.leads hpath (timely_start _ _ _)
    (.of_unshown (by simp [start, Browser.start]))
  obtain ⟨showing, hlast, hview, -, -, hupToDate⟩ := hfaithful hshown
  have hnone : s.debouncer.latest = none :=
    Option.isNone_iff_eq_none.mp (Option.isSome_eq_false_iff.mp hsettled)
  have hahead := hwithin.orderly.runsAhead_of_none hnone
  have hnot : ¬ Behind ⟨.free, s⟩ := by
    rintro (hhand | hsome)
    · cases hhand
    · exact hsome hahead
  obtain ⟨hload, hconfig⟩ := hupToDate.resolve_left hnot
  exact ⟨htraced.grounded, showing, hlast, hview, hload, hconfig⟩

/-! ## A page that was overtaken -/

/-- A browser of one document. -/
def oneDocument : Session :=
  .start (.start .default (some "main") (some "docs") (some 0) none)
    [.ofSource (.store ⟨[("docs", [⟨.int 1, [("id", .int 1)]⟩])], []⟩ true)] none

/-- The order is turned while a load is out. -/
def turnedMeanwhile : Session :=
  [.backend 0 .hold, .load .null false,
    .dispatch (.object [("kind", .text "set_sort"), ("attribute", .text "id"),
      ("direction", .text "desc")]),
    .backend 0 (.release false)].foldl (fun s command => s.ask 1 command) oneDocument

theorem turnedMeanwhile_shown : turnedMeanwhile.browser.state = .success ∧
    turnedMeanwhile.debouncer.pending = false := by
  decide +kernel

/-- What is shown is the page in the new order. -/
theorem turned_page_is_current :
    ∃ showing, lastShown? turnedMeanwhile.journal = some showing ∧
      UpToDate turnedMeanwhile showing.load ∧
      showing.config.RetypedTo turnedMeanwhile.browser.config := by
  obtain ⟨hshown, hsettled⟩ := turnedMeanwhile_shown
  have hprompt : ∀ b ∈ oneDocument.backends, b.Prompt := by
    refine List.forall_mem_singleton.mpr ⟨⟨_, _, rfl, fun name schema h => ?_⟩, rfl⟩
    cases h
  have hcourse : ReflTransGen (Step Command.LeavesSchemas) oneDocument turnedMeanwhile := by
    refine course_foldl_ask (fun command hmem => ?_) oneDocument
    simp only [List.mem_cons, List.not_mem_nil, or_false] at hmem
    rcases hmem with rfl | rfl | rfl | rfl <;> trivial
  obtain ⟨-, showing, hlast, -, hload, hconfig⟩ := shown_page_is_current .default (some "main")
    (some "docs") (some 0) none oneDocument.backends none turnedMeanwhile hprompt hcourse hshown
    hsettled
  exact ⟨showing, hlast, hload, hconfig⟩

end Session

end Folio
