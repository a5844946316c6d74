-- Documents that are changed during a load. A load that waits when documents are deleted or changed is
-- not told. What it asks for afterwards is answered as the documents are then; but a load that waits
-- for its page goes on with the number of documents that it was told before.
import Folio.Proofs.Deletions
import Folio.Proofs.LoadCustoms
import Folio.Proofs.Switches

namespace Folio

/-- Whether documents are deleted or changed. -/
def Command.mutates : Command → Bool
  | .delete _ | .update _ _ => true
  | _ => false

/-- The number of documents of a query was asked for. -/
def Sent.asksNumber (sent : Sent) (collection : String) (config : QueryConfig) : Prop :=
  sent.collection = collection ∧ sent.request = (Query.compileCount config).toFields

/-- The number of documents of a query has been told. -/
def NumberTold (given : List Yield) (collection : String) (config : QueryConfig) (n : Int) : Prop :=
  ∃ (sent : Sent) (response : Value), .answer sent response ∈ given ∧
    sent.asksNumber collection config ∧ View.countIn Query.countLabel response = .ok n

section

variable {given more : List Yield} {collection : String} {config : QueryConfig} {n : Int}

theorem NumberTold.mono (h : NumberTold given collection config n) (hmore : given ⊆ more) :
    NumberTold more collection config n := by
  obtain ⟨sent, response, hanswer, hrest⟩ := h
  exact ⟨sent, response, hmore hanswer, hrest⟩

/-- Whether a number of documents was asked for. -/
def Yield.counts : Yield → Bool
  | answer sent _ => !(Fields.get sent.request "aggregate_by").isNull
  | deleted _ _ => false

theorem NumberTold.counts (h : NumberTold given collection config n) :
    ∃ y ∈ given, y.counts = true := by
  obtain ⟨sent, response, hanswer, ⟨-, hrequest⟩, -⟩ := h
  refine ⟨_, hanswer, ?_⟩
  unfold Yield.counts
  dsimp only
  rw [hrequest, Request.get_toFields]
  rfl

end

namespace Session

variable {o s t u : Session} {load : Load} {config : QueryConfig} {n : Int}

/-! ## Where a number comes from -/

/-- A load that is not out of date waits for a page of a query, and has been told the number. -/
def Carries (o : Session) (load : Load) (config : QueryConfig) (n : Int) : Prop :=
  o.browser.generation ≤ load.generation ∧
    ∃ sent plan, .page sent load plan n ∈ o.pauses ∧ plan.config = config

/-- A load has begun since, or it was waiting for a schema: it had asked for nothing else. -/
def Unasked (o s : Session) (load : Load) : Prop :=
  .begun load ∈ o.since s ∨ ∃ query, .schema query load ∈ o.pauses

/-- The number was told since, or it was known or carried then; and documents may have been deleted
since. -/
inductive ToldSince (o : Session) (given : List Yield) : Int → Prop where
  | counted {collection : String} {config : QueryConfig} {n : Int}
      (counted : NumberTold given collection config n) : ToldSince o given n
  | known {n : Int} (known : o.browser.unfiltered = some n) : ToldSince o given n
  | carried {load : Load} {config : QueryConfig} {n : Int} (carried : o.Carries load config n) :
      ToldSince o given n
  | deleted {n : Int} {backend k : Nat} (told : ToldSince o given n)
      (deleted : .deleted backend k ∈ given) : ToldSince o given (max 0 (n - k))

/-- What the number of a load rests on. If the load had asked for anything before, the number was
told since for its query, unless the load carries it. -/
def Rests (o s : Session) (load : Load) (config : QueryConfig) (n : Int) : Prop :=
  NumberTold (o.given s) load.collection config n ∨ o.Carries load config n ∨
    Unasked o s load ∧ ToldSince o (o.given s) n

/-- What is shown was given since, but for a number that the load carries. -/
structure Abreast (o s : Session) (showing : Showing) : Prop where
  rows : ∃ backend, Supplied backend (o.given s) showing.view.rows
  total : ∃ n, showing.view.total = some n ∧ Rests o s showing.load showing.config n

theorem ToldSince.mono {given more : List Yield} (h : ToldSince o given n) (hmore : given ⊆ more) :
    ToldSince o more n := by
  induction h with
  | counted counted => exact .counted (counted.mono hmore)
  | known known => exact .known known
  | carried carried => exact .carried carried
  | deleted told deleted ih => exact .deleted ih (hmore deleted)

theorem Unasked.mono (h : Unasked o s load) (hst : s.journal <+: t.journal) : Unasked o t load :=
  h.imp_left fun hbegun => since_mono hst hbegun

theorem Rests.mono (h : Rests o s load config n) (hst : Grown s t) : Rests o t load config n := by
  have hmore := given_mono (o := o) hst.yielded
  rcases h with hcounted | hcarried | ⟨hunasked, htold⟩
  · exact .inl (hcounted.mono hmore)
  · exact .inr (.inl hcarried)
  · exact .inr (.inr ⟨hunasked.mono hst.journal, htold.mono hmore⟩)

theorem Rests.told (h : Rests o s load config n) : ToldSince o (o.given s) n := by
  rcases h with hcounted | hcarried | ⟨-, htold⟩
  · exact .counted hcounted
  · exact .carried hcarried
  · exact htold

theorem Abreast.mono {showing : Showing} (h : Abreast o s showing) (hst : Grown s t) :
    Abreast o t showing := by
  obtain ⟨⟨backend, hrows⟩, n, htotal, hrests⟩ := h
  exact ⟨⟨backend, hrows.mono (given_mono hst.yielded)⟩, n, htotal, hrests.mono hst⟩

/-! ## The custom after a change of documents -/

/-- What a load waits for is as it should be after a change of documents. -/
def Follows (o s : Session) : LoadPause → Prop
  | .schema _ load => Unasked o s load
  | .count sent load plan => sent.asksNumber load.collection plan.config
  | .page _ load plan n => load.generation < o.browser.generation ∨ Rests o s load plan.config n

/-- All that is shown and kept has been given since a change of documents, but for numbers that were
known or carried then. -/
structure Renews (o s : Session) : Prop where
  grown : Grown o s
  generation : o.browser.generation ≤ s.browser.generation
  single : s.Single
  unfiltered : ∀ n, s.browser.unfiltered = some n → ToldSince o (o.given s) n
  shown : ∀ showing, .shown showing ∈ o.since s → Abreast o s showing
  pages : ∀ page ∈ s.browser.cache.pages, ∃ showing, .shown showing ∈ o.since s ∧
    page.rows = showing.view.rows ∧ page.total = showing.view.total
  waits : ∀ p ∈ s.pauses, Follows o s p

theorem Follows.mono {p : LoadPause} (h : Follows o s p) (hst : Grown s t) : Follows o t p := by
  cases p with
  | schema query load => exact Unasked.mono h hst.journal
  | count sent load plan => exact h
  | page sent load plan n => exact h.imp_right (·.mono hst)

/-- Nothing is shown, and nobody has to wait. -/
theorem Renews.keep (h : Renews o s) (hst : Grown s t)
    (generation : s.browser.generation ≤ t.browser.generation) (actions : t.actions ⊆ s.actions)
    (unfiltered : ∀ n, t.browser.unfiltered = some n → ToldSince o (o.given t) n)
    (pages : t.browser.cache.pages ⊆ s.browser.cache.pages)
    (shown : ∀ showing, .shown showing ∉ s.since t) : Renews o t where
  grown := h.grown.trans hst
  generation := h.generation.trans generation
  single := fun w hw => h.single w (actions hw)
  unfiltered := unfiltered
  shown := by
    intro showing hmem
    rw [since_trans h.grown.journal hst.journal] at hmem
    exact (h.shown showing ((List.mem_append.mp hmem).resolve_right (shown showing))).mono hst
  pages := by
    intro page hpage
    obtain ⟨showing, hshown, hsame⟩ := h.pages page (pages hpage)
    exact ⟨showing, since_mono hst.journal hshown, hsame⟩
  waits := fun p hp => (h.waits p (mem_pauses_of_actions actions hp)).mono hst

theorem Renews.loosens (h : Renews o s) (hst : Loosens s t) : Renews o t := by
  refine h.keep ⟨hst.yielded, hst.journal⟩ hst.generation hst.actions (fun n hn => ?_) hst.pages
    hst.shown
  rcases hst.unfiltered with hsame | hnone
  · exact (h.unfiltered n (hsame ▸ hn)).mono (given_mono hst.yielded)
  · rw [hnone] at hn
    cases hn

/-- A page is shown that is up to date. -/
theorem Renews.present {showing : Showing} (h : Renews o s) (hst : Shows s t showing)
    (hshowing : Abreast o t showing) : Renews o t where
  grown := h.grown.trans hst.grown
  generation := h.generation.trans (Nat.le_of_eq (congrArg Footing.generation hst.footing).symm)
  single := fun w hw => h.single w (hst.actions hw)
  unfiltered := by
    intro n hn
    rw [hst.unfiltered] at hn
    split at hn
    · obtain ⟨m, hm, hrests⟩ := hshowing.total
      rw [hm] at hn
      exact Option.some.inj hn ▸ hrests.told
    · exact (h.unfiltered n hn).mono (given_mono hst.yielded)
  shown := by
    intro other hmem
    rw [since_trans h.grown.journal hst.journal] at hmem
    rcases List.mem_append.mp hmem with hold | hnew
    · exact (h.shown other hold).mono hst.grown
    · rw [(hst.since other).mp hnew]
      exact hshowing
  pages := by
    intro page hpage
    rcases hst.pages page hpage with hold | hnew
    · obtain ⟨other, hother, hsame⟩ := h.pages page hold
      exact ⟨other, since_mono hst.journal hother, hsame⟩
    · exact ⟨showing, mem_since_right h.grown.journal hst.journal ((hst.since showing).mpr rfl), hnew⟩
  waits := fun p hp => (h.waits p (mem_pauses_of_actions hst.actions hp)).mono hst.grown

/-- Whoever waits may have become ready, and somebody else may wait. -/
theorem Renews.of_browser (h : Renews o s) (browser : t.browser = s.browser)
    (yielded : t.yielded = s.yielded) (journal : t.journal = s.journal) (single : t.Single)
    (waits : ∀ p ∈ t.pauses, Follows o s p) : Renews o t := by
  have hgrown : Grown s t := ⟨⟨[], by simp [yielded]⟩, ⟨[], by simp [journal]⟩⟩
  have hgiven : o.given t = o.given s := by
    unfold given
    rw [yielded]
  have hsince : o.since t = o.since s := by
    unfold since
    rw [journal]
  refine ⟨h.grown.trans hgrown, browser ▸ h.generation, single, ?_, ?_, ?_, ?_⟩
  · rw [browser, hgiven]
    exact h.unfiltered
  · rw [hsince]
    exact fun showing hmem => (h.shown showing hmem).mono hgrown
  · rw [browser, hsince]
    exact h.pages
  · exact fun p hp => (waits p hp).mono hgrown

theorem Renews.updateBackend (h : Renews o s) (number : Nat) (f : Backend → Backend) :
    Renews o (s.updateBackend number f) := by
  unfold Session.updateBackend
  split
  · exact h.of_browser rfl rfl rfl h.single h.waits
  · exact h

theorem useBackend_unfiltered (s : Session) (connection : String) (backend : Nat) :
    (s.useBackend connection backend).browser.unfiltered = s.browser.unfiltered ∨
      (s.useBackend connection backend).browser.unfiltered = none := by
  unfold Session.useBackend update note
  dsimp only
  split
  · exact .inr rfl
  · exact .inl rfl

theorem Renews.useBackend (h : Renews o s) (connection : String) (backend : Nat) :
    Renews o (s.useBackend connection backend) := by
  obtain ⟨cache, unfiltered, hbrowser, hpages⟩ := useBackend_browser s connection backend
  have hjournal : (s.useBackend connection backend).journal = s.journal ++ [.connected backend] := rfl
  refine h.keep ⟨List.prefix_rfl, ⟨_, hjournal.symm⟩⟩ ?_ (fun _ => id) (fun n hn => ?_) ?_ ?_
  · rw [hbrowser]
  · rcases useBackend_unfiltered s connection backend with hsame | hnone
    · exact h.unfiltered n (hsame ▸ hn)
    · rw [hnone] at hn
      cases hn
  · rw [hbrowser]
    exact hpages
  · intro showing hmem
    rw [since_eq hjournal] at hmem
    simp at hmem

theorem Renews.lessen (h : Renews o s) (kept : List Fields) (deleted : Nat) :
    Renews o (s.lessen kept deleted) := by
  have hyielded : (s.lessen kept deleted).yielded =
    s.yielded ++ [.deleted (s.browser.executor.getD 0) deleted] := rfl
  have hmore : s.yielded <+: (s.lessen kept deleted).yielded := ⟨_, hyielded.symm⟩
  refine h.keep ⟨hmore, List.prefix_rfl⟩ (Nat.le_refl _) (fun _ => id) (fun n hn => ?_)
    (fun _ => id) (SamePages.refl s).shown
  obtain ⟨m, hm, rfl⟩ := Option.map_eq_some_iff.mp hn
  exact .deleted ((h.unfiltered m hm).mono (given_mono hmore))
    (mem_given_new h.grown.yielded hyielded)

/-! ## Loads after a change of documents -/

/-- What is customary in a load after a change of documents. -/
def renewing (o : Session) : LoadCustom where
  sound := Renews o
  ready := Unasked o
  told := fun s load plan n =>
    load.generation < o.browser.generation ∨ Rests o s load plan.config n
  waits := Follows o

theorem renewing_laws (o : Session) : (renewing o).Laws where
  same := fun hst hs => hs.loosens hst.loosens
  ready_same := fun hst hready => Unasked.mono hready hst.journal
  told_same := fun hst => Or.imp_right (·.mono ⟨hst.yielded, hst.journal⟩)
  begins := by
    intro s load hs
    have hjournal : ((s.update (·.begin)).note (.begun load)).journal = s.journal ++ [.begun load] := rfl
    refine .inl (mem_since_right hs.grown.journal ⟨_, hjournal.symm⟩ ?_)
    rw [since_eq hjournal]
    exact List.mem_singleton_self _
  schema := fun _ hready => hready
  attributes := fun hwaits => hwaits
  known := fun hs hready hknown =>
    .inr (.inr (.inr ⟨hready, hs.unfiltered _ (Browser.unfiltered_of_known hknown)⟩))
  count := fun _ _ _ => ⟨rfl, rfl⟩
  counted := by
    intro s t sent load plan response n hs hwaits hst hyielded hcount
    exact .inr (.inl ⟨sent, response, mem_given_new hs.grown.yielded hyielded, hwaits, hcount⟩)
  page := fun _ htold => htold
  fetched := by
    intro s t u sent load plan n response view hs hwaits hgeneration hst hyielded hrows htotal hshows
    have hgrown : Grown s t := ⟨hst.yielded, hst.journal⟩
    have hrests := Or.resolve_left hwaits (Nat.not_lt.mpr (hgeneration ▸ hs.generation))
    refine (hs.loosens hst.loosens).present hshows ⟨⟨sent.backend, ?_⟩, n, htotal, ?_⟩
    · refine Supplied.mono ?_ (given_mono hshows.grown.yielded)
      exact ⟨sent, response, mem_given_new hs.grown.yielded hyielded, rfl, hrows⟩
    · exact hrests.mono (hgrown.trans hshows.grown)
  recalled := by
    intro s t load config page hs hready hkept hshows
    obtain ⟨showing, hshown, hrows, htotal⟩ := hs.pages page hkept
    obtain ⟨⟨backend, hsupplied⟩, n, hn, hrests⟩ := hs.shown showing hshown
    refine hs.present hshows (Abreast.mono ⟨⟨backend, ?_⟩, n, ?_, ?_⟩ hshows.grown)
    · exact hrows ▸ hsupplied
    · exact htotal.trans hn
    · exact .inr (.inr ⟨hready, hrests.told⟩)

theorem renewing_lasts (o : Session) : (renewing o).Lasts where
  loosens := fun hst hs => hs.loosens hst
  connect := fun connection backend hs => hs.useBackend connection backend
  delete := fun kept deleted hs => hs.lessen kept deleted
  update := fun number f hs => hs.updateBackend number f
  waiting := fun hs => hs.waits
  waits_same := fun hst _ hp => hp.mono ⟨hst.yielded, hst.journal⟩
  single := fun hs => hs.single
  park := by
    intro s w hs hpause hsingle
    refine hs.of_browser rfl rfl rfl (fun v hv => ?_) fun p hp => ?_
    · rcases mem_actions_park hv with hmem | rfl
      · exact hs.single v hmem
      · exact hsingle
    · exact (mem_pauses_park hp).elim (hs.waits p) (hpause p)

theorem Renews.after (h : Renews o s) (operations : List Operation) :
    Renews o (s.after operations) :=
  (renewing_lasts o).after (renewing_laws o) h operations

theorem renews_start (browser : Browser) (backends : List Backend) (provider : Option Provider)
    (hpages : browser.cache.pages = []) :
    Renews (.start browser backends provider) (.start browser backends provider) where
  grown := ⟨List.prefix_rfl, List.prefix_rfl⟩
  generation := Nat.le_refl _
  single := fun _ hw => absurd hw List.not_mem_nil
  unfiltered := fun _ hn => .known hn
  shown := fun _ hmem => absurd hmem List.not_mem_nil
  pages := fun _ hpage => absurd hpage (hpages ▸ List.not_mem_nil)
  waits := fun _ hp => absurd hp List.not_mem_nil

/-! ## A change of documents -/

/-- A change of documents that succeeds drops all pages that are kept, and tells nobody who waits. -/
theorem mutation_done {command : Command} {reply : Reply} (hmutates : command.mutates = true)
    (h : s.perform command = (t, .done reply)) :
    t.actions = s.actions ∧ t.browser.cache.pages = [] := by
  cases command with
  | delete given =>
    obtain ⟨keys, backend, collection, b, n, -, -, -, -, -, -, -, rfl⟩ := delete_done h
    exact ⟨rfl, rfl⟩
  | update key changes =>
    have hupdated : s.updateDocument key changes = (t, .done reply) := h
    unfold updateDocument at hupdated
    obtain ⟨backend, collection, b, changed, -, -, -, -, hchanged⟩ := write_done hupdated
    cases hchanged
    exact ⟨rfl, rfl⟩
  | _ => cases hmutates

/-- So from then on there is nothing stale but the numbers that are carried. -/
theorem renews_mutated {command : Command} {reply : Reply} {m : Session} (hs : Renews o s)
    (hmutates : command.mutates = true) (h : s.perform command = (m, .done reply))
    (hactions : t.actions = m.actions) (hpages : t.browser.cache.pages = m.browser.cache.pages) :
    Renews t t := by
  obtain ⟨hwaiting, hnone⟩ := mutation_done hmutates h
  rw [← hactions] at hwaiting
  refine ⟨⟨List.prefix_rfl, List.prefix_rfl⟩, Nat.le_refl _, ?_, fun _ => .known, ?_, ?_, ?_⟩
  · exact fun w hw => hs.single w (hwaiting ▸ hw)
  · exact fun showing hmem => absurd hmem ((SamePages.refl t).shown showing)
  · exact fun page hpage => absurd hpage (hpages.trans hnone ▸ List.not_mem_nil)
  · intro p hp
    have hbefore := hs.waits p (mem_pauses_of_actions (fun w hw => hwaiting ▸ hw) hp)
    cases p with
    | schema query load => exact .inr ⟨query, hp⟩
    | count sent load plan => exact hbefore
    | page sent load plan n =>
      rcases Nat.lt_or_ge load.generation t.browser.generation with hstale | hcurrent
      · exact .inl hstale
      · exact .inr (.inr (.inl ⟨hcurrent, sent, plan, hp, rfl⟩))

/-- In every run in which documents are deleted or changed, whatever a load shows or keeps from then
on has its rows from an answer that was given after it. Its number was told after it, too, or it is
the number that was known then; unless the load waited for its page when the documents were deleted
or changed: such a load carries the number that it was told before. -/
theorem only_carried_numbers_are_stale (settings : Settings) (first collection : Option String)
    (executor : Option Nat) (archive : Option Archive) (backends : List Backend)
    (provider : Option Provider) (before later : List Operation) (number : Nat) (command : Command)
    (reply : Reply) (s t u : Session)
    (hs : s = (start (.start settings first collection executor archive) backends provider).after
      before)
    (hmutates : command.mutates = true) (hdone : (s.perform command).2 = .done reply)
    (ht : t = s.operate (.ask number command)) (hu : u = t.after later) :
    (∀ showing, .shown showing ∈ t.since u → Abreast t u showing) ∧
      ∀ page ∈ u.browser.cache.pages, ∃ showing, .shown showing ∈ t.since u ∧
        page.rows = showing.view.rows ∧ page.total = showing.view.total := by
  have hbefore := (renews_start (.start settings first collection executor archive) backends provider
    rfl).after before
  rw [← hs] at hbefore
  have hperform : s.perform command = ((s.perform command).1, .done reply) := by rw [← hdone]
  rw [operate_ask_done number hperform] at ht
  have hrenews : Renews t t := by
    refine renews_mutated hbefore hmutates hperform ?_ ?_ <;> rw [ht]
    rfl
  have hafter := hu ▸ hrenews.after later
  exact ⟨hafter.shown, hafter.pages⟩

/-! ## A document that is deleted during a load -/

/-- A document is deleted. -/
def oneDeleted : Command := .delete (.list [.int 1])

/-- A load that was told the number of documents asks for its page, and has to wait. -/
def heldPage : List Operation := heldLoad ++ [.ask 3 (.backend 0 (.release true)), .job]

theorem goingOn_counts :
    let t := (oneOfTwo.after heldLoad).operate (.ask 4 oneDeleted)
    let u := t.after goingOn
    u.matchingNumber? = some 1 ∧
      ((t.since u).filterMap LoadEvent.showing?).map (·.view.total) = [some 1] := by
  decide +kernel

/-- If a document is deleted while a load waits for the number of documents, the load shows how many
there are left. -/
theorem number_asked_for_is_of_those_left :
    let t := (oneOfTwo.after heldLoad).operate (.ask 4 oneDeleted)
    let u := t.after goingOn
    u.matchingNumber? = some 1 ∧ ∃ showing, .shown showing ∈ t.since u ∧
      showing.view.total = some 1 ∧ Abreast t u showing := by
  obtain ⟨hleft, hshown⟩ := goingOn_counts
  obtain ⟨showing, hshows, htotal⟩ := LoadEvent.shown_of_totals hshown
  refine ⟨hleft, showing, hshows, htotal, ?_⟩
  exact (only_carried_numbers_are_stale { Settings.default with pageSize := 1 } (some "main")
    (some "docs") (some 0) none oneOfTwo.backends none heldLoad goingOn 4 oneDeleted (.number 1) _ _ _
    rfl rfl rfl rfl rfl).1 showing hshows

theorem goingOn_carries :
    let s := oneOfTwo.after heldPage
    let t := s.operate (.ask 4 oneDeleted)
    let u := t.after goingOn
    (t.given u).any Yield.counts = false ∧ t.matchingNumber? = some 1 ∧ u.matchingNumber? = some 1 ∧
      ((t.since u).filterMap LoadEvent.showing?).map (·.view.total) = [some 2] ∧
      u.browser.view.total = some 2 ∧ u.browser.unfiltered = some 2 ∧
      u.browser.cache.pages.map (·.total) = [some 2] := by
  decide +kernel

/-- If a document is deleted while a load waits for its page, the load shows and keeps how many there
were before, though nobody has told that number since. -/
theorem carried_number_is_shown_and_kept :
    let s := oneOfTwo.after heldPage
    let t := s.operate (.ask 4 oneDeleted)
    let u := t.after goingOn
    (s.perform oneDeleted).2 = .done (.number 1) ∧ t.matchingNumber? = some 1 ∧
      u.matchingNumber? = some 1 ∧
      (∀ collection config n, ¬ NumberTold (t.given u) collection config n) ∧
      (∃ showing, .shown showing ∈ t.since u ∧ showing.view.total = some 2) ∧
      u.browser.view.total = some 2 ∧ u.browser.unfiltered = some 2 ∧
      u.browser.cache.pages.map (·.total) = [some 2] := by
  obtain ⟨hnone, hleft, hstill, hshown, htotal, hunfiltered, hkept⟩ := goingOn_carries
  refine ⟨rfl, hleft, hstill, fun _ _ n hcounted => ?_, LoadEvent.shown_of_totals hshown, htotal,
    hunfiltered, hkept⟩
  obtain ⟨yield, hmem, hcounts⟩ := hcounted.counts
  exact List.any_eq_false.mp hnone yield hmem hcounts

end Session

end Folio
