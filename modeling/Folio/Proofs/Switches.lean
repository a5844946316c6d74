-- Connections do not mix. Once another backend is used, whatever is shown has its rows and its number
-- of documents from that backend, unless a load that is not out of date has a request out at another
-- one: nothing tells such a load that it has come too late.
import Folio.Proofs.Answers
import Folio.Proofs.Customs
import Folio.Proofs.GivenPages

namespace Folio

/-- The request that a backend has answered. -/
def Yield.request? (backend : Nat) : Yield → Option Fields
  | answer sent _ => if sent.backend = backend then some sent.request else none
  | deleted _ _ => none

def LoadEvent.connects : LoadEvent → Bool
  | connected _ => true
  | _ => false

namespace Session

variable {o s t u : Session} {b : Nat}

/-! ## The custom after a switch -/

/-- Whoever waits has asked for one thing. -/
def Single (s : Session) : Prop := ∀ w ∈ s.actions, ∀ c, w.owner = .client c → c.todo = []

/-- No other backend has been used since. -/
def Unswitched (o s : Session) : Prop := ∀ backend, .connected backend ∉ o.since s

/-- A backend has been used since, and whatever waits for it may go on. -/
structure Upheld (o : Session) (b : Nat) (s : Session) : Prop where
  served : Served o b s
  fitting : ∀ p ∈ s.pauses, Fitting o b s p

/-- Whoever waits has asked for one thing; and after a switch, as long as no other backend is used,
the backend gives all that is shown. -/
structure Settled (switched : Prop) (o : Session) (b : Nat) (s : Session) : Prop where
  single : s.Single
  grown : switched → Grown o s
  upheld : switched → Unswitched o s → Upheld o b s

theorem Unswitched.earlier (hst : s.journal <+: t.journal) (h : Unswitched o t) :
    Unswitched o s := fun backend hmem => h backend (since_mono hst hmem)

/-- Nothing is shown, and nobody has to wait. -/
theorem Settled.loosens {switched : Prop} (h : Settled switched o b s) (hst : Loosens s t) :
    Settled switched o b t where
  single := fun w hw => h.single w (hst.actions hw)
  grown := fun hswitched => (h.grown hswitched).trans ⟨hst.yielded, hst.journal⟩
  upheld := by
    intro hswitched hnone
    have hos := h.grown hswitched
    obtain ⟨hserved, hfitting⟩ := h.upheld hswitched (hnone.earlier hst.journal)
    refine ⟨hserved.loosens hos hst, fun p hp => ?_⟩
    exact (hfitting p (mem_pauses_of_actions hst.actions hp)).mono hst.generation hst.yielded

/-- A page is shown that the backend has given. -/
theorem Settled.present {switched : Prop} {showing : Showing} (h : Settled switched o b s)
    (hst : Shows s t showing) (hgiven : switched → Unswitched o t →
      GivenBy b (o.given t) showing.view.rows showing.view.total) : Settled switched o b t where
  single := fun w hw => h.single w (hst.actions hw)
  grown := fun hswitched => (h.grown hswitched).trans hst.grown
  upheld := by
    intro hswitched hnone
    obtain ⟨hserved, hfitting⟩ := h.upheld hswitched (hnone.earlier hst.journal)
    refine ⟨hserved.present (h.grown hswitched) hst (hgiven hswitched hnone), fun p hp => ?_⟩
    exact (hfitting p (mem_pauses_of_actions hst.actions hp)).mono
      (Nat.le_of_eq (congrArg Footing.generation hst.footing).symm) hst.yielded

/-- Neither the browser nor the records have changed. -/
theorem Settled.of_browser {switched : Prop} (h : Settled switched o b s)
    (browser : t.browser = s.browser) (yielded : t.yielded = s.yielded)
    (journal : t.journal = s.journal) (single : t.Single)
    (fitting : switched → Unswitched o s → ∀ p ∈ t.pauses, Fitting o b s p) :
    Settled switched o b t := by
  have hgiven : o.given t = o.given s := by
    unfold given
    rw [yielded]
  have hsince : o.since t = o.since s := by
    unfold since
    rw [journal]
  refine ⟨single, fun hswitched => ?_, fun hswitched hnone => ?_⟩
  · exact ⟨yielded ▸ (h.grown hswitched).yielded, journal ▸ (h.grown hswitched).journal⟩
  · unfold Unswitched at hnone
    rw [hsince] at hnone
    have hserved := (h.upheld hswitched hnone).served
    refine ⟨⟨browser ▸ hserved.executor, ?_, ?_, ?_⟩, fun p hp => ?_⟩
    · rw [browser, hgiven]
      exact hserved.unfiltered
    · rw [browser, hgiven]
      exact hserved.pages
    · rw [hsince, hgiven]
      exact hserved.shown
    · refine (fitting hswitched hnone p hp).mono (browser ▸ Nat.le_refl _) ?_
      rewrite [yielded]
      exact List.prefix_rfl

theorem Settled.updateBackend {switched : Prop} (h : Settled switched o b s) (number : Nat)
    (f : Backend → Backend) : Settled switched o b (s.updateBackend number f) := by
  unfold Session.updateBackend
  split
  · exact h.of_browser rfl rfl rfl h.single fun hswitched hnone =>
      (h.upheld hswitched hnone).fitting
  · exact h

theorem Settled.useBackend {switched : Prop} (h : Settled switched o b s) (connection : String)
    (backend : Nat) : Settled switched o b (s.useBackend connection backend) := by
  have hjournal : (s.useBackend connection backend).journal = s.journal ++ [.connected backend] := rfl
  have hgrown : switched → Grown o (s.useBackend connection backend) := fun hswitched =>
    (h.grown hswitched).trans ⟨List.prefix_rfl, ⟨_, hjournal.symm⟩⟩
  refine ⟨h.single, hgrown, fun hswitched hnone => ?_⟩
  refine absurd ?_ (hnone backend)
  refine mem_since_right (h.grown hswitched).journal ⟨_, hjournal.symm⟩ ?_
  rw [since_eq hjournal]
  exact List.mem_singleton_self _

/-- Documents that the backend has deleted are taken off the number that it has told. -/
theorem Settled.lessen {switched : Prop} (h : Settled switched o b s) (kept : List Fields)
    (deleted : Nat) : Settled switched o b (s.lessen kept deleted) := by
  have hyielded : (s.lessen kept deleted).yielded =
    s.yielded ++ [.deleted (s.browser.executor.getD 0) deleted] := rfl
  have hmore : s.yielded <+: (s.lessen kept deleted).yielded := ⟨_, hyielded.symm⟩
  refine ⟨h.single, fun hswitched => (h.grown hswitched).trans ⟨hmore, List.prefix_rfl⟩, ?_⟩
  intro hswitched hnone
  obtain ⟨hserved, hfitting⟩ := h.upheld hswitched hnone
  have hgrows := given_mono (o := o) hmore
  refine ⟨⟨hserved.executor, ?_, ?_, ?_⟩, ?_⟩
  · intro n hn
    obtain ⟨m, hm, rfl⟩ := Option.map_eq_some_iff.mp hn
    refine .deleted ((hserved.unfiltered m hm).mono hgrows) ?_
    refine mem_given_new (h.grown hswitched).yielded ?_
    rw [hyielded, hserved.executor, Option.getD_some]
  · exact fun page hpage => (hserved.pages page hpage).mono hgrows
  · exact fun showing hmem => (hserved.shown showing hmem).mono hgrows
  · exact fun p hp => (hfitting p hp).mono (Nat.le_refl _) hmore

/-- What is customary in a load after a switch. -/
def settlingLoads (switched : Prop) (o : Session) (b : Nat) : LoadCustom where
  sound := Settled switched o b
  ready := fun _ _ => True
  told := fun s load _ n => switched → Unswitched o s →
    load.generation < s.browser.generation ∨ CountedBy b (o.given s) n
  waits := fun s p => switched → Unswitched o s → Fitting o b s p

theorem settlingLoads_laws (switched : Prop) (o : Session) (b : Nat) :
    (settlingLoads switched o b).Laws where
  same := fun hst hs => hs.loosens hst.loosens
  ready_same := fun _ _ => trivial
  told_same := by
    intro s t load plan n hst htold hswitched hnone
    have hgeneration : t.browser.generation = s.browser.generation :=
      congrArg Footing.generation hst.footing
    rw [hgeneration]
    exact (htold hswitched (hnone.earlier hst.journal)).imp_right (·.mono (given_mono hst.yielded))
  begins := fun _ _ => trivial
  schema := fun _ _ _ _ => trivial
  attributes := fun _ => trivial
  known := fun hs _ hknown hswitched hnone =>
    .inr ((hs.upheld hswitched hnone).served.unfiltered _ (Browser.unfiltered_of_known hknown))
  count := by
    intro s load plan hs _ hswitched hnone
    refine .inr ⟨?_, plan.config, rfl⟩
    rw [(hs.upheld hswitched hnone).served.executor, Option.getD_some]
  counted := by
    intro s t sent load plan response n hs hwaits hst hyielded hcount hswitched hnone
    have hgeneration : t.browser.generation = s.browser.generation :=
      congrArg Footing.generation hst.footing
    rcases hwaits hswitched (hnone.earlier hst.journal) with hstale | ⟨hours, config, hrequest⟩
    · exact .inl (hgeneration ▸ hstale)
    · exact .inr (.counted (mem_given_new (hs.grown hswitched).yielded hyielded) hours hrequest hcount)
  page := by
    intro s load plan n hs htold hswitched hnone
    refine (htold hswitched hnone).imp_right fun hcounted => ⟨?_, hcounted⟩
    rw [(hs.upheld hswitched hnone).served.executor, Option.getD_some]
  fetched := by
    intro s t u sent load plan n response view hs hwaits hgeneration hst hyielded hrows htotal hshows
    refine (hs.loosens hst.loosens).present hshows fun hswitched hnone => ?_
    have hbefore := hnone.earlier (hst.journal.trans hshows.journal)
    obtain ⟨hours, hcounted⟩ :=
      (hwaits hswitched hbefore).resolve_left (Nat.not_lt.mpr (Nat.le_of_eq hgeneration))
    refine GivenBy.mono ⟨⟨sent, response, ?_, hours, hrows⟩, n, htotal, ?_⟩
      (given_mono hshows.yielded)
    · exact mem_given_new (hs.grown hswitched).yielded hyielded
    · exact hcounted.mono (given_mono hst.yielded)
  recalled := by
    intro s t load config page hs _ hkept hshows
    refine hs.present hshows fun hswitched hnone => ?_
    exact ((hs.upheld hswitched (hnone.earlier hshows.journal)).served.pages page hkept).mono
      (given_mono hshows.yielded)

theorem settlingLoads_lasts (switched : Prop) (o : Session) (b : Nat) :
    (settlingLoads switched o b).Lasts where
  loosens := fun hst hs => hs.loosens hst
  connect := fun connection backend hs => hs.useBackend connection backend
  delete := fun kept deleted hs => hs.lessen kept deleted
  update := fun number f hs => hs.updateBackend number f
  waiting := fun hs p hp hswitched hnone => (hs.upheld hswitched hnone).fitting p hp
  waits_same := by
    intro s t hst p hp hswitched hnone
    have hgeneration : t.browser.generation = s.browser.generation :=
      congrArg Footing.generation hst.footing
    exact (hp hswitched (hnone.earlier hst.journal)).mono (Nat.le_of_eq hgeneration.symm)
      hst.yielded
  single := fun hs => hs.single
  park := by
    intro s w hs hpause hsingle
    refine hs.of_browser rfl rfl rfl ?_ ?_
    · intro v hv
      rcases mem_actions_park hv with hmem | rfl
      · exact hs.single v hmem
      · exact hsingle
    · intro hswitched hnone p hp
      rcases mem_pauses_park hp with hmem | hparked
      · exact (hs.upheld hswitched hnone).fitting p hmem
      · exact hpause p hparked hswitched hnone

theorem settled_start (browser : Browser) (backends : List Backend) (provider : Option Provider)
    (o : Session) (b : Nat) : Settled False o b (.start browser backends provider) :=
  ⟨fun _ hw => absurd hw List.not_mem_nil, False.elim, False.elim⟩

theorem settled_after {switched : Prop} (h : Settled switched o b s) (operations : List Operation) :
    Settled switched o b (s.after operations) :=
  (settlingLoads_lasts switched o b).after (settlingLoads_laws switched o b) h operations

/-- Another connection is made. -/
theorem connected_cases (number : Nat) {connection : String}
    (hconnected : (s.connect connection).2 = .done (.verdict true))
    (hother : s.browser.connection ≠ some connection) :
    ∃ provider backend m, SamePages s m ∧ s.provider = some provider ∧
      (provider.connect connection).2 = .ok backend ∧
      s.operate (.ask number (.connect connection)) =
        { m.useBackend connection backend with
          answered := m.answered ++ [(number, .ok (.verdict true))] } := by
  rcases connect_cases s connection with
    ⟨-, hthere, -⟩ | ⟨-, m, message, -, h⟩ | ⟨-, provider, handed, backend, hprovider, hhanded, h⟩
  · exact absurd hthere hother
  · rw [h] at hconnected
    cases hconnected
  · exact ⟨provider, backend, _, attempted_samePages s handed, hprovider, congrArg Prod.snd hhanded,
      operate_ask_done number h⟩

/-! ## The law -/

/-- In every run in which a connection is made other than the one before: if all requests that are
out then belong to loads that are out of date, whatever is shown from then on, until another
connection is made, has its rows and its number of documents from the backend that the provider has
handed out for it. -/
theorem results_come_from_the_connection (settings : Settings) (first collection : Option String)
    (executor : Option Nat) (archive : Option Archive) (backends : List Backend)
    (provider : Option Provider) (before later : List Operation) (number : Nat) (connection : String)
    (s t u : Session)
    (hs : s = (start (.start settings first collection executor archive) backends provider).after
      before)
    (ht : t = s.operate (.ask number (.connect connection))) (hu : u = t.after later)
    (hconnected : (s.connect connection).2 = .done (.verdict true))
    (hother : s.browser.connection ≠ some connection)
    (hstale : ∀ p ∈ s.pauses, p.isSchema = true ∨ p.load.generation < s.browser.generation)
    (hnone : ∀ backend, .connected backend ∉ t.since u) :
    t.browser.connection = some connection ∧
    ∃ handing b, s.provider = some handing ∧ (handing.connect connection).2 = .ok b ∧
      t.browser.executor = some b ∧
      ∀ showing, .shown showing ∈ t.since u →
        GivenBy b (t.given u) showing.view.rows showing.view.total := by
  obtain ⟨handing, b, m, hsame, hprovider, hhanded, hoperate⟩ :=
    connected_cases number hconnected hother
  have hsingle : s.Single := by
    rw [hs]
    exact (settled_after (settled_start _ backends provider s b) before).single
  have hleft : m.browser.connection ≠ some connection := by
    have hconnection : m.browser.connection = s.browser.connection :=
      congrArg Footing.connection hsame.footing
    rwa [hconnection]
  obtain ⟨hpages, hunfiltered⟩ := useBackend_drops b hleft
  obtain ⟨cache, unfiltered, hbrowser, -⟩ := useBackend_browser m connection b
  rw [hoperate] at ht
  have husing : t.browser = (m.useBackend connection b).browser := by rw [ht]
  have hactions : t.actions ⊆ s.actions := by
    rw [ht]
    exact hsame.actions
  have hgeneration : t.browser.generation = s.browser.generation := by
    rw [husing, hbrowser]
    exact congrArg Footing.generation hsame.footing
  have hserved : Served t b t := by
    refine ⟨?_, fun n hn => ?_, fun page hpage => ?_, fun showing hmem => ?_⟩
    · rw [husing, hbrowser]
    · rw [husing, hunfiltered] at hn
      cases hn
    · rw [husing, hpages] at hpage
      cases hpage
    · exact absurd hmem ((SamePages.refl t).shown showing)
  have hsettled : Settled True t b t := by
    refine ⟨fun w hw => hsingle w (hactions hw), fun _ => ⟨List.prefix_rfl, List.prefix_rfl⟩, ?_⟩
    intro _ _
    refine ⟨hserved, fun p hp => ?_⟩
    have hwaits := hstale p (mem_pauses_of_actions hactions hp)
    rw [← hgeneration] at hwaits
    cases p with
    | schema query load => trivial
    | count sent load plan => exact .inl (hwaits.resolve_left Bool.false_ne_true)
    | page sent load plan total => exact .inl (hwaits.resolve_left Bool.false_ne_true)
  have hafter : Settled True t b u := hu ▸ settled_after hsettled later
  refine ⟨?_, handing, b, hprovider, hhanded, hserved.executor,
    (hafter.upheld trivial hnone).served.shown⟩
  rw [husing, hbrowser]

/-! ## A result of two connections -/

/-- A browser of two connections. A store has one document, the other one has two. -/
def twoConnections : Session :=
  .start (.start .default (some "main") (some "docs") (some 0) none)
    [.ofSource (.store ⟨[("docs", [⟨.int 1, [("id", .int 1)]⟩])], []⟩ false),
      .ofSource (.store ⟨[("docs", [⟨.int 2, [("id", .int 2)]⟩, ⟨.int 3, [("id", .int 3)]⟩])], []⟩
        false)]
    (some (.ofBackends [("other", 1)] 0))

/-- A load asks for the number of documents, and has to wait. -/
def heldLoad : List Operation := [.ask 1 (.backend 0 .hold), .ask 2 (.load .null false)]

/-- The other connection is made. -/
def otherConnection : Operation := .ask 4 (.connect "other")

/-- The load goes on. -/
def goingOn : List Operation := [.ask 5 (.backend 0 (.release false)), .job]

/-- A number that a backend has told was asked for. -/
theorem counted_was_asked {given : List Yield} {n : Int} (h : CountedBy b given n) :
    ∃ request ∈ given.filterMap (Yield.request? b),
      (Fields.get request "aggregate_by").isNull = false := by
  induction h with
  | @counted sent config response n answer target request count =>
    refine ⟨sent.request, List.mem_filterMap.mpr ⟨_, answer, if_pos target⟩, ?_⟩
    rw [request, Request.get_toFields]
    rfl
  | deleted counted deleted ih => exact ih

/-- The other connection is made and is the only one; after it the backend of the other connection
answers one request, which is not for a number of documents, and one result is shown. -/
theorem goingOn_facts :
    let s := twoConnections.after heldLoad
    let t := s.operate otherConnection
    let u := t.after goingOn
    t.browser.executor = some 1 ∧ (t.since u).any LoadEvent.connects = false ∧
      ((t.since u).filterMap LoadEvent.showing?).length = 1 ∧
      ∀ request ∈ u.yielded.filterMap (Yield.request? 1),
        (Fields.get request "aggregate_by").isNull = true := by
  decide +kernel

/-- The load that was begun for one connection shows its result for the other one: its documents are
those of the other connection, and their number was told by the one before. -/
theorem number_of_another_connection_is_shown :
    let s := twoConnections.after heldLoad
    let t := s.operate otherConnection
    let u := t.after goingOn
    (s.connect "other").2 = .done (.verdict true) ∧ s.browser.connection ≠ some "other" ∧
      t.browser.executor = some 1 ∧ (∀ backend, .connected backend ∉ t.since u) ∧
      ¬ ∀ showing, .shown showing ∈ t.since u →
        GivenBy 1 u.yielded showing.view.rows showing.view.total := by
  obtain ⟨hexecutor, hnone, hone, hrequests⟩ := goingOn_facts
  refine ⟨rfl, by decide, hexecutor, fun backend hmem => ?_, fun hgiven => ?_⟩
  · exact absurd rfl (List.any_eq_false.mp hnone _ hmem)
  · obtain ⟨showing, hshowing⟩ := List.length_eq_one_iff.mp hone
    have hmem := List.mem_singleton_self showing
    rw [← hshowing] at hmem
    obtain ⟨-, n, -, hcounted⟩ := hgiven showing (LoadEvent.shown_of_showing hmem)
    obtain ⟨request, hrequest, hasked⟩ := counted_was_asked hcounted
    rw [hrequests request hrequest] at hasked
    cases hasked

/-! ## A result of the connection -/

/-- A load has to wait, and is out of date when the query starts over. -/
def heldStaleLoad : List Operation := heldLoad ++ [
  .ask 3 (.dispatch (.object [("kind", .text "set_namespace"), ("namespace_id", .text "docs")]))]

/-- Before that load goes on another one is begun. -/
def loadingAnew : List Operation := .ask 5 (.load .null false) :: .job :: goingOn

theorem loadingAnew_facts :
    let s := twoConnections.after heldStaleLoad
    let t := s.operate otherConnection
    let u := t.after loadingAnew
    s.browser.generation = 1 ∧ s.pauses.map (·.load.generation) = [0] ∧
      (t.since u).any LoadEvent.connects = false ∧
      ((t.since u).filterMap LoadEvent.showing?).map (·.view.total) = [some 2] := by
  decide +kernel

/-- What is shown then has been given by the backend of the other connection. -/
theorem result_of_the_other_connection :
    let t := (twoConnections.after heldStaleLoad).operate otherConnection
    let u := t.after loadingAnew
    ∃ showing, .shown showing ∈ t.since u ∧ showing.view.total = some 2 ∧
      GivenBy 1 (t.given u) showing.view.rows showing.view.total := by
  obtain ⟨hgeneration, hpauses, hnone, hshown⟩ := loadingAnew_facts
  obtain ⟨showing, hshowing, htotal⟩ := List.map_eq_singleton_iff.mp hshown
  have hmem := List.mem_singleton_self showing
  rw [← hshowing] at hmem
  have hshows := LoadEvent.shown_of_showing hmem
  have hstale : ∀ p ∈ (twoConnections.after heldStaleLoad).pauses, p.isSchema = true ∨
      p.load.generation < (twoConnections.after heldStaleLoad).browser.generation := by
    intro p hp
    have hzero := List.mem_map_of_mem (f := fun p : LoadPause => p.load.generation) hp
    rw [hpauses, List.mem_singleton] at hzero
    exact .inr (by rw [hzero, hgeneration]; decide)
  obtain ⟨-, handing, b, hhanding, hhanded, -, hgiven⟩ :=
    results_come_from_the_connection .default (some "main") (some "docs") (some 0) none
      twoConnections.backends twoConnections.provider heldStaleLoad loadingAnew 4 "other" _ _ _ rfl rfl
      rfl rfl (by decide) hstale fun backend hmem => absurd rfl (List.any_eq_false.mp hnone _ hmem)
  cases hhanding
  cases hhanded
  exact ⟨showing, hshows, htotal, hgiven showing hshows⟩

end Session

end Folio
