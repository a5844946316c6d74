-- The number of all documents, as it is known. It is known exactly: what has been counted, what is
-- remembered, and what is kept with a page of a query that browses all is the number of documents
-- in the collection. A load keeps it so, whichever way it comes by the number.
import Folio.Proofs.FailedLoads
import Folio.Proofs.FiledStores
import Folio.Proofs.GivenPages
import Folio.Proofs.KeptPages

namespace Folio

/-- What of a backend bears on its answers, but for the failures that have been ordered. -/
structure Standing where
  source : Source
  held : Bool
  schemaHeld : Bool

def Backend.standing (b : Backend) : Standing := ⟨b.source, b.held, b.schemaHeld⟩

/-- Whether an action waits for nothing but the background. -/
def Pause.isIdle : Pause → Bool
  | .background => true
  | .web _ _ pause => pause.isIdle
  | _ => false

/-- An action waits for the background, and nothing is asked after it. -/
structure Waiting.Idle (w : Waiting) : Prop where
  idle : w.pause.isIdle = true
  single : ∀ c, w.owner = .client c → c.todo = []

theorem QueryConfig.SameShape.browsesAll {c d : QueryConfig} (h : c.SameShape d) :
    c.browsesAll = d.browsesAll := by
  have hempty : c.predicates.isEmpty = d.predicates.isEmpty := by
    have hlength := congrArg List.length h.predicates
    rw [List.length_map, List.length_map] at hlength
    cases hc : c.predicates <;> cases hd : d.predicates <;> simp_all
  unfold QueryConfig.browsesAll QueryConfig.isFiltered QueryConfig.search
  rw [h.queryMode, h.searchText, hempty]

namespace Session

variable {s t u : Session} {load : Load} {plan : PagePlan}

/-! ## What is known -/

def standings (s : Session) : List Standing := s.backends.map Backend.standing

/-- How many documents a backend has in a collection. -/
def number (s : Session) (backend : Nat) (collection : String) : Nat :=
  ((s.backend? backend).map (·.number collection)).getD 0

/-- A number is told that is the one of the documents in the collection that is looked at. -/
def Tells (s : Session) (total : Option Int) : Prop :=
  ∃ backend collection, s.browser.executor = some backend ∧ s.browser.current? = some collection ∧
    total = some (s.number backend collection : Int)

/-- A page is kept under the digest of one of some texts. If it was fetched by a query that browses
all, it tells the number of documents in its collection. -/
structure KeptWell (texts : List UInt8 → Prop) (s : Session) (page : CachedPage) : Prop where
  rows : ∀ row ∈ page.rows, Identified row
  made : ∃ (backend : Nat) (collection : String) (config : QueryConfig) (number size : Int),
    s.browser.executor = some backend ∧
    texts (Cache.pageBytes s.browser.connection collection config number size) ∧
    page.fingerprint =
      Digest.sha256 (Cache.pageBytes s.browser.connection collection config number size) ∧
    (config.browsesAll = true → page.total = some (s.number backend collection : Int))

/-- All that is known of the number of documents is true. Nothing is held back, and what is shown
and kept has ids. -/
structure Exact (texts : List UInt8 → Prop) (s : Session) : Prop where
  filed : ∀ b ∈ s.backends, b.Filed
  calm : ∀ b ∈ s.backends, b.held = false ∧ b.schemaHeld = false
  idle : ∀ w ∈ s.actions, w.Idle
  rows : ∀ row ∈ s.browser.view.rows, Identified row
  pages : ∀ page ∈ s.browser.cache.pages, KeptWell texts s page
  unfiltered : ∀ n, s.browser.unfiltered = some n → s.Tells (some n)

variable {texts : List UInt8 → Prop}

theorem KeptWell.keep {page : CachedPage} (h : KeptWell texts s page)
    (connection : t.browser.connection = s.browser.connection)
    (executor : t.browser.executor = s.browser.executor)
    (numbers : ∀ backend collection, t.number backend collection = s.number backend collection) :
    KeptWell texts t page := by
  obtain ⟨backend, collection, config, number, size, hexecutor, htext, hprint, htotal⟩ := h.made
  refine ⟨h.rows, backend, collection, config, number, size, executor.trans hexecutor, ?_, ?_, ?_⟩
  · rwa [connection]
  · rwa [connection]
  · rwa [numbers]

theorem Tells.keep {total : Option Int} (h : s.Tells total)
    (executor : t.browser.executor = s.browser.executor)
    (current : t.browser.current? = s.browser.current?)
    (numbers : ∀ backend collection, t.number backend collection = s.number backend collection) :
    t.Tells total := by
  obtain ⟨backend, collection, hexecutor, hcurrent, htotal⟩ := h
  refine ⟨backend, collection, executor.trans hexecutor, current.trans hcurrent, ?_⟩
  rwa [numbers]

theorem numbers_of_standings (h : t.standings = s.standings) (backend : Nat) (collection : String) :
    t.number backend collection = s.number backend collection := by
  have hsource : (t.backend? backend).map Backend.standing =
      (s.backend? backend).map Backend.standing := by
    have hget := congrArg (·[backend]?) h
    simpa [standings, backend?] using hget
  have hnumber (o : Option Backend) : (o.map (·.number collection)).getD 0 =
      ((o.map Backend.standing).map fun standing =>
        (Backend.ofSource standing.source).number collection).getD 0 := by
    cases o <;> rfl
  unfold number
  rw [hnumber, hnumber, hsource]

/-- What holds of all backends by their standing goes on to hold. -/
theorem forall_of_standings {P : Backend → Prop}
    (hP : ∀ b c : Backend, c.standing = b.standing → P b → P c)
    (h : t.standings = s.standings) (hs : ∀ b ∈ s.backends, P b) : ∀ b ∈ t.backends, P b := by
  intro c hc
  have hmem : c.standing ∈ s.standings := h ▸ List.mem_map_of_mem hc
  obtain ⟨b, hb, hsame⟩ := List.mem_map.mp hmem
  exact hP b c hsame.symm (hs b hb)

theorem filed_of_standing (b c : Backend) (h : c.standing = b.standing) (hb : b.Filed) :
    c.Filed := by
  obtain ⟨store, shows, hsource, hstore⟩ := hb
  exact ⟨store, shows, (congrArg Standing.source h).trans hsource, hstore⟩

theorem calm_of_standing (b c : Backend) (h : c.standing = b.standing)
    (hb : b.held = false ∧ b.schemaHeld = false) : c.held = false ∧ c.schemaHeld = false :=
  ⟨(congrArg Standing.held h).trans hb.1, (congrArg Standing.schemaHeld h).trans hb.2⟩

/-! ## What changes nothing that is known -/

/-- No page is shown or kept, and the documents stay. Some of what is known may be forgotten. -/
structure Forgets (s t : Session) : Prop where
  standings : t.standings = s.standings
  connection : t.browser.connection = s.browser.connection
  executor : t.browser.executor = s.browser.executor
  rows : t.browser.view.rows ⊆ s.browser.view.rows
  pages : t.browser.cache.pages ⊆ s.browser.cache.pages
  unfiltered : t.browser.unfiltered = none ∨
    t.browser.unfiltered = s.browser.unfiltered ∧ t.browser.collection = s.browser.collection
  actions : t.actions ⊆ s.actions
  journal : s.journal <+: t.journal
  shown : ∀ showing, .shown showing ∉ s.since t

theorem current_of_collection (h : t.browser.collection = s.browser.collection) :
    t.browser.current? = s.browser.current? := by
  unfold Browser.current?
  rw [h]

theorem Forgets.exact (h : Forgets s t) (hs : Exact texts s) : Exact texts t where
  filed := forall_of_standings filed_of_standing h.standings hs.filed
  calm := forall_of_standings calm_of_standing h.standings hs.calm
  idle := fun w hw => hs.idle w (h.actions hw)
  rows := fun row hrow => hs.rows row (h.rows hrow)
  pages := fun page hpage =>
    (hs.pages page (h.pages hpage)).keep h.connection h.executor (numbers_of_standings h.standings)
  unfiltered := by
    intro n hn
    rcases h.unfiltered with hnone | ⟨hsame, hcollection⟩
    · rw [hnone] at hn
      cases hn
    · exact (hs.unfiltered n (hsame.symm.trans hn)).keep h.executor
        (current_of_collection hcollection) (numbers_of_standings h.standings)

/-- Nothing is forgotten either. -/
structure Still (s t : Session) : Prop extends SamePages s t where
  standings : t.standings = s.standings
  rows : t.browser.view.rows = s.browser.view.rows
  collection : t.browser.collection = s.browser.collection

namespace Still

theorem refl (s : Session) : Still s s := ⟨.refl s, rfl, rfl, rfl⟩

theorem trans (hst : Still s t) (htu : Still t u) : Still s u :=
  ⟨hst.toSamePages.trans htu.toSamePages, htu.standings.trans hst.standings,
    htu.rows.trans hst.rows, htu.collection.trans hst.collection⟩

theorem forgets (h : Still s t) : Forgets s t where
  standings := h.standings
  connection := congrArg Footing.connection h.footing
  executor := congrArg Footing.executor h.footing
  rows := fun _ hrow => h.rows ▸ hrow
  pages := fun _ hpage => h.cache ▸ hpage
  unfiltered := .inr ⟨h.unfiltered, h.collection⟩
  actions := h.actions
  journal := h.journal
  shown := h.shown

theorem exact (h : Still s t) (hs : Exact texts s) : Exact texts t := h.forgets.exact hs

theorem tells (h : Still s t) {total : Option Int} (hs : s.Tells total) : t.Tells total :=
  hs.keep (congrArg Footing.executor h.footing) (current_of_collection h.collection)
    (numbers_of_standings h.standings)

/-- The backends are the same ones. -/
theorem of_same (h : SamePages s t) (backends : t.backends = s.backends)
    (browser : s.browser.Unchanged t.browser) : Still s t where
  toSamePages := h
  standings := congrArg (List.map Backend.standing) backends
  rows := congrArg (fun o : Outlook => o.view.rows) browser.outlook
  collection := congrArg Outlook.collection browser.outlook

theorem note (s : Session) {e : LoadEvent} (h : e.leavesPages = true) : Still s (s.note e) :=
  ⟨.note s h, rfl, rfl, rfl⟩

theorem spawn (s : Session) {j : Job} (h : j.action? = none) : Still s (s.spawn j) :=
  ⟨.spawn s h, rfl, rfl, rfl⟩

end Still

theorem trouble_still (s : Session) (f : Fault) : Still s (s.trouble f) :=
  ⟨trouble_samePages s f, rfl, rfl, rfl⟩

theorem Apprised.still {s t : Session} (h : Apprised s t) : Still s t :=
  .of_same h.samePages h.unmoved.backends h.unchanged

theorem send_still (s : Session) (backend : Nat) (collection : String) (request : Fields) :
    Still s (s.send backend collection request).1 :=
  ⟨send_samePages s backend collection request, rfl, rfl, rfl⟩

theorem standings_setBackend {number : Nat} {b c : Backend} (hb : s.backend? number = some b)
    (hc : c.standing = b.standing) : (s.setBackend number c).standings = s.standings := by
  unfold standings setBackend
  rw [List.map_set, hc, ← List.map_set, setBackend_list hb]
where
  setBackend_list {number : Nat} {b : Backend} (hb : s.backend? number = some b) :
      s.backends.set number b = s.backends := by
    obtain ⟨hlt, hget⟩ := List.getElem?_eq_some_iff.mp hb
    rw [← hget, List.set_getElem_self]

/-- Stores answer without changing. -/
theorem respond_still (h : ∀ b ∈ s.backends, b.Filed) (sent : Sent) :
    Still s (s.respond sent).1 := by
  have hsame := respond_samePages s sent
  have hbrowser : (s.respond sent).1.browser = s.browser := respond_browser (Prod.mk.eta).symm
  refine ⟨hsame, ?_, by rw [hbrowser], by rw [hbrowser]⟩
  rcases s.respond_cases sent with ⟨-, hnone⟩ | ⟨b, hb, hsome⟩
  · rw [hnone]
  · rw [hsome]
    refine standings_setBackend hb ?_
    have hsource := (h b (List.mem_of_getElem? hb)).backed.respond_source sent.collection sent.request
    obtain ⟨hheld, hschemaHeld⟩ := Prod.mk.inj (b.respond_holds sent.collection sent.request)
    unfold Backend.standing
    rw [hsource, hheld, hschemaHeld]

/-! ## What is answered -/

theorem number_of_backend {number : Nat} {b : Backend} (hb : s.backend? number = some b)
    (collection : String) : s.number number collection = b.number collection := by
  unfold Session.number
  rw [hb]
  rfl

/-- An answer comes from documents that are filed. -/
theorem respond_ok (h : ∀ b ∈ s.backends, b.Filed) {sent : Sent} {response : Value}
    (hr : (s.respond sent).2 = .ok response) : ∃ docs : Documents, docs.Filed ∧
      docs.length = s.number sent.backend sent.collection ∧
      Collection.answer docs.rows sent.request = .ok response := by
  obtain ⟨b, hb, ha⟩ := backend_of_respond hr
  obtain ⟨docs, hfiled, hlength, hanswer⟩ := (h b (List.mem_of_getElem? hb)).respond_ok ha
  exact ⟨docs, hfiled, hlength.trans (number_of_backend hb _).symm, hanswer⟩

theorem Documents.Filed.rows_identified {docs : Documents} (h : docs.Filed) :
    ∀ d ∈ docs.rows, Identified d := List.forall_mem_map.mpr h.identified

/-- The rows of an answer carry ids. -/
theorem respond_rows (h : ∀ b ∈ s.backends, b.Filed) {sent : Sent} {response : Value}
    {rows : List Fields} (hr : (s.respond sent).2 = .ok response)
    (hrows : View.rowsIn response = .ok (rows.map .object)) : ∀ row ∈ rows, Identified row := by
  obtain ⟨docs, hfiled, -, hanswer⟩ := respond_ok h hr
  intro row hrow
  obtain ⟨doc, hdoc, hid⟩ := Collection.rowsIn_answer (Documents.Filed.rows_identified hfiled)
    hanswer hrows (.object row) (List.mem_map_of_mem hrow)
  cases hdoc
  exact hid

/-- Who asks for the number of all documents is told it. -/
theorem respond_count (h : ∀ b ∈ s.backends, b.Filed) {backend : Nat} {collection : String}
    {config : QueryConfig} {response : Value} (hall : config.browsesAll = true)
    (hr : (s.respond ⟨backend, collection, (Query.compileCount config).toFields⟩).2 =
      .ok response) :
    View.countIn Query.countLabel response = .ok (s.number backend collection : Int) := by
  obtain ⟨docs, hfiled, hlength, hanswer⟩ := respond_ok h hr
  rw [Collection.answer_all (Documents.Filed.rows_identified hfiled) hall] at hanswer
  cases hanswer
  rw [Collection.countIn_countAnswer, ← hlength]
  unfold Documents.rows
  rw [List.length_map]

/-! ## Pages that are met -/

/-- A page is met that has a text: it is fetched, or shown again. -/
inductive PageMet (s t : Session) : List UInt8 → Prop where
  | fetched {sent : Sent} {load : Load} {plan : PagePlan} {rows : List Value}
      (noted : .fetched sent load plan rows ∈ s.since t) :
      PageMet s t (t.footing.pageBytes load plan.config plan.move.page)
  | recalled {load : Load} {config : QueryConfig} {move : PageMove} {page : CachedPage}
      (noted : .recalled load config move page ∈ s.since t) :
      PageMet s t (t.footing.pageBytes load config move.page)

/-- Every page that is met has one of some texts. -/
def Covers (texts : List UInt8 → Prop) (s t : Session) : Prop :=
  ∀ text, PageMet s t text → texts text

theorem Covers.later (h : Covers texts s u) (hst : s.journal <+: t.journal)
    (htu : t.journal <+: u.journal) : Covers texts t u := by
  intro text hmet
  cases hmet with
  | fetched noted => exact h _ (.fetched (mem_since_right hst htu noted))
  | recalled noted => exact h _ (.recalled (mem_since_right hst htu noted))

theorem Covers.earlier (h : Covers texts s u) (footing : u.footing = t.footing)
    (htu : t.journal <+: u.journal) : Covers texts s t := by
  intro text hmet
  cases hmet with
  | fetched noted =>
    rw [← footing]
    exact h _ (.fetched (since_mono htu noted))
  | recalled noted =>
    rw [← footing]
    exact h _ (.recalled (since_mono htu noted))

/-! ## What comes of one load -/

/-- After a load all that is known is exact, and what it has shown for a query that browses all
tells the number of documents. -/
structure Knows (texts : List UInt8 → Prop) (s : Session) (r : Session × Outcome LoadPause Bool) :
    Prop where
  exact : Exact texts r.1
  standings : r.1.standings = s.standings
  collection : r.1.browser.collection = s.browser.collection
  shown : ∀ showing, .shown showing ∈ s.since r.1 → showing.config.browsesAll = true →
    r.1.Tells showing.view.total
  ends : ∀ p, r.2 ≠ .paused p

/-- What is known stays exact during a load, if every page that it meets has one of some texts. -/
def Advances (texts : List UInt8 → Prop) (s : Session) (r : Session × Outcome LoadPause Bool) :
    Prop := Exact texts s → Covers texts s r.1 → Knows texts s r

/-- A load is one of the collection that is looked at, and goes to a backend. -/
structure Aims (s : Session) (load : Load) : Prop where
  executor : ∃ backend, s.browser.executor = some backend
  current : s.browser.current? = some load.collection

theorem Aims.keep (h : s.Aims load) (hst : Still s t) : t.Aims load := by
  obtain ⟨⟨backend, hbackend⟩, hcurrent⟩ := h
  have hexecutor : t.browser.executor = s.browser.executor := congrArg Footing.executor hst.footing
  exact ⟨⟨backend, hexecutor.trans hbackend⟩, (current_of_collection hst.collection).trans hcurrent⟩

/-- Another load follows. -/
theorem Advances.followed {r : Session × Outcome LoadPause Bool} {outcome : Outcome LoadPause Bool}
    (hst : Advances texts s (t, outcome)) (hjournal : s.journal <+: t.journal)
    (htr : Alongside t r.1) (h : Advances texts t r) : Advances texts s r := by
  intro hs hcovers
  have hbefore := hst hs (hcovers.earlier htr.footing htr.journal)
  have hknows := h hbefore.exact (hcovers.later hjournal htr.journal)
  refine ⟨hknows.exact, hknows.standings.trans hbefore.standings,
    hknows.collection.trans hbefore.collection, fun showing hmem hall => ?_, hknows.ends⟩
  rw [since_trans hjournal htr.journal] at hmem
  rcases List.mem_append.mp hmem with hold | hnew
  · exact (hbefore.shown showing hold hall).keep (congrArg Footing.executor htr.footing)
      (current_of_collection hknows.collection) (numbers_of_standings hknows.standings)
  · exact hknows.shown showing hnew hall

namespace Knows

/-- Where nothing is shown all that is known stays known. -/
theorem of_still (hs : Exact texts s) (hst : Still s t) {outcome : Outcome LoadPause Bool}
    (hends : ∀ p, outcome ≠ .paused p) : Knows texts s (t, outcome) :=
  ⟨hst.exact hs, hst.standings, hst.collection, fun showing hmem => absurd hmem (hst.shown showing),
    hends⟩

theorem done (hs : Exact texts s) (hst : Still s t) (shown : Bool) : Knows texts s (t, .done shown) :=
  of_still hs hst fun _ hp => by cases hp

theorem raised (hs : Exact texts s) (hst : Still s t) (f : Fault) : Knows texts s (t, .raised f) :=
  of_still hs hst fun _ hp => by cases hp

/-- It is noted how a load has come to its end. -/
theorem noted {outcome : Outcome LoadPause Bool} (h : Knows texts s (t, outcome))
    (hjournal : s.journal <+: t.journal) {e : LoadEvent} (he : e.leavesPages = true) :
    Knows texts s (t.note e, outcome) := by
  have hnoted : Still t (t.note e) := .note t he
  refine ⟨hnoted.exact h.exact, h.standings, h.collection, fun showing hmem hall => ?_, h.ends⟩
  rw [since_trans hjournal hnoted.journal] at hmem
  have hold := (List.mem_append.mp hmem).resolve_right (hnoted.shown showing)
  exact hnoted.tells (h.shown showing hold hall)

/-- A page is shown with the number of documents, if it is shown for a query that browses all. -/
theorem of_shows {showing : Showing} (hs : Exact texts s) (hst : Still s t)
    (hshows : Shows t u showing) (rows : ∀ row ∈ showing.view.rows, Identified row)
    (pages : ∀ page ∈ u.browser.cache.pages, KeptWell texts t page)
    (htotal : showing.config.browsesAll = true → t.Tells showing.view.total) :
    Knows texts s (u, .done true) := by
  have ht := hst.exact hs
  have hexecutor : u.browser.executor = t.browser.executor :=
    congrArg Footing.executor hshows.footing
  have hstandings : u.standings = t.standings :=
    congrArg (List.map Backend.standing) hshows.backends
  have hnumbers := numbers_of_standings hstandings
  have htells : ∀ {n}, t.Tells n → u.Tells n := fun h =>
    h.keep hexecutor (current_of_collection hshows.collection) hnumbers
  refine ⟨⟨?_, ?_, fun w hw => ht.idle w (hshows.actions hw), hshows.rows ▸ rows, ?_, ?_⟩,
    hstandings.trans hst.standings, hshows.collection.trans hst.collection, ?_,
    fun p hp => by cases hp⟩
  · exact forall_of_standings filed_of_standing hstandings ht.filed
  · exact forall_of_standings calm_of_standing hstandings ht.calm
  · exact fun page hpage =>
      (pages page hpage).keep (congrArg Footing.connection hshows.footing) hexecutor hnumbers
  · intro n hn
    rw [hshows.unfiltered] at hn
    split at hn
    · rename_i hall
      exact htells (hn ▸ htotal hall)
    · exact htells (ht.unfiltered n hn)
  · intro other hmem hall
    rw [since_trans hst.journal hshows.journal] at hmem
    have hnew := (List.mem_append.mp hmem).resolve_left (hst.shown other)
    obtain rfl := (hshows.since other).mp hnew
    exact htells (htotal hall)

end Knows

theorem Exact.isHeld (hs : Exact texts s) (backend : Nat) : s.isHeld backend = false :=
  Unheld.isHeld (fun b hb => (hs.calm b hb).1) backend

/-- No action has to wait for a schema. -/
theorem Exact.schema_shown (hs : Exact texts s) (forced : Bool) (query : SchemaQuery) :
    (s.loadSchema forced).2 ≠ .paused query := by
  intro hpaused
  obtain ⟨-, -, b, hb, hheld⟩ := loadSchema_paused (Prod.ext rfl hpaused)
  rw [(hs.calm b (List.mem_of_getElem? hb)).2] at hheld
  cases hheld

/-! ## The course of a load -/

variable {leg next : Leg}

/-- A stride that shows no page forgets nothing. -/
theorem Stride.still (h : Stride (s, leg) (t, next)) (hfiled : ∀ b ∈ s.backends, b.Filed)
    (hunshown : ∀ load, next ≠ .stops load (.done true)) : Still s t := by
  have hsame := h.samePages hunshown
  cases h with
  | learn known => exact (apprised_of_ensure known).still
  | take taken => exact (apprised_of_take taken).still
  | @hear _ _ sent _ _ _ respond | @receive _ _ sent _ _ _ _ respond =>
    have hresponds := respond_still hfiled sent
    rwa [respond] at hresponds
  | count unknown request | ask request =>
    cases request
    exact ⟨hsame, rfl, rfl, rfl⟩
  | close _ load outcome => cases outcome <;> exact ⟨hsame, rfl, rfl, rfl⟩
  | showAgain | display => exact absurd rfl (hunshown _)
  | _ => exact ⟨hsame, rfl, rfl, rfl⟩

/-- What is known on each leg of a load whose pages have each one of some texts. -/
def KnowsOn (texts : List UInt8 → Prop) (s t : Session) : Leg → Prop
  | .wanted _ _ => Still s t
  | .begun load | .taught _ load | .ready load | .due load => Still s t ∧ t.Aims load
  | .planned load plan => Still s t ∧ t.Aims load ∧ t.Printed load plan
  | .counting sent load plan => Still s t ∧ t.Aims load ∧ t.Printed load plan ∧
      sent = ⟨t.browser.executor.getD 0, load.collection, (Query.compileCount plan.config).toFields⟩
  | .counted load plan answer => Still s t ∧ t.Aims load ∧ t.Printed load plan ∧
      ∀ response total, answer = .ok response →
        View.countIn Query.countLabel response = .ok total →
        plan.config.browsesAll = true → t.Tells (some total)
  | .told load plan total | .asking _ load plan total => Still s t ∧ t.Aims load ∧
      t.Printed load plan ∧ (plan.config.browsesAll = true → t.Tells (some total))
  | .answered _ load plan total answer => Still s t ∧ t.Aims load ∧ t.Printed load plan ∧
      (plan.config.browsesAll = true → t.Tells (some total)) ∧
      ∀ response (rows : List Fields), answer = .ok response →
        View.rowsIn response = .ok (rows.map .object) →
        ∀ row ∈ rows, Identified row
  | .turned sent load plan total rows _ => Still s t ∧ t.Aims load ∧ t.Printed load plan ∧
      (plan.config.browsesAll = true → t.Tells (some total)) ∧
      .fetched sent load plan rows ∈ s.since t ∧
      ∀ found : List Fields, rows = found.map .object → ∀ row ∈ found, Identified row
  | .stops _ outcome | .over outcome => Alongside s t ∧ (Covers texts s t → Knows texts s (t, outcome))

/-- A page that has arrived is shown and kept with the number of documents. -/
theorem showFetched_knows {sent : Sent} {total : Int} {rows : List Value} {response : Value}
    {view : View} (hs : Exact texts s)
    (h : KnowsOn texts s t (.turned sent load plan total rows response))
    (hread : View.read rows total plan.config.aggregates response = .sound view)
    (hcovers : Covers texts s (t.showFetched load plan view).1) :
    Knows texts s ((t.showFetched load plan view).1, .done true) := by
  obtain ⟨hst, haims, hplan, htotal, hfetched, hidentified⟩ := h
  have hshows := showFetched_shows t load plan view
  obtain ⟨cache, hbrowser, hpages⟩ := showFetched_browser t load plan view
  have htext := hcovers _ (.fetched (since_mono hshows.journal hfetched))
  rw [hshows.footing] at htext
  have hrows := hidentified view.rows (rows_of_read hread).symm
  have htells : plan.config.browsesAll = true → t.Tells view.total := fun hall => by
    rw [total_of_read hread]
    exact htotal hall
  have hkept : KeptWell texts t ⟨plan.fingerprint, view.rows, view.total, t.clock⟩ := by
    obtain ⟨⟨backend, hbackend⟩, hcurrent⟩ := haims
    refine ⟨hrows, backend, load.collection, plan.config, plan.move.page, t.browser.paging.pageSize,
      hbackend, htext, hplan, fun hall => ?_⟩
    obtain ⟨other, collection, hother, hsame, hnumber⟩ := htells hall
    cases Option.some.inj (hother.symm.trans hbackend)
    cases Option.some.inj (hsame.symm.trans hcurrent)
    exact hnumber
  refine .of_shows hs hst hshows hrows (fun page hpage => ?_) htells
  rw [hbrowser] at hpage
  rcases hpages page hpage with hold | rfl
  · exact (hst.exact hs).pages page hold
  · exact hkept

section

variable (hdigest : ∀ a b, texts a → texts b → Digest.Distinguishes a b)

include hdigest

/-- A page that is kept tells the number of documents, if it was made for a query that browses
all. -/
theorem showKept_knows {move : PageMove} {page : CachedPage} {paging : Paging} (hs : Exact texts s)
    (hst : Still s t) (haims : t.Aims load) (hrecalled : Recalled t.browser load move page)
    (hcommit : t.browser.paging.commit move (page.rows.map .object) = .ok paging)
    (hcovers : Covers texts s (t.showKept load t.browser.config move page).1) :
    Knows texts s ((t.showKept load t.browser.config move page).1, .done true) := by
  obtain ⟨hshows, hnoted, hcache⟩ := showKept_shows load t.browser.config hcommit
  have hkept := (hst.exact hs).pages page hrecalled.kept
  have htext := hcovers _ (.recalled (mem_since_right hst.journal hshows.journal hnoted))
  rw [hshows.footing] at htext
  refine .of_shows hs hst hshows hkept.rows (hcache ▸ (hst.exact hs).pages) fun hall => ?_
  obtain ⟨backend, other, made, number, size, hbackend, hmade, hdigested, hnumber⟩ := hkept.made
  -- What the page was made for and what it is shown for have one digest.
  have hsame := hdigest _ _ hmade htext (hdigested.symm.trans hrecalled.fingerprint)
  unfold Footing.pageBytes at hsame
  rw [Cache.pageBytes_eq_iff_inOrder, Cache.shape_inOrder_iff] at hsame
  obtain ⟨-, hcollection, -, -, hshape⟩ := hsame
  cases Option.some.inj hcollection
  exact ⟨backend, load.collection, hbackend, haims.current, hnumber (hshape.browsesAll ▸ hall)⟩

/-- Every stride of a load goes on so. -/
theorem KnowsOn.stride (hs : Exact texts s) (hstride : Stride (t, leg) (u, next))
    (h : KnowsOn texts s t leg) : KnowsOn texts s u next := by
  have hafter : (∀ load, next ≠ .stops load (.done true)) → Still s t → Still t u :=
    fun hunshown hst => hstride.still (hst.exact hs).filed hunshown
  have hfails : (∀ load, next ≠ .stops load (.done true)) → Still s t →
      Alongside s u ∧ (Covers texts s u → Knows texts s (u, .done false)) := fun hunshown hst =>
    have hall := hst.trans (hafter hunshown hst)
    ⟨hall.toAlongside, fun _ => .done hs hall false⟩
  cases hstride with
  | idle => exact hfails (by simp) h
  | refuse => exact hfails (by simp) h
  | begin current loading executor =>
    have hst : Still s t := h
    exact ⟨hst.trans (hafter (by simp) hst), ⟨_, executor⟩, current⟩
  | learn | take | retype =>
    obtain ⟨hst, haims⟩ := h
    have hstill := hafter (by simp) hst
    exact ⟨hst.trans hstill, haims.keep hstill⟩
  | decide planned =>
    refine ⟨h.1, h.2, ?_⟩
    have hprint := planned.fingerprint
    rw [← planned.config] at hprint
    exact hprint
  | showAgain recalled target found commit =>
    obtain ⟨hst, haims⟩ := h
    exact ⟨hst.toAlongside.trans (showKept_shows _ _ commit).1.toAlongside,
      showKept_knows hdigest hs hst haims recalled commit⟩
  | know known =>
    obtain ⟨hst, haims, hplan⟩ := h
    exact ⟨hst, haims, hplan, fun _ => (hst.exact hs).unfiltered _ (Browser.unfiltered_of_known known)⟩
  | count unknown request =>
    obtain ⟨hst, haims, hplan⟩ := h
    have hstill := hafter (by simp) hst
    cases request
    exact ⟨hst.trans hstill, haims.keep hstill, hplan.same hstill.toSamePages, rfl⟩
  | @hear _ _ sent load plan answer respond =>
    obtain ⟨hst, haims, hplan, hsent⟩ := h
    have hstill := hafter (by simp) hst
    refine ⟨hst.trans hstill, haims.keep hstill, hplan.same hstill.toSamePages,
      fun response total hresponse hread hall => ?_⟩
    obtain ⟨⟨backend, hbackend⟩, hcurrent⟩ := haims
    subst hsent hresponse
    have hnumber := respond_count (hst.exact hs).filed hall (congrArg Prod.snd respond)
    rw [hread, hbackend, Option.getD_some] at hnumber
    exact hstill.tells ⟨backend, load.collection, hbackend, hcurrent,
      congrArg some (Except.ok.inj hnumber)⟩
  | tell read =>
    obtain ⟨hst, haims, hplan, htells⟩ := h
    exact ⟨hst, haims, hplan, htells _ _ rfl read⟩
  | ask =>
    obtain ⟨hst, haims, hplan, htotal⟩ := h
    have hstill := hafter (by simp) hst
    exact ⟨hst.trans hstill, haims.keep hstill, hplan.same hstill.toSamePages,
      fun hall => hstill.tells (htotal hall)⟩
  | receive respond =>
    obtain ⟨hst, haims, hplan, htotal⟩ := h
    have hstill := hafter (by simp) hst
    refine ⟨hst.trans hstill, haims.keep hstill, hplan.same hstill.toSamePages,
      fun hall => hstill.tells (htotal hall), fun response rows hresponse hrows => ?_⟩
    subst hresponse
    exact respond_rows (hst.exact hs).filed (congrArg Prod.snd respond) hrows
  | turn current read =>
    obtain ⟨hst, haims, hplan, htotal, hidentified⟩ := h
    have hstill := hafter (by simp) hst
    refine ⟨hst.trans hstill, haims.keep hstill, hplan.same hstill.toSamePages,
      fun hall => hstill.tells (htotal hall), mem_since_note (t := t.update _) hst.journal _,
      fun found hfound => ?_⟩
    subst hfound
    exact hidentified _ found rfl read
  | display current read =>
    exact ⟨h.1.toAlongside.trans (showFetched_shows _ _ _ _).toAlongside,
      showFetched_knows hs h read⟩
  | rest late => cases late <;> exact hfails (by simp) h.1
  | fail fails => cases fails <;> exact hfails (by simp) h.1
  | broken breaks =>
    cases breaks <;> exact ⟨h.1.toAlongside, fun _ => .raised hs h.1 _⟩
  | wait waits =>
    have hst : Still s t := by cases waits <;> exact h.1
    obtain ⟨number, b, -, hb, hheld⟩ := waits.holder
    obtain ⟨hunheld, hunheldSchemas⟩ := (hst.exact hs).calm b (List.mem_of_getElem? hb)
    simp [hunheld, hunheldSchemas] at hheld
  | close _ load outcome =>
    obtain ⟨halongside, hknows⟩ := h
    have hnoted : ∀ e : LoadEvent, e.leavesPages = true → Alongside s (t.note e) ∧
        (Covers texts s (t.note e) → Knows texts s (t.note e, outcome)) := fun e he =>
      have hnext := SamePages.note t he
      ⟨halongside.trans hnext.toAlongside, fun hcovers =>
        (hknows (hcovers.earlier hnext.footing hnext.journal)).noted halongside.journal he⟩
    cases outcome with
    | done shown => exact hnoted _ rfl
    | raised f => exact hnoted _ rfl
    | paused p => exact ⟨halongside, hknows⟩

/-! ## What comes of loading -/

theorem beginLoad_advances (s : Session) (page : Value) (forced : Bool) :
    Advances texts s (s.beginLoad page forced) := fun hs =>
  ((beginLoad_strides s page forced).keeps (I := KnowsOn texts s)
    (fun hstride => KnowsOn.stride hdigest hs hstride) (Still.refl s)).2

theorem loadDocuments_advances (s : Session) (page : Value) (forced : Bool) :
    Advances texts s (s.loadDocuments page forced) := by
  have hbegun := beginLoad_advances hdigest s page forced
  have hjournal := (beginLoad_alongside s page forced).journal
  unfold loadDocuments
  generalize s.beginLoad page forced = r at *
  rcases drain_cases r with ⟨t, shown, rfl, -, -, htaken⟩ | ⟨hsame, -⟩
  · have hfollows : Still t ((t.update ({ · with reloadPending := false })).note .takenUp) :=
      ⟨takeUp_samePages t, rfl, rfl, rfl⟩
    have hagain := beginLoad_alongside
      ((t.update ({ · with reloadPending := false })).note .takenUp) (.int 1) true
    rw [htaken]
    refine hbegun.followed hjournal (hfollows.toAlongside.trans hagain) ?_
    exact .followed (fun ht _ => .done ht hfollows true) hfollows.journal hagain
      (beginLoad_advances hdigest _ _ _)
  · rw [hsame]
    exact hbegun

end

end Session

end Folio
