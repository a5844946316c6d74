-- Pages that are kept. When no request has to wait, a page is shown without being asked for only if
-- it was kept since the last time that all pages were dropped and is not too old; it is shown as it
-- was fetched then, whatever has become of the rows in the view.
import Folio.Proofs.Customs
import Folio.Proofs.UnheldLoads

namespace Folio

/-- The digest tells two texts apart. -/
def Digest.Distinguishes (text other : List UInt8) : Prop :=
  Digest.sha256 text = Digest.sha256 other → text = other

namespace LoadEvent

/-- The plan by which a page was fetched. -/
def fetch? : LoadEvent → Option PagePlan
  | fetched _ _ plan _ => some plan
  | _ => none

/-- The query for which a page is shown again, and the move to it. -/
def recalled? : LoadEvent → Option (QueryConfig × PageMove)
  | recalled _ config move _ => some (config, move)
  | _ => none

def asks : LoadEvent → Bool
  | asked _ _ _ => true
  | _ => false

end LoadEvent

namespace Session

variable {s t u : Session}

/-! ## The custom where no request has to wait -/

/-- No request has to wait: no backend lets it, loads wait for schemas only, and whoever waits has
asked for one thing. -/
structure Quick (s : Session) : Prop where
  unheld : s.Unheld
  waits : ∀ p ∈ s.pauses, p.isSchema = true
  single : ∀ w ∈ s.actions, ∀ c, w.owner = .client c → c.todo = []

theorem Quick.of_actions (hs : s.Quick) (hunheld : t.Unheld) (hactions : t.actions ⊆ s.actions) :
    t.Quick where
  unheld := hunheld
  waits := fun p hp => hs.waits p (mem_pauses_of_actions hactions hp)
  single := fun w hw => hs.single w (hactions hw)

/-- Some of the pages that are kept may be dropped, and none is shown. -/
structure Eased (s t : Session) : Prop where
  lifetime : t.browser.cache.lifetime = s.browser.cache.lifetime
  pages : t.browser.cache.pages ⊆ s.browser.cache.pages
  journal : s.journal <+: t.journal
  shown : ∀ showing, .shown showing ∉ s.since t

theorem Eased.trans (hst : Eased s t) (htu : Eased t u) : Eased s u where
  lifetime := htu.lifetime.trans hst.lifetime
  pages := fun _ h => hst.pages (htu.pages h)
  journal := hst.journal.trans htu.journal
  shown := by
    intro showing hmem
    rw [since_trans hst.journal htu.journal] at hmem
    rcases List.mem_append.mp hmem with h | h
    · exact hst.shown showing h
    · exact htu.shown showing h

theorem useBackend_eased (s : Session) (connection : String) (backend : Nat) :
    Eased s (s.useBackend connection backend) := by
  obtain ⟨cache, unfiltered, hbrowser, hpages⟩ := useBackend_browser s connection backend
  have hjournal : (s.useBackend connection backend).journal = s.journal ++ [.connected backend] := rfl
  refine ⟨?_, ?_, ⟨_, hjournal.symm⟩, fun showing hmem => ?_⟩
  · unfold useBackend update note
    dsimp only
    split <;> rfl
  · rw [hbrowser]
    exact hpages
  · rw [since_eq hjournal] at hmem
    simp at hmem

theorem updateBackend_eased (s : Session) (number : Nat) (f : Backend → Backend) :
    Eased s (s.updateBackend number f) := by
  have hnone : ∀ showing, .shown showing ∉ s.since s := (SamePages.refl s).shown
  unfold updateBackend
  split
  · exact ⟨rfl, fun _ => id, List.prefix_rfl, hnone⟩
  · exact ⟨rfl, fun _ => id, List.prefix_rfl, hnone⟩

theorem updateBackend_unheld (hs : s.Unheld) (number : Nat) {f : Backend → Backend}
    (hf : ∀ b, (f b).held = false) : (s.updateBackend number f).Unheld := by
  unfold updateBackend
  split
  · intro c hc
    rcases List.mem_or_eq_of_mem_set hc with hmem | rfl
    · exact hs c hmem
    · exact hf _
  · exact hs

/-- Requests have to wait from then on. -/
def holdsRequests : Command → Bool
  | .backend _ .hold | .backend _ (.release true) => true
  | _ => false

/-- What is customary when no request has to wait. -/
def quick : Custom where
  sound := Quick
  changes := Eased
  loads := Gains fun _ => True
  waits := fun _ p => p.isSchema = true
  allows := fun command => holdsRequests command = false

theorem Goes.loaded {P : Load → Prop} {r : Session × Outcome LoadPause Bool} (hs : s.Quick)
    (h : Goes P s r) : quick.Loaded s r where
  loads := h.gains.weaken fun _ _ => trivial
  sound := hs.of_actions (h.gains.unheld hs.unheld) h.actions
  waits := h.waits

theorem quick_laws : quick.Laws where
  changes_trans := Eased.trans
  loosens := fun h hs =>
    ⟨⟨h.lifetime, h.pages, h.journal, h.shown⟩, hs.of_actions (h.unheld hs.unheld) h.actions⟩
  same := .of_same
  loads_same := .then_same
  connect := fun s connection backend hs =>
    ⟨useBackend_eased s connection backend, hs.of_actions hs.unheld fun _ => id⟩
  delete := fun s kept deleted hs =>
    ⟨⟨rfl, fun _ => id, List.prefix_rfl, (SamePages.refl s).shown⟩,
      hs.of_actions hs.unheld fun _ => id⟩
  hold := fun s number hallowed => by cases hallowed
  release := by
    intro s number keep hallowed hs
    cases keep with
    | true => cases hallowed
    | false =>
      refine ⟨updateBackend_eased s number _, hs.of_actions ?_ ?_⟩
      · exact updateBackend_unheld hs.unheld number fun _ => rfl
      · unfold updateBackend
        split <;> exact fun _ => id
  load := fun s page forced hs =>
    ((beginLoad_goes hs.unheld page forced).drain hs.unheld).loaded hs
  resume := fun s p hs hp => ((continueLoad_goes hs.unheld hp).drain hs.unheld).loaded hs
  waiting := fun hs => hs.waits
  waits_same := fun _ _ => id
  single := fun hs => hs.single
  park := by
    intro s t w hloads hs hpause hsingle
    have hcalm : Alongside t { t with waiting := t.waiting ++ [w] } :=
      ⟨rfl, id, List.prefix_rfl, List.prefix_rfl, (Alongside.refl t).connected⟩
    refine ⟨hloads.then_none hcalm rfl (SamePages.refl t).shown, hs.unheld, ?_, ?_⟩
    · intro p hp
      obtain ⟨v, hv, hp'⟩ := List.mem_filterMap.mp hp
      rcases mem_actions_park hv with hmem | rfl
      · exact hs.waits p (List.mem_filterMap.mpr ⟨v, hmem, hp'⟩)
      · exact hpause p hp'
    · intro v hv
      rcases mem_actions_park hv with hmem | rfl
      · exact hs.single v hmem
      · exact hsingle

/-! ## Dropping all pages -/

/-- What drops all pages that are kept: a refresh, another connection, and writing documents. -/
inductive Empties (s : Session) : Command → Prop where
  | refresh {intent : Value} (read : Intent.read intent = .ok .refresh) :
      Empties s (.dispatch intent)
  | visit {request : Web.WebRequest} (read : Web.read request = .ok (.intent .refresh)) :
      Empties s (.web request)
  | connect {connection : String} (other : s.browser.connection ≠ some connection)
      (connected : (s.perform (.connect connection)).2 = .done (.verdict true)) :
      Empties s (.connect connection)
  | delete {keys : Value} (succeeds : ∀ f, (s.perform (.delete keys)).2 ≠ .raised f) :
      Empties s (.delete keys)
  | update {key changes : Value} (succeeds : ∀ f, (s.perform (.update key changes)).2 ≠ .raised f) :
      Empties s (.update key changes)
  | upsert {rows : Value} (succeeds : ∀ f, (s.perform (.upsert rows)).2 ≠ .raised f) :
      Empties s (.upsert rows)

theorem Empties.startsEmpty {command : Command} (h : s.Empties command) :
    quick.StartsEmpty s (s.perform command) := by
  have hrefresh := Custom.emptiesFirst_startsEmpty quick_laws (refresh_emptiesFirst s)
  have ask : quick.allows command := by cases h <;> rfl
  cases h with
  | @refresh intent read =>
    have hperform : s.perform (.dispatch intent) = s.refresh := by
      change s.orRaise (Intent.read intent) s.dispatch = s.refresh
      rw [read]
      rfl
    exact hperform ▸ hrefresh
  | @visit request read =>
    have hperform : s.perform (.web request) =
        onWeb (s.browser.problem.map (·.number)) false s.refresh := by
      change s.visit request = _
      unfold Session.visit
      rw [read]
      rfl
    obtain ⟨t, hchanged, hnone, hfollows⟩ := hrefresh
    exact ⟨t, hchanged, hnone, hperform ▸ Custom.onWeb_follows hfollows _ _⟩
  | connect other connected =>
    exact Custom.emptiesFirst_startsEmpty quick_laws (connect_emptiesFirst ask other connected)
  | delete succeeds =>
    exact Custom.emptiesFirst_startsEmpty quick_laws ((delete_writes s ask).emptiesFirst succeeds)
  | update succeeds =>
    exact Custom.emptiesFirst_startsEmpty quick_laws
      ((updateDocument_writes s ask).emptiesFirst succeeds)
  | upsert succeeds =>
    exact Custom.emptiesFirst_startsEmpty quick_laws ((upsert_writes s ask).emptiesFirst succeeds)

/-! ## Runs -/

/-- Doing this drops all pages that are kept. -/
def Clears (s : Session) (operation : Operation) : Prop :=
  ∃ command, operation.command? = some command ∧ s.Empties command

/-- Nothing that is asked for lets requests wait. -/
def Flows (operations : List Operation) : Prop :=
  ∀ operation ∈ operations, ∀ command, operation.command? = some command →
    holdsRequests command = false

theorem Flows.sound {operations : List Operation} (h : Flows operations) (hs : s.Quick) :
    (s.after operations).Quick := Custom.sound_after quick_laws operations h hs

theorem Eased.emptied (h : Eased s t) (hnone : s.browser.cache.pages = []) :
    t.browser.cache.pages = [] := List.eq_nil_iff_forall_not_mem.mpr fun page hpage => by
  have hkept := h.pages hpage
  rw [hnone] at hkept
  cases hkept

/-- What is done drops pages that are kept, all of them if it clears, and then loads. -/
theorem operate_gains (hs : s.Quick) {operation : Operation} (hflows : Flows [operation]) :
    ∃ m, Eased s m ∧ Gains (fun _ => True) m (s.operate operation) ∧
      (s.Clears operation → m.browser.cache.pages = []) := by
  by_cases hclears : s.Clears operation
  · obtain ⟨command, hcommand, hempties⟩ := hclears
    cases operation with
    | ask number other =>
      cases hcommand
      obtain ⟨n, hchanged, hnone, hfollows⟩ := hempties.startsEmpty
      obtain ⟨heased, hn⟩ := hchanged hs
      obtain ⟨m, hmore, hgains, -⟩ := Custom.serve_obeys quick_laws hfollows
        ⟨number, false, [], [command]⟩ hn
      exact ⟨m, heased.trans hmore, hgains, fun _ => Eased.emptied hmore hnone⟩
    | _ => cases hcommand
  · obtain ⟨m, heased, hgains, -⟩ := Custom.operate_obeys quick_laws s
      (hflows operation List.mem_cons_self) hs
    exact ⟨m, heased, hgains, fun h => absurd h hclears⟩

/-- A page was kept when some operation was done, and nothing has dropped it since. -/
def KeptDuring (s : Session) (operations : List Operation) (page : CachedPage) : Prop :=
  ∃ earlier operation later, operations = earlier ++ operation :: later ∧
    Recorded (s.after earlier) (s.after (earlier ++ [operation])) page ∧
    ∀ between other rest, later = between ++ other :: rest →
      ¬ (s.after (earlier ++ operation :: between)).Clears other

theorem KeptDuring.snoc {operations : List Operation} {page : CachedPage} {last : Operation}
    (h : s.KeptDuring operations page) (hlast : ¬ (s.after operations).Clears last) :
    s.KeptDuring (operations ++ [last]) page := by
  obtain ⟨earlier, operation, later, rfl, hrecorded, hlater⟩ := h
  refine ⟨earlier, operation, later ++ [last], by simp, hrecorded, ?_⟩
  intro between other rest hsplit
  rcases List.eq_nil_or_concat rest with rfl | ⟨front, final, rfl⟩
  · obtain ⟨rfl, hother⟩ := List.append_inj' hsplit rfl
    cases hother
    exact hlast
  · rw [List.concat_eq_append, ← List.cons_append, ← List.append_assoc] at hsplit
    exact hlater between other front (List.append_inj' hsplit rfl).1

/-- Every page that is kept after a run was kept during it. -/
theorem kept_during (hs : s.Quick) (hnone : s.browser.cache.pages = [])
    (operations : List Operation) (hflows : Flows operations) :
    ∀ page ∈ (s.after operations).browser.cache.pages, s.KeptDuring operations page := by
  induction operations using List.reverseRecOn with
  | nil =>
    intro page hpage
    have hempty : page ∈ s.browser.cache.pages := hpage
    rw [hnone] at hempty
    cases hempty
  | append_singleton operations operation ih =>
    intro page hpage
    have hbefore : Flows operations := fun other hother => hflows other (List.mem_append_left _ hother)
    have hlast : Flows [operation] := fun other hother => hflows other (List.mem_append_right _ hother)
    obtain ⟨m, heased, hgains, hcleared⟩ := operate_gains (hbefore.sound hs) hlast
    rw [after_snoc] at hpage
    rcases hgains.pages page hpage with hkept | hrecorded
    · refine (ih hbefore page (heased.pages hkept)).snoc fun hclears => ?_
      rw [hcleared hclears] at hkept
      cases hkept
    · refine ⟨operations, operation, [], rfl, ?_, by simp⟩
      rw [after_snoc]
      exact hrecorded.earlier heased.journal hgains.journal

/-- How long pages hold never changes. -/
theorem lifetime_after (hs : s.Quick) (operations : List Operation) (hflows : Flows operations) :
    (s.after operations).browser.cache.lifetime = s.browser.cache.lifetime := by
  induction operations using List.reverseRecOn with
  | nil => rfl
  | append_singleton operations operation ih =>
    have hbefore : Flows operations := fun other hother => hflows other (List.mem_append_left _ hother)
    have hlast : Flows [operation] := fun other hother => hflows other (List.mem_append_right _ hother)
    obtain ⟨m, heased, hgains, -⟩ := operate_gains (hbefore.sound hs) hlast
    have hlifetime : _ = m.browser.cache.lifetime := congrArg Footing.lifetime hgains.footing
    rw [after_snoc, ← ih hbefore, ← heased.lifetime]
    exact hlifetime

theorem quick_start (browser : Browser) {backends : List Backend} (provider : Option Provider)
    (hunheld : ∀ b ∈ backends, b.held = false) : (Session.start browser backends provider).Quick where
  unheld := hunheld
  waits := fun _ hp => absurd hp List.not_mem_nil
  single := fun _ hw => absurd hw List.not_mem_nil

/-! ## The law -/

/-- Texts tell what their pages were made for. -/
theorem sameShape_of_pageBytes {f g : Footing} {load other : Load} {config config' : QueryConfig}
    {page page' : Int} (h : f.pageBytes load config page = g.pageBytes other config' page') :
    f.connection = g.connection ∧ load.collection = other.collection ∧ page = page' ∧
      f.pageSize = g.pageSize ∧ config.SameShape config' := by
  unfold Footing.pageBytes at h
  rw [Cache.pageBytes_eq_iff_inOrder, Cache.shape_inOrder_iff] at h
  obtain ⟨hconnection, hcollection, hpage, hsize, hshape⟩ := h
  exact ⟨hconnection, Option.some.inj hcollection, hpage, hsize, hshape⟩

/-- In every run in which no request has to wait, and whatever the clock shows: a page that is shown
without being asked for is not one of a load that is forced or of a query that aggregates. It is the
page that arrived when some earlier operation was done, with the same rows and the same number of
documents. That was not longer ago than pages hold, and nothing that drops all pages has been done
since. If the digest tells the texts of the two pages apart where they differ, the page arrived for
the same connection, collection, number and size of the page, and for a query of the same shape. -/
theorem unasked_page_was_kept (settings : Settings) (connection collection : Option String)
    (executor : Option Nat) (archive : Option Archive) (backends : List Backend)
    (provider : Option Provider) (hunheld : ∀ b ∈ backends, b.held = false) (start s t : Session)
    (before : List Operation) (operation : Operation) (hflows : Flows (before ++ [operation]))
    (hstart : start =
      .start (.start settings connection collection executor archive) backends provider)
    (hs : s = start.after before) (ht : t = s.operate operation) (showing : Showing)
    (hshown : .shown showing ∈ s.since t)
    (hunasked : ∀ sent plan, .asked sent showing.load plan ∉ s.since t) :
    showing.load.forced = false ∧ showing.config.aggregates = false ∧
    ∃ earlier arriving later u v, before = earlier ++ arriving :: later ∧ u = start.after earlier ∧
      v = u.operate arriving ∧
      ¬ t.clock - v.clock ≥ settings.pageLifetime ∧
      (∀ between other rest, later = between ++ other :: rest →
        ¬ (start.after (earlier ++ arriving :: between)).Clears other) ∧
      ∃ sent load plan view,
        .fetched sent load plan (view.rows.map .object) ∈ u.since v ∧
        .shown ⟨load, plan.config, view⟩ ∈ u.since v ∧
        showing.view = .ofRows view.rows view.total ∧
        ∃ move page, .recalled showing.load showing.config move page ∈ s.since t ∧
          (Digest.Distinguishes (v.footing.pageBytes load plan.config plan.move.page)
              (t.footing.pageBytes showing.load showing.config move.page) →
            v.browser.connection = t.browser.connection ∧
            load.collection = showing.load.collection ∧ plan.move.page = move.page ∧
            v.browser.paging.pageSize = t.browser.paging.pageSize ∧
            plan.config.SameShape showing.config) := by
  have hquick : start.Quick := hstart ▸ quick_start _ provider hunheld
  have hnone : start.browser.cache.pages = [] := by rw [hstart]; rfl
  have hlifetime : start.browser.cache.lifetime = settings.pageLifetime := by rw [hstart]; rfl
  have hbefore : Flows before := fun other hother => hflows other (List.mem_append_left _ hother)
  have hlast : Flows [operation] := fun other hother => hflows other (List.mem_append_right _ hother)
  have hsound : s.Quick := hs ▸ hbefore.sound hquick
  obtain ⟨m, heased, hgains, -⟩ := operate_gains hsound hlast
  rw [← ht] at hgains
  have hnew : .shown showing ∈ m.since t := by
    rw [since_trans heased.journal hgains.journal] at hshown
    exact (List.mem_append.mp hshown).resolve_left (heased.shown showing)
  obtain ⟨-, ⟨sent, plan, hasked⟩ | ⟨move, page, hrecalls⟩⟩ := hgains.shown showing hnew
  · exact absurd (mem_since_right heased.journal hgains.journal hasked) (hunasked sent plan)
  · obtain ⟨earlier, arriving, later, hsplit, ⟨a, hnoted, hkept⟩, hlater⟩ :=
      kept_during hquick hnone before hbefore page (hs ▸ heased.pages hrecalls.kept)
    rw [after_snoc] at hnoted hkept
    refine ⟨hrecalls.unforced, hrecalls.plain, earlier, arriving, later, _, _, hsplit, rfl, rfl, ?_,
      hlater, a.sent, a.load, a.plan, a.view, hnoted.fetched, hnoted.shown, ?_, move, page,
      mem_since_right heased.journal hgains.journal hrecalls.recalled, fun htold => ?_⟩
    · have hholds := hrecalls.holds
      have hkeptFor : m.browser.cache.lifetime = settings.pageLifetime := by
        rw [heased.lifetime, hs, lifetime_after hquick before hbefore, hlifetime]
      unfold PageCache.holds at hholds
      rw [hkept.fetchedAt, hkeptFor] at hholds
      simpa [footing] using hholds
    · rw [hrecalls.view, hkept.rows, hkept.total]
    · have hsame := htold (hkept.fingerprint.symm.trans hrecalls.fingerprint)
      exact sameShape_of_pageBytes hsame

/-! ## A page of another query -/

/-- A page that is shown without being asked for was fetched before, for the very same ranking. -/
def ShowsSameRanking (s t : Session) : Prop :=
  ∀ showing, .shown showing ∈ s.since t → (∀ sent plan, .asked sent showing.load plan ∉ s.since t) →
    ∃ move page, .recalled showing.load showing.config move page ∈ s.since t ∧
    ∃ sent load plan rows, .fetched sent load plan rows ∈ s.journal ∧ plan.move.page = move.page ∧
      plan.config.ranking.map RankNode.inOrder = showing.config.ranking.map RankNode.inOrder

/-- A browser of two documents with a number of either sign; a page holds one document. -/
def signedDocuments : Session :=
  .start (.start { Settings.default with pageSize := 1 } (some "main") (some "docs") (some 0) none)
    [.ofSource (.store ⟨[("docs", [⟨.int 1, [("id", .int 1), ("v", .int 1)]⟩,
      ⟨.int 2, [("id", .int 2), ("v", .int (-1))]⟩])], []⟩ true)] none

/-- Documents are to be ranked by a multiple of their number. -/
def rankByMultiple (x : Float) : Command :=
  .dispatch (.object [
    ("kind", .text "set_ranking_expression"),
    ("expression", .object [
      ("type", .text "operator"),
      ("operator", .text "Product"),
      ("operands", .list [
        .object [("type", .text "constant"), ("constant", .float x)],
        .object [("type", .text "attribute"), ("attribute", .text "v")]])])])

/-- Both pages of a ranking are shown, and then the first page of the ranking in reverse. -/
def reversedRanking : List Operation := [
  .ask 1 (.dispatch (.object [("kind", .text "set_ranking_mode"), ("mode", .text "expression")])),
  .job,
  .ask 2 (rankByMultiple (Number.infinity false)), .job, .ask 3 (.load (.int 2) false), .job,
  .ask 4 (rankByMultiple (Number.infinity true)), .job]

/-- The second page of the ranking in reverse is wanted. -/
def secondPage : Operation := .ask 5 (.load (.int 2) false)

/-- The text of a ranking. -/
def rankText (c : QueryConfig) : String := Json.canonical (.ofOption RankNode.toValue c.ranking)

theorem rankText_eq {c d : QueryConfig}
    (h : c.ranking.map RankNode.inOrder = d.ranking.map RankNode.inOrder) :
    rankText c = rankText d := by
  unfold rankText Json.canonical
  rw [(Json.valueText_eq_iff _ _).mpr ((QueryConfig.ranking_iff _ _).mpr h)]

/-- The page is shown without being asked for, and no second page was fetched for its ranking. -/
theorem secondPage_facts :
    let s := signedDocuments.after reversedRanking
    let events := s.since (s.operate secondPage)
    events.any LoadEvent.asks = false ∧ (events.filterMap LoadEvent.showing?).length = 1 ∧
      ∀ found ∈ events.filterMap LoadEvent.recalled?, ∀ plan ∈ s.journal.filterMap LoadEvent.fetch?,
        plan.move.page = found.2.page → rankText plan.config ≠ rankText found.1 := by
  decide +kernel

/-- The second page is shown without being asked for. -/
theorem secondPage_shown :
    let s := signedDocuments.after reversedRanking
    ∃ showing, .shown showing ∈ s.since (s.operate secondPage) ∧
      ∀ sent plan, .asked sent showing.load plan ∉ s.since (s.operate secondPage) := by
  obtain ⟨hunasked, hone, -⟩ := secondPage_facts
  obtain ⟨showing, hshowing⟩ := List.length_eq_one_iff.mp hone
  have hmem := List.mem_singleton_self showing
  rw [← hshowing] at hmem
  refine ⟨showing, LoadEvent.shown_of_showing hmem, fun sent plan hasked => ?_⟩
  exact absurd rfl (List.any_eq_false.mp hunasked _ hasked)

/-- It was fetched for another ranking: as both infinities are null in the text of a page, the second
page of the ranking in reverse is taken for the second page of the ranking. -/
theorem page_of_another_ranking_is_shown :
    ¬ ShowsSameRanking (signedDocuments.after reversedRanking)
      ((signedDocuments.after reversedRanking).operate secondPage) := by
  intro hsame
  obtain ⟨showing, hshown, hunasked⟩ := secondPage_shown
  obtain ⟨move, page, hrecalled, sent, load, plan, rows, hfetched, hpage, hranking⟩ :=
    hsame showing hshown hunasked
  obtain ⟨-, -, hother⟩ := secondPage_facts
  refine hother (showing.config, move) ?_ plan ?_ hpage (rankText_eq hranking)
  · exact List.mem_filterMap.mpr ⟨_, hrecalled, rfl⟩
  · exact List.mem_filterMap.mpr ⟨_, hfetched, rfl⟩

theorem reversedRanking_flows : Flows (reversedRanking ++ [secondPage]) := by
  intro operation hmem command hcommand
  simp only [reversedRanking, secondPage, List.cons_append, List.nil_append, List.mem_cons,
    List.not_mem_nil, or_false] at hmem
  rcases hmem with rfl | rfl | rfl | rfl | rfl | rfl | rfl | rfl | rfl <;> cases hcommand <;> rfl

/-- Apart from that it is a page that arrived in time. -/
theorem page_of_a_ranking_was_kept :
    let s := signedDocuments.after reversedRanking
    let t := s.operate secondPage
    ∃ showing, .shown showing ∈ s.since t ∧ showing.load.forced = false ∧
      ∃ earlier arriving later v, reversedRanking = earlier ++ arriving :: later ∧
        v = (signedDocuments.after earlier).operate arriving ∧
        ¬ t.clock - v.clock ≥ Settings.default.pageLifetime ∧
        ∃ load, ∃ plan : PagePlan, ∃ view,
          .shown ⟨load, plan.config, view⟩ ∈ (signedDocuments.after earlier).since v ∧
          showing.view = .ofRows view.rows view.total := by
  obtain ⟨showing, hshown, hunasked⟩ := secondPage_shown
  obtain ⟨hunforced, -, earlier, arriving, later, u, v, hsplit, rfl, hv, hfresh, -, sent, load, plan,
    view, -, harrived, hview, -⟩ :=
    unasked_page_was_kept { Settings.default with pageSize := 1 } (some "main") (some "docs") (some 0)
      none signedDocuments.backends none (by decide) signedDocuments _ _ reversedRanking secondPage
      reversedRanking_flows rfl rfl rfl showing hshown hunasked
  exact ⟨showing, hshown, hunforced, earlier, arriving, later, v, hsplit, hv, hfresh, load, plan, view,
    harrived, hview⟩

end Session

end Folio
