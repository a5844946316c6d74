-- Saved sets that are used again. However a session goes on after a set was saved, the set can be used
-- again at its place, as long as it was not deleted and not pushed out by later ones. The query gets
-- the search text and the filters that it had when they were saved, and the set is counted once more.
import Folio.Proofs.FirstLoads
import Folio.Proofs.Reloads
import Folio.Proofs.SavedCourse

namespace Folio.Session

variable {s t : Session} {e : SavedFilter} {connection collection : String}

/-! ## From saving to using again -/

/-- The set that was saved is the first that is seen and kept at its place. -/
theorem saved_lasts (hsound : s.browser.history.Sound) (hroom : 0 < s.browser.history.savedLimit)
    {given : Value} (hplace : s.browser.place? = some (connection, collection))
    (hsaved : s.perform (.saveFilter given) = (t, .done (.saved e))) :
    (∃ name, e = s.setNow name) ∧ t.ids = s.ids + 1 ∧
      t.browser.history = s.browser.history.act ⟨connection, collection, .save e⟩ ∧
      Lasts 0 e (t.browser.history.seenAt (History.place connection collection))
        (t.browser.history.keptAt (History.place connection collection)) := by
  change s.saveFilter given = _ at hsaved
  rcases s.saveFilter_cases given with ⟨f, hraised⟩ | ⟨c, n, name, hplace', hdone⟩
  · rw [hraised] at hsaved
    cases hsaved
  · rw [hplace] at hplace'
    cases hplace'
    rw [hdone] at hsaved
    obtain ⟨rfl, hreply⟩ := Prod.mk.inj hsaved
    obtain rfl : s.setNow name = e := Reply.saved.inj (Outcome.done.inj hreply)
    have hact : (s.newId.1.update fun b =>
        { b with history := b.history.save connection collection (s.setNow name) }).browser.history =
        s.browser.history.act ⟨connection, collection, .save (s.setNow name)⟩ := rfl
    refine ⟨⟨name, rfl⟩, rfl, rfl, ?_⟩
    have hseen := s.browser.history.seenAt_act ⟨connection, collection, .save (s.setNow name)⟩
    have hkept := hsound.keptAt_act ⟨connection, collection, .save (s.setNow name)⟩
    rw [hact]
    exact hseen ▸ hkept ▸ Lasts.saved hroom _ _ _

/-- The sets that come and go in the course of a run spare a set that was saved before: they are not
deletions of it, and there are ids for all of them. -/
theorem edits_spare (hs : s.Unhindered) {operations : List Operation} {place : String} {n : Nat}
    (hc : ∀ operation ∈ operations, ∀ command, operation.command? = some command →
      command.Unhindering)
    (hid : e.id = idOf n) (hn : n < s.ids) (hids : (s.after operations).ids ≤ 16 ^ 32)
    (hstays : ∀ a ∈ s.edits operations, a.place = place → a.task.deletes e.id = false) :
    ∀ a ∈ s.edits operations, a.place = place → a.task.Spares e.id := by
  intro a ha hplace
  have hdeletes := hstays a ha hplace
  have hsaves := edits_ids hs hc a ha
  generalize a.task = task at *
  cases task with
  | save entry =>
    obtain ⟨m, hfrom, hbelow, hm⟩ := hsaves entry rfl
    intro hsame
    have heq := idOf_injective (by omega) (by omega) (hm.symm.trans (hsame.trans hid))
    omega
  | deleteSaved id => exact beq_eq_false_iff_ne.mp hdeletes
  | _ => trivial

/-- A set lasts through a run in which it is not deleted, and in which fewer sets are saved at its
place than the limit allows. -/
theorem lasts_after (hs : s.Unhindered) (hsound : s.browser.history.Sound)
    {operations : List Operation} {place : String} {n : Nat}
    (hc : ∀ operation ∈ operations, ∀ command, operation.command? = some command →
      command.Unhindering)
    (hlasts : Lasts 0 e (s.browser.history.seenAt place) (s.browser.history.keptAt place))
    (hid : e.id = idOf n) (hn : n < s.ids) (hids : (s.after operations).ids ≤ 16 ^ 32)
    (hstays : ∀ a ∈ s.edits operations, a.place = place → a.task.deletes e.id = false)
    (hroom : (savesAt place (s.edits operations) : Int) < s.browser.history.savedLimit) :
    (s.after operations).Unhindered ∧ (s.after operations).browser.history.Sound ∧
      Lasts (savesAt place (s.edits operations)) e
        ((s.after operations).browser.history.seenAt place)
        ((s.after operations).browser.history.keptAt place) := by
  obtain ⟨acts, hacts, hlives⟩ := after_lives hs operations hc
  have hspares := edits_spare hs hc hid hn hids hstays
  rw [← hacts] at hroom hspares ⊢
  rw [savesAt_filter_edits] at hroom ⊢
  refine ⟨hlives.unhindered hs, hlives.history ▸ hsound.after acts, ?_⟩
  rw [hlives.history]
  refine hsound.lasts_after acts hlasts (fun a ha hplace => ?_) hroom
  cases hedits : a.task.edits with
  | true => exact hspares a (List.mem_filter.mpr ⟨ha, hedits⟩) hplace
  | false => exact HistoryTask.spares_of_edits hedits e.id

/-! ## Using again -/

/-- A set has been used again at its place. The query has its search text and its filters, these
perhaps made anew by what is known of the attributes, and all else that it had before; the walk is
on the first page; and the set is counted once more, in what is seen and in what the archive keeps. -/
structure UsedAgain (e : SavedFilter) (connection collection : String) (s t : Session) : Prop where
  query : let query := { s.browser.config with
      searchText := e.searchText, predicates := e.predicates }
    t.browser.config = query ∨ t.browser.config = query.retyped t.browser.registry
  page : t.browser.paging.page = 1
  seen : t.browser.savedFilters =
    ((s.browser.history.lists connection collection).countApplied e.id).saved
  kept : t.browser.history.kept connection collection =
    (s.browser.history.kept connection collection).countApplied e.id
  counted : ∃ x : SavedFilter, x.IsCopyOf e ∧
    (s.browser.savedFilters.find? (·.id == e.id) = some x ∧
      t.browser.savedFilters.find? (·.id == e.id) = some { x with applied := x.applied + 1 }) ∧
    ((s.browser.history.kept connection collection).saved.find? (·.id == e.id) = some x ∧
      (t.browser.history.kept connection collection).saved.find? (·.id == e.id) =
        some { x with applied := x.applied + 1 })

/-- Other filters are put in the place of those in use, and the first page is loaded anew. -/
theorem applyFilters_settles (hs : ∀ b ∈ s.backends, b.Serves) (searchText : String)
    (predicates : List Predicate) :
    let query := { s.browser.config with searchText := searchText, predicates := predicates }
    ∃ t, s.applyFilters searchText predicates = (t, .done (.verdict true)) ∧
      (t.browser.config = query ∨ t.browser.config = query.retyped t.browser.registry) ∧
      t.browser.place? = s.browser.place? ∧ t.browser.paging.page = 1 ∧
      t.browser.history = s.browser.history := by
  intro query
  have hchanged := (reconfigure_remembers s query true).trans (cancelRun_remembers _)
  have hremembers : Remembers [] s (s.applyFilters searchText predicates).1 :=
    hchanged.trans (reloadFirst_remembers _ _)
  let m := (s.reconfigure query true).cancelRun
  have hm : m.browser = s.browser.reconfigure query := by
    obtain ⟨-, -, -, hbrowser⟩ := cancelRun_drops (s.reconfigure query true)
    exact hbrowser
  have hserves : ∀ b ∈ m.backends, b.Serves := hchanged.serves hs
  have hfirst : m.browser.paging.page = 1 := hm ▸ rfl
  obtain ⟨t, shown, ht, hsettles⟩ := reloadFirst_settles hserves hfirst (.reply (.verdict true))
  have happlied : s.applyFilters searchText predicates = (t, .done (.verdict true)) := ht
  refine ⟨t, happlied, ?_, ?_, hsettles.page, ?_⟩
  · have hconfig : m.browser.config = query := hm ▸ rfl
    rw [← hconfig]
    exact hsettles.config.imp_left And.left
  · have hplace : m.browser.place? = s.browser.place? := hm ▸ rfl
    exact hsettles.place.trans hplace
  · have hhistory := hremembers.history
    rwa [happlied] at hhistory

/-- A set that lasts is used again when somebody asks for it. -/
theorem applySaved_lasting {n : Nat} (hs : s.Unhindered) (hsound : s.browser.history.Sound)
    (hplace : s.browser.place? = some (connection, collection))
    (hlasts : Lasts n e (s.browser.history.seenAt (History.place connection collection))
      (s.browser.history.keptAt (History.place connection collection))) :
    ∃ t, s.perform (.applySaved e.id) = (t, .done (.verdict true)) ∧
      UsedAgain e connection collection s t := by
  obtain ⟨x, newer, hcopy, hseen, hkept⟩ := hlasts
  have hid : x.id = e.id := by rw [hcopy]
  -- The set that is found has the search text and the filters of the one that was saved.
  have hfound : s.browser.history.findSaved? connection collection e.id = some x := by
    rw [← hid]
    exact hseen.find?
  let m := s.update fun b =>
    { b with history := b.history.markApplied connection collection e.id }
  have happlied : s.perform (.applySaved e.id) = m.applyFilters x.searchText x.predicates := by
    change s.applySaved e.id = _
    unfold applySaved atPlace
    rw [hplace]
    dsimp only
    rw [hfound]
  obtain ⟨t, ht, hquery, hstill, hpage, hhistory⟩ :=
    applyFilters_settles (s := m) hs.serves x.searchText x.predicates
  have hthere : t.browser.place? = some (connection, collection) := hstill.trans hplace
  have hact : t.browser.history =
      s.browser.history.act ⟨connection, collection, .markApplied e.id⟩ := hhistory
  have hlists : t.browser.history.lists connection collection =
      (s.browser.history.lists connection collection).countApplied e.id := by
    rw [hact]
    exact History.seenAt_act ⟨connection, collection, .markApplied e.id⟩
  have hkeptNow : t.browser.history.kept connection collection =
      (s.browser.history.kept connection collection).countApplied e.id := by
    rw [hact]
    exact hsound.keptAt_act ⟨connection, collection, .markApplied e.id⟩
  have hshown : ∀ u : Session, u.browser.place? = some (connection, collection) →
      u.browser.savedFilters = (u.browser.history.lists connection collection).saved := by
    intro u hu
    unfold Browser.savedFilters
    rw [hu]
    rfl
  refine ⟨t, happlied.trans ht, ?_, hpage, ?_, hkeptNow, x, hcopy, ⟨?_, ?_⟩, ?_, ?_⟩
  · rw [hcopy] at hquery
    exact hquery
  · rw [hshown t hthere, hlists]
  · rw [hshown s hplace, ← hid]
    exact hseen.find?
  · rw [hshown t hthere, hlists, ← hid]
    exact hseen.counted
  · rw [← hid]
    exact hkept.find?
  · rw [hkeptNow, ← hid]
    exact hkept.counted

/-! ## Whole runs -/

section

variable {settings : Settings} {connected selected : Option String} {executor : Option Nat}
  {archive : Archive} {backends : List Backend} {provider : Option Provider}

/-- A browser with an archive, before anything is done. -/
def startWith (settings : Settings) (connected selected : Option String) (executor : Option Nat)
    (archive : Archive) (backends : List Backend) (provider : Option Provider) : Session :=
  .start (.start settings connected selected executor (some archive)) backends provider

/-- From the beginning on nobody has to wait, and the archive does not fail. -/
theorem startWith_after (hserves : ∀ b ∈ backends, b.Serves) (hworks : archive.failing = [])
    {operations : List Operation} (hc : ∀ operation ∈ operations, ∀ command,
      operation.command? = some command → command.Unhindering) :
    let s := (startWith settings connected selected executor archive backends provider).after operations
    s.Unhindered ∧ s.browser.history.Sound ∧ s.browser.history.savedLimit = settings.savedLimit := by
  intro s
  have hstart : (startWith settings connected selected executor archive backends
      provider).Unhindered := ⟨hserves, fun _ hw => by cases hw⟩
  obtain ⟨acts, -, hlives⟩ := after_lives hstart operations hc
  refine ⟨hlives.unhindered hstart, ?_, ?_⟩
  · rw [hlives.history]
    exact History.Sound.after ⟨archive, rfl, hworks⟩ acts
  · rw [hlives.history]
    exact (History.limits_after _ acts).1

/-- A saved set can be used again. Whatever is done before and after a set is saved, one thing after
another: when its place is selected again, the set was not deleted there, and fewer sets than the limit
allows were saved there since, then using it succeeds, and brings back the search text and the filters
that were in use when it was saved. No id is given out twice, as long as there are any left. -/
theorem saved_filters_come_back (hserves : ∀ b ∈ backends, b.Serves) (hworks : archive.failing = [])
    (before later : List Operation) (number : Nat) (name : Value)
    (hc : ∀ operation ∈ before ++ later, ∀ command, operation.command? = some command →
      command.Unhindering) {s saving t : Session}
    (hs : (startWith settings connected selected executor archive backends provider).after before = s)
    (hplace : s.browser.place? = some (connection, collection))
    (hsaved : s.perform (.saveFilter name) = (saving, .done (.saved e)))
    (ht : (s.operate (.ask number (.saveFilter name))).after later = t)
    (hback : t.browser.place? = some (connection, collection))
    (hstays : ∀ a ∈ (s.operate (.ask number (.saveFilter name))).edits later,
      a.place = History.place connection collection → a.task.deletes e.id = false)
    (hroom : (savesAt (History.place connection collection)
      ((s.operate (.ask number (.saveFilter name))).edits later) : Int) < settings.savedLimit)
    (hids : t.ids ≤ 16 ^ 32) :
    e.searchText = s.browser.config.searchText ∧ e.predicates = s.browser.config.predicates ∧
      ∃ u, t.perform (.applySaved e.id) = (u, .done (.verdict true)) ∧
        UsedAgain e connection collection t u := by
  obtain ⟨hunhindered, hsound, hlimit⟩ := startWith_after hserves hworks
    fun operation hmem => hc operation (List.mem_append_left _ hmem)
  rw [hs] at hunhindered hsound hlimit
  obtain ⟨⟨text, rfl⟩, hnext, hact, hlasts⟩ := saved_lasts hsound (by omega) hplace hsaved
  refine ⟨rfl, rfl, ?_⟩
  have hasked := operate_ask_done number hsaved
  have hafter : (s.operate (.ask number (.saveFilter name))).Unhindered := by
    obtain ⟨_, -, hsaving⟩ :=
      s.perform_edits (show (Command.saveFilter name).Unhindering from ⟨trivial, trivial⟩)
    exact (serve_lives hsaving _).unhindered hunhindered
  generalize s.operate (.ask number (.saveFilter name)) = m at *
  have hhistory : m.browser.history = saving.browser.history := hasked ▸ rfl
  rw [← hhistory] at hact hlasts
  have hlimit' : m.browser.history.savedLimit = settings.savedLimit := by
    rw [hact]
    exact (History.limits_act _).1.trans hlimit
  have hgiven : s.ids < m.ids := by
    rw [hasked]
    exact hnext ▸ Nat.lt_succ_self _
  -- What is done after the set was saved spares it, so that it lasts until it is used again.
  obtain ⟨hready, hstill, hthen⟩ := lasts_after hafter (hact ▸ hsound.act _)
    (fun operation hmem => hc operation (List.mem_append_right _ hmem)) hlasts rfl hgiven
    (ht ▸ hids) hstays (hlimit' ▸ hroom)
  rw [ht] at hready hstill hthen
  exact applySaved_lasting hready hstill hback hthen

end

/-- A search that was typed. -/
def typedSearch : Session :=
  (startWith { Settings.default with savedLimit := 2 } (some "main") (some "docs") (some 0) .empty
    [threeDocs] none).after [.ask 1 (.dispatch (Intent.setSearchText "red").toValue)]

/-- The search is saved and given up. Another set is saved and deleted, and one more is saved for
another collection. -/
def givenUp : List Operation := [
  .ask 2 (.dispatch Intent.clearFilters.toValue),
  .ask 2 (.saveFilter (.text "all")),
  .job,
  .ask 3 (.deleteSaved (idOf 1)),
  .ask 3 (.dispatch (Intent.setCollection (some "other")).toValue),
  .ask 3 (.saveFilter (.text "there")),
  .ask 4 (.dispatch (Intent.setCollection (some "docs")).toValue)]

/-- The search is there again when it is used. -/
theorem search_that_was_given_up_comes_back :
    let t := (typedSearch.operate (.ask 1 (.saveFilter (.text "reds")))).after givenUp
    t.browser.config.searchText = "" ∧
    ∃ u, t.perform (.applySaved (idOf 0)) = (u, .done (.verdict true)) ∧
      u.browser.config.searchText = "red" ∧
      UsedAgain (typedSearch.setNow "reds") "main" "docs" t u := by
  intro t
  have hserves : ∀ b ∈ [threeDocs], b.Serves := by
    intro b hb
    rw [List.mem_singleton.mp hb]
    exact ⟨threeDocs_keyed, rfl, rfl⟩
  have hplace : typedSearch.browser.place? = some ("main", "docs") := by decide +kernel
  have hback : t.browser.place? = some ("main", "docs") := by decide +kernel
  have hstays : ∀ a ∈ (typedSearch.operate (.ask 1 (.saveFilter (.text "reds")))).edits givenUp,
      a.place = History.place "main" "docs" →
        a.task.deletes (typedSearch.setNow "reds").id = false := by
    decide +kernel
  have hroom : (savesAt (History.place "main" "docs")
      ((typedSearch.operate (.ask 1 (.saveFilter (.text "reds")))).edits givenUp) : Int) < 2 := by
    decide +kernel
  have hids : t.ids ≤ 16 ^ 32 := by decide +kernel
  have hgiven : (typedSearch.setNow "reds").id = idOf 0 := by decide +kernel
  have hc : ∀ operation ∈ [Operation.ask 1 (.dispatch (Intent.setSearchText "red").toValue)] ++ givenUp,
      ∀ command, operation.command? = some command → command.Unhindering := by
    intro operation hmem command hcommand
    suffices hboth : command.GivesKeys ∧ command.Eager from ⟨hboth.1, hboth.2⟩
    revert operation command
    simp [givenUp, Operation.command?, Command.GivesKeys, Command.Eager]
  obtain ⟨-, -, u, hu, hused⟩ := saved_filters_come_back hserves rfl _ givenUp 1 (.text "reds") hc rfl
    hplace (saveFilter_at hplace "reds") rfl hback hstays hroom hids
  refine ⟨by decide +kernel, u, hgiven ▸ hu, ?_, hused⟩
  have hred : (typedSearch.setNow "reds").searchText = "red" := by decide +kernel
  rcases hused.query with hquery | hquery <;> rw [hquery] <;> exact hred

end Folio.Session
