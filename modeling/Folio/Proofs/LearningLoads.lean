-- What is learned in a load. A load takes over a schema and shows a page, whose rows are looked
-- through later. A page that has arrived tells of the collection that it was asked for; a page that
-- was kept does so because the digest tells the texts of pages apart.
import Folio.Proofs.ToldAttributes

namespace Folio.Session

variable {s t u : Session} {load : Load} {plan : PagePlan} {T : Testimony}

/-! ## What is learned on the way -/

/-- All that is learned on the way from one session to another has been told. -/
structure Teaches (T : Testimony) (s t : Session) : Prop where
  place : SamePlace s t
  lore : Lore T s → Heard T s t → Lore T t

namespace Teaches

theorem of_untaught (h : Untaught s t) : Teaches T s t := ⟨h.samePlace, fun hs _ => h.lore hs⟩

theorem refl (s : Session) : Teaches T s s := of_untaught (.refl s)

theorem of_takes (h : TakesSchema T s t) : Teaches T s t :=
  ⟨h.place, fun hs hheard => h.lore hs hheard (.refl t)⟩

/-- Attributes are taken over from a schema first. -/
theorem after (hst : TakesSchema T s t) (htu : Teaches T t u) : Teaches T s u where
  place := hst.place.trans htu.place
  lore := fun hs hheard => htu.lore (hst.lore hs hheard htu.place)
    (hheard.later hst.place.grown htu.place.grown.journal)

theorem followed (hst : Teaches T s t) (footing : u.footing = t.footing) (htu : Teaches T t u) :
    Teaches T s u where
  place := hst.place.trans htu.place
  lore := fun hs hheard => htu.lore (hst.lore hs (hheard.earlier htu.place footing))
    (hheard.later hst.place.grown htu.place.grown.journal)

end Teaches

/-- All that is learned in a load has been told, and what it waits for is of use. -/
structure Learns (T : Testimony) (s : Session) (r : Session × Outcome LoadPause Bool) : Prop where
  teaches : Teaches T s r.1
  waits : ∀ p, r.2 = .paused p → r.1.Awaits p

namespace Learns

variable {r : Session × Outcome LoadPause Bool}

theorem done (h : Teaches T s t) (shown : Bool) : Learns T s (t, .done shown) :=
  ⟨h, fun _ hp => by cases hp⟩

theorem raised (h : Teaches T s t) (f : Fault) : Learns T s (t, .raised f) :=
  ⟨h, fun _ hp => by cases hp⟩

theorem paused {p : LoadPause} (h : Teaches T s t) (hp : t.Awaits p) : Learns T s (t, .paused p) := by
  refine ⟨h, fun other hother => ?_⟩
  cases hother
  exact hp

theorem after (hst : TakesSchema T s t) (h : Learns T t r) : Learns T s r :=
  ⟨.after hst h.teaches, h.waits⟩

end Learns

/-! ## Showing a page -/

/-- A page is shown, and perhaps kept, whose rows show what has been told. -/
theorem Lore.present (hs : Lore T s) {collection : String} {rows : List Fields}
    (alongside : Alongside s t) (learning : t.browser.learning = s.browser.learning)
    (actions : t.actions ⊆ s.actions)
    (discoveries : ∀ found ∈ t.discoveries, found ∈ s.discoveries ∨ found = (collection, rows))
    (pages : ∀ page ∈ t.browser.cache.pages, page ∈ s.browser.cache.pages ∨ Vouched T s page)
    (htold : T.ToldRows s.browser.connection collection s.browser.settings.sampleLimit rows) :
    Lore T t := by
  have hcollection : t.browser.collection = s.browser.collection :=
    congrArg Learning.collection learning
  refine hs.keep (congrArg Footing.connection alongside.footing) learning actions ?_ pages
    fun p hp => ?_
  · refine fun found hfound => (discoveries found hfound).imp_right ?_
    rintro rfl
    exact htold
  · exact (hs.waits p (mem_pauses_of_actions actions hp)).keep
      (congrArg Footing.connection alongside.footing) (congrArg Footing.executor alongside.footing)
      hcollection (Nat.le_of_eq (congrArg Footing.generation alongside.footing).symm)
      (.inl (congrArg Footing.pageSize alongside.footing))

theorem discoveries_spawn (s : Session) (collection : String) (rows : List Fields) :
    ∀ found ∈ (s.spawn (.discover collection rows)).discoveries,
      found ∈ s.discoveries ∨ found = (collection, rows) := by
  intro found hfound
  unfold discoveries Session.spawn at hfound
  rw [List.filterMap_append] at hfound
  exact (List.mem_append.mp hfound).imp_right List.mem_singleton.mp

/-- A load waits for what is of use as long as the collection that is looked at stays. -/
theorem Awaits.along {p : LoadPause} (h : s.Awaits p) (hst : Alongside s t)
    (hcollection : t.browser.collection = s.browser.collection) : t.Awaits p :=
  h.keep (congrArg Footing.connection hst.footing) (congrArg Footing.executor hst.footing) hcollection
    (Nat.le_of_eq (congrArg Footing.generation hst.footing).symm)
    (.inl (congrArg Footing.pageSize hst.footing))

/-! ## The course of a load -/

variable {leg next : Leg}

/-- A stride that shows no page learns at most what a schema tells. -/
theorem Stride.takes (h : Stride (s, leg) (t, next))
    (hwants : ∀ query load, leg = .taught query load → s.Wants query)
    (hunshown : ∀ load, next ≠ .stops load (.done true)) : TakesSchema T s t := by
  have hsame := h.samePages hunshown
  cases h with
  | learn known =>
    have hensured := ensureAttributes_takes (T := T) s
    rwa [known] at hensured
  | @take _ _ query load taken =>
    have htaken := (hwants query load rfl).takes (T := T)
    rwa [taken] at htaken
  | @hear _ _ sent _ _ _ respond | @receive _ _ sent _ _ _ _ respond =>
    have hresponds := respond_untaught s sent
    rw [respond] at hresponds
    exact hresponds.takes
  | count unknown request | ask request =>
    cases request
    exact (Untaught.of_same hsame rfl (fun _ => id) rfl).takes
  | close _ load outcome =>
    cases outcome <;> exact (Untaught.of_same hsame rfl (fun _ => id) rfl).takes
  | showAgain | display => exact absurd rfl (hunshown _)
  | _ => exact (Untaught.of_same hsame rfl (fun _ => id) rfl).takes

/-- What a load has learned, and what it may still learn from, on each of its legs. -/
def LearnsOn (T : Testimony) (s t : Session) : Leg → Prop
  | .wanted _ _ => Teaches T s t
  | .begun load => Teaches T s t ∧ t.Meant load
  | .taught query load => Teaches T s t ∧ t.Wants query ∧ t.Awaits (.schema query load)
  | .ready load => Teaches T s t ∧ (load.generation < t.browser.generation ∨ t.Meant load)
  | .due load => Teaches T s t ∧ t.Meant load
  | .planned load plan | .counted load plan _ | .told load plan _ =>
      Teaches T s t ∧ ∀ sent, t.Awaits (.count sent load plan)
  | .counting sent load plan => Teaches T s t ∧ t.Awaits (.count sent load plan)
  | .asking sent load plan total => Teaches T s t ∧ t.Awaits (.page sent load plan total)
  | .answered sent load plan total answer => Teaches T s t ∧ t.Awaits (.page sent load plan total) ∧
      ∀ response, answer = .ok response → .answer sent response ∈ s.given t
  | .turned sent load plan total rows response => Teaches T s t ∧
      t.Awaits (.page sent load plan total) ∧ .answer sent response ∈ s.given t ∧
      .fetched sent load plan rows ∈ s.since t ∧ View.rowsIn response = .ok rows
  | .stops _ outcome | .over outcome => Learns T s (t, outcome)

/-- A page that has arrived is shown and kept, and will be looked through. It tells of the collection
that it was asked for. -/
theorem showFetched_learns {sent : Sent} {total : Int} {rows : List Value} {response : Value}
    {view : View} (h : LearnsOn T s t (.turned sent load plan total rows response))
    (hcurrent : t.browser.generation = load.generation)
    (hread : View.read rows total plan.config.aggregates response = .sound view) :
    Learns T s ((t.showFetched load plan view).1, .done true) := by
  obtain ⟨hst, hawaits, hanswer, hfetched, hrows⟩ := h
  rw [← rows_of_read hread] at hfetched hrows
  -- The load is not out of date, so that the backend it asked is still in use.
  obtain ⟨hmeant, hprint, hexecutor, hcollection⟩ :=
    hawaits.resolve_left (Nat.not_lt.mpr (Nat.le_of_eq hcurrent))
  have hshows := showFetched_shows t load plan view
  obtain ⟨cache, hbrowser, hpages⟩ := showFetched_browser t load plan view
  have hlearning : (t.showFetched load plan view).1.browser.learning = t.browser.learning := by
    rw [hbrowser]
    rfl
  have hplace : SamePlace t (t.showFetched load plan view).1 :=
    ⟨hshows.grown, congrArg Footing.connection hshows.footing,
      congrArg Footing.executor hshows.footing, congrArg Learning.collection hlearning,
      congrArg Learning.settings hlearning, fun _ => rfl⟩
  refine .done ⟨hst.place.trans hplace, fun hs hheard => ?_⟩ true
  have htext := hheard.texts _ (.fetched (since_mono hshows.journal hfetched))
  rw [hshows.footing] at htext
  have htold : T.ToldRows t.browser.connection load.collection t.browser.settings.sampleLimit
      view.rows := by
    intro found hfound a ha
    refine hheard.tells _ (mem_disclosed.mpr ⟨hplace.connection,
      hplace.collection.trans hmeant.collection, .inr ?_⟩)
    have hkinds : kindsShown t.browser.settings.sampleLimit response = found.map Attribute.kind :=
      kindsShown_rows hrows hfound
    unfold revealed
    rw [List.mem_flatMap, hplace.executor, hplace.settings]
    refine ⟨_, given_mono hshows.yielded hanswer, ?_⟩
    dsimp only
    rw [if_pos ⟨hexecutor, hcollection⟩, hkinds]
    exact List.mem_map_of_mem ha
  refine (hst.lore hs (hheard.earlier hplace hshows.footing)).present hshows.toAlongside hlearning
    hshows.actions (discoveries_spawn _ _ _) (fun page hpage => ?_) htold
  rw [hbrowser] at hpage
  refine (hpages page hpage).imp_right ?_
  rintro rfl
  exact ⟨load.collection, plan.config, plan.move.page, t.browser.paging.pageSize, htext, hprint, htold⟩

section

variable (hdigest : ∀ a b, T.texts a → T.texts b → Digest.Distinguishes a b)

include hdigest

/-- A page that was kept was fetched for the collection that it is shown for. -/
theorem showKept_teaches {move : PageMove} {page : CachedPage} {paging : Paging}
    (hrecalled : Recalled s.browser load move page)
    (hcommit : s.browser.paging.commit move (page.rows.map .object) = .ok paging) :
    Teaches T s (s.showKept load s.browser.config move page).1 := by
  obtain ⟨hshows, hnoted, hcache⟩ := showKept_shows load s.browser.config hcommit
  have hlearning : (s.showKept load s.browser.config move page).1.browser.learning =
      s.browser.learning := by
    rw [showKept_committed hcommit]
    rfl
  have hdiscoveries : ∀ found ∈ (s.showKept load s.browser.config move page).1.discoveries,
      found ∈ s.discoveries ∨ found = (load.collection, page.rows) := by
    rw [showKept_committed hcommit]
    exact discoveries_spawn _ _ _
  refine ⟨⟨hshows.grown, congrArg Footing.connection hshows.footing,
    congrArg Footing.executor hshows.footing, hshows.collection,
    congrArg Learning.settings hlearning, fun query => ?_⟩, fun hs hheard => ?_⟩
  · unfold schemaShown? backend?
    rw [hshows.backends]
  · refine hs.present hshows.toAlongside hlearning hshows.actions hdiscoveries
      (fun other hother => .inl (hcache ▸ hother)) ?_
    obtain ⟨collection, made, number, size, hmade, hdigested, hrows⟩ := hs.pages page hrecalled.kept
    -- What the page was fetched for and what it is shown for have one digest.
    have htext := hheard.texts _ (.recalled hnoted)
    rw [hshows.footing] at htext
    have hsame := hdigest _ _ hmade htext (hdigested.symm.trans hrecalled.fingerprint)
    unfold Footing.pageBytes at hsame
    rw [Cache.pageBytes_eq_iff_inOrder, Cache.shape_inOrder_iff] at hsame
    obtain ⟨-, hcollection, -⟩ := hsame
    cases Option.some.inj hcollection
    exact hrows

/-- Every stride of a load learns what has been told. -/
theorem LearnsOn.stride (hstride : Stride (t, leg) (u, next)) (h : LearnsOn T s t leg) :
    LearnsOn T s u next := by
  have halong := hstride.alongside
  have htakes : (∀ load, next ≠ .stops load (.done true)) → TakesSchema T t u := by
    refine fun hunshown => hstride.takes (fun query load hleg => ?_) hunshown
    subst hleg
    exact h.2.1
  have hteaches : (∀ load, next ≠ .stops load (.done true)) → Teaches T s t → Teaches T s u :=
    fun hunshown hst => hst.followed halong.footing (.of_takes (htakes hunshown))
  have hawaits : ∀ {p}, (∀ load, next ≠ .stops load (.done true)) → t.Awaits p → u.Awaits p :=
    fun hunshown hp => hp.along halong (htakes hunshown).place.collection
  have hmeant : ∀ {load}, (∀ load, next ≠ .stops load (.done true)) → t.Meant load → u.Meant load :=
    fun hunshown hload => hload.keep (congrArg Footing.generation halong.footing)
      (htakes hunshown).place.collection (htakes hunshown).place.executor
  cases hstride with
  | idle => exact .done (hteaches (by simp) h) _
  | refuse => exact .done (hteaches (by simp) h) _
  | begin current loading executor =>
    exact ⟨hteaches (by simp) h, hmeant (by simp) ⟨rfl, collection_of_current current, _, executor⟩⟩
  | learn => exact ⟨hteaches (by simp) h.1, .inr (hmeant (by simp) h.2)⟩
  | take =>
    refine ⟨hteaches (by simp) h.1, h.2.2.imp (fun hstale => ?_) fun hload => hmeant (by simp) hload.1⟩
    have hsame : u.browser.generation = t.browser.generation :=
      congrArg Footing.generation halong.footing
    rw [hsame]
    exact hstale
  | retype current =>
    have hload := h.2.resolve_left (Nat.not_lt.mpr (Nat.le_of_eq current))
    exact ⟨hteaches (by simp) h.1, hmeant (by simp) hload⟩
  | decide planned =>
    have hprint := planned.fingerprint
    rw [← planned.config] at hprint
    exact ⟨h.1, fun _ => .inr ⟨h.2, hprint⟩⟩
  | showAgain recalled target found commit =>
    exact .done (h.1.followed halong.footing (showKept_teaches hdigest recalled commit)) true
  | know => exact h
  | count => exact ⟨hteaches (by simp) h.1, hawaits (by simp) (h.2 _)⟩
  | hear => exact ⟨hteaches (by simp) h.1, fun _ => hawaits (p := .count _ _ _) (by simp) h.2⟩
  | tell => exact h
  | @ask _ v load plan total sent request =>
    refine ⟨hteaches (by simp) h.1, (hawaits (by simp) (h.2 sent)).imp_right
      fun ⟨hload, hprint⟩ => ⟨hload, hprint, ?_, ?_⟩⟩
    · obtain ⟨backend, hbackend⟩ := hload.executor
      cases request
      have hsame : t.browser.executor = some backend := hbackend
      change t.browser.executor = some (t.browser.executor.getD 0)
      rw [hsame, Option.getD_some]
    · cases request
      rfl
  | receive respond =>
    refine ⟨hteaches (by simp) h.1, hawaits (by simp) h.2, fun response hresponse => ?_⟩
    subst hresponse
    exact mem_given_new h.1.place.grown.yielded (respond_yielded respond)
  | turn current read =>
    obtain ⟨hst, hload, hanswer⟩ := h
    exact ⟨hteaches (by simp) hst, hawaits (by simp) hload, hanswer _ rfl,
      mem_since_note (t := t.update _) hst.place.grown.journal _, read⟩
  | display current read => exact showFetched_learns h current read
  | rest late => cases late <;> exact .done (hteaches (by simp) h.1) _
  | fail fails => cases fails <;> exact .done (hteaches (by simp) h.1) _
  | broken breaks => cases breaks <;> exact .raised h.1 _
  | wait waits =>
    cases waits with
    | schema held => exact .paused h.1 (.inr ⟨h.2, trivial⟩)
    | count held => exact .paused h.1 h.2
    | page held => exact .paused h.1 h.2
  | close _ load outcome =>
    have hnoted := hteaches (by simp) h.teaches
    cases outcome with
    | done shown => exact .done hnoted shown
    | raised f => exact .raised hnoted f
    | paused p => exact h

theorem learns_invariant (s : Session) : LoadInvariant (LearnsOn T s) where
  stride := fun hstride => LearnsOn.stride hdigest hstride
  takeUp := fun {t _} _ _ h =>
    have htaken : Untaught t ((t.update ({ · with reloadPending := false })).note .takenUp) :=
      .of_same (takeUp_samePages t) rfl (fun _ => id) rfl
    h.teaches.followed (takeUp_samePages t).footing (.of_untaught htaken)

theorem loadDocuments_learns (s : Session) (page : Value) (forced : Bool) :
    Learns T s (s.loadDocuments page forced) :=
  (learns_invariant hdigest s).loadDocuments page forced (.refl s)

theorem resumeLoad_learns {p : LoadPause} (hwaits : s.Awaits p)
    (hquery : ∀ query load, p = .schema query load → s.Wants query) :
    Learns T s (s.resumeLoad p) := by
  refine (learns_invariant hdigest s).resumeLoad ?_
  cases p with
  | schema query load => exact ⟨.refl s, hquery query load rfl, hwaits⟩
  | count sent load plan => exact ⟨.refl s, hwaits⟩
  | page sent load plan total => exact ⟨.refl s, hwaits⟩

end

end Folio.Session
