-- What comes of loads when no request has to wait. A page that is shown was asked for, unless it was
-- kept and still holds; a page is kept only as it arrives.
import Folio.Proofs.SamePages
import Folio.Proofs.PageTexts

namespace Folio

/-! ## Pages that arrive -/

/-- A page that was fetched and shown. -/
structure Arrival where
  sent : Sent
  load : Load
  plan : PagePlan
  view : View

/-- Its fetching and showing were noted. -/
structure Arrival.NotedIn (a : Arrival) (events : List LoadEvent) : Prop where
  fetched : .fetched a.sent a.load a.plan (a.view.rows.map .object) ∈ events
  shown : .shown ⟨a.load, a.plan.config, a.view⟩ ∈ events

/-- The text of which the fingerprint of a page is the digest, where pages have a footing. -/
def Footing.pageBytes (f : Footing) (load : Load) (config : QueryConfig) (page : Int) : List UInt8 :=
  Cache.pageBytes f.connection load.collection config page f.pageSize

/-- A page is kept as it arrived. -/
structure CachedPage.KeptAs (page : CachedPage) (a : Arrival) (f : Footing) : Prop where
  rows : page.rows = a.view.rows
  total : page.total = a.view.total
  fetchedAt : page.fetchedAt = f.clock
  fingerprint : page.fingerprint =
    Digest.sha256 (f.pageBytes a.load a.plan.config a.plan.move.page)

namespace Session

variable {s t u : Session} {load : Load} {plan : PagePlan}

/-- A page was kept when it arrived. -/
def Recorded (s t : Session) (page : CachedPage) : Prop :=
  ∃ a : Arrival, a.NotedIn (s.since t) ∧ page.KeptAs a t.footing

/-- A page that is kept is shown again. -/
structure Recalls (s t : Session) (showing : Showing) (move : PageMove) (page : CachedPage) :
    Prop where
  recalled : .recalled showing.load showing.config move page ∈ s.since t
  view : showing.view = .ofRows page.rows page.total
  kept : page ∈ s.browser.cache.pages
  holds : s.browser.cache.holds page.fetchedAt t.clock = true
  unforced : showing.load.forced = false
  plain : showing.config.aggregates = false
  fingerprint : page.fingerprint =
    Digest.sha256 (t.footing.pageBytes showing.load showing.config move.page)

/-- The page was asked for. -/
def AskedFor (s t : Session) (showing : Showing) : Prop :=
  ∃ sent plan, .asked sent showing.load plan ∈ s.since t

/-- What comes of loads of some kind when no request has to wait. -/
structure Gains (P : Load → Prop) (s t : Session) : Prop extends Alongside s t where
  pages : ∀ page ∈ t.browser.cache.pages, page ∈ s.browser.cache.pages ∨ Recorded s t page
  shown : ∀ showing, .shown showing ∈ s.since t → P showing.load ∧
    (AskedFor s t showing ∨ ∃ move page, Recalls s t showing move page)

theorem Recorded.earlier (hst : s.journal <+: t.journal) (htu : t.journal <+: u.journal)
    {page : CachedPage} (h : Recorded t u page) : Recorded s u page := by
  obtain ⟨a, hnoted, hkept⟩ := h
  exact ⟨a, ⟨mem_since_right hst htu hnoted.fetched, mem_since_right hst htu hnoted.shown⟩, hkept⟩

theorem Recorded.later (htu : t.journal <+: u.journal)
    (hfooting : u.footing = t.footing) {page : CachedPage} (h : Recorded s t page) :
    Recorded s u page := by
  obtain ⟨a, hnoted, hkept⟩ := h
  refine ⟨a, ⟨since_mono htu hnoted.fetched, since_mono htu hnoted.shown⟩, ?_⟩
  rwa [hfooting]

theorem Recalls.of_same {showing : Showing} {move : PageMove} {page : CachedPage}
    (hst : SamePages s t) (htu : t.journal <+: u.journal) (h : Recalls t u showing move page) :
    Recalls s u showing move page where
  recalled := mem_since_right hst.journal htu h.recalled
  view := h.view
  kept := hst.cache ▸ h.kept
  holds := hst.cache ▸ h.holds
  unforced := h.unforced
  plain := h.plain
  fingerprint := h.fingerprint

theorem Recalls.later {showing : Showing} {move : PageMove} {page : CachedPage}
    (htu : Alongside t u) (h : Recalls s t showing move page) :
    Recalls s u showing move page where
  recalled := since_mono htu.journal h.recalled
  view := h.view
  kept := h.kept
  holds := by
    have hclock : u.clock = t.clock := congrArg Footing.clock htu.footing
    rw [hclock]
    exact h.holds
  unforced := h.unforced
  plain := h.plain
  fingerprint := by
    rw [htu.footing]
    exact h.fingerprint

namespace Gains

variable {P Q : Load → Prop}

theorem weaken (h : Gains P s t) (hPQ : ∀ load, P load → Q load) : Gains Q s t where
  toAlongside := h.toAlongside
  pages := h.pages
  shown := fun showing hmem => (h.shown showing hmem).imp_left (hPQ _)

theorem of_same (h : SamePages s t) : Gains P s t where
  toAlongside := h.toAlongside
  pages := fun _ hpage => .inl (h.cache ▸ hpage)
  shown := fun showing hmem => absurd hmem (h.shown showing)

theorem after (hst : SamePages s t) (htu : Gains P t u) : Gains P s u where
  toAlongside := hst.toAlongside.trans htu.toAlongside
  pages := fun page hpage => by
    rcases htu.pages page hpage with h | h
    · exact .inl (hst.cache ▸ h)
    · exact .inr (h.earlier hst.journal htu.journal)
  shown := by
    intro showing hmem
    rw [since_trans hst.journal htu.journal] at hmem
    have hnew := (List.mem_append.mp hmem).resolve_left (hst.shown showing)
    obtain ⟨hload, ⟨sent, plan, hasked⟩ | ⟨move, page, hrecalls⟩⟩ := htu.shown showing hnew
    · exact ⟨hload, .inl ⟨sent, plan, mem_since_right hst.journal htu.journal hasked⟩⟩
    · exact ⟨hload, .inr ⟨move, page, hrecalls.of_same hst htu.journal⟩⟩

/-- A load that is forced asks for its page, whatever was kept before. -/
theorem then_forced (hst : Gains P s t) (htu : Gains (·.forced = true) t u) :
    Gains (fun _ => True) s u where
  toAlongside := hst.toAlongside.trans htu.toAlongside
  pages := by
    intro page hpage
    rcases htu.pages page hpage with h | h
    · exact (hst.pages page h).imp_right (·.later htu.journal htu.footing)
    · exact .inr (h.earlier hst.journal htu.journal)
  shown := by
    intro showing hmem
    refine ⟨trivial, ?_⟩
    rw [since_trans hst.journal htu.journal] at hmem
    rcases List.mem_append.mp hmem with h | h
    · obtain ⟨-, ⟨sent, plan, hasked⟩ | ⟨move, page, hrecalls⟩⟩ := hst.shown showing h
      · exact .inl ⟨sent, plan, since_mono htu.journal hasked⟩
      · exact .inr ⟨move, page, hrecalls.later htu.toAlongside⟩
    · obtain ⟨hforced, ⟨sent, plan, hasked⟩ | ⟨move, page, hrecalls⟩⟩ := htu.shown showing h
      · exact .inl ⟨sent, plan, mem_since_right hst.journal htu.journal hasked⟩
      · rw [hrecalls.unforced] at hforced
        cases hforced

/-- Nothing is shown or kept any more. -/
theorem then_none (hst : Gains P s t) (htu : Alongside t u)
    (hcache : u.browser.cache = t.browser.cache) (hnone : ∀ showing, .shown showing ∉ t.since u) :
    Gains P s u where
  toAlongside := hst.toAlongside.trans htu
  pages := by
    intro page hpage
    rw [hcache] at hpage
    exact (hst.pages page hpage).imp_right (·.later htu.journal htu.footing)
  shown := by
    intro showing hmem
    rw [since_trans hst.journal htu.journal] at hmem
    have hold := (List.mem_append.mp hmem).resolve_right (hnone showing)
    obtain ⟨hload, ⟨sent, plan, hasked⟩ | ⟨move, page, hrecalls⟩⟩ := hst.shown showing hold
    · exact ⟨hload, .inl ⟨sent, plan, since_mono htu.journal hasked⟩⟩
    · exact ⟨hload, .inr ⟨move, page, hrecalls.later htu⟩⟩

theorem then_same (hst : Gains P s t) (htu : SamePages t u) : Gains P s u :=
  hst.then_none htu.toAlongside htu.cache htu.shown

end Gains

/-! ## What comes of one load -/

/-- What is kept is kept under the fingerprint of its plan. -/
def Printed (s : Session) (load : Load) (plan : PagePlan) : Prop :=
  plan.fingerprint = Digest.sha256 (s.footing.pageBytes load plan.config plan.move.page)

theorem Printed.same (hst : SamePages s t) (h : s.Printed load plan) : t.Printed load plan := by
  unfold Printed
  rwa [hst.footing]

/-- No backend lets requests wait. -/
def Unheld (s : Session) : Prop := ∀ b ∈ s.backends, b.held = false

theorem Unheld.isHeld (h : s.Unheld) (backend : Nat) : s.isHeld backend = false := by
  unfold Session.isHeld backend?
  cases hb : s.backends[backend]? with
  | none => rfl
  | some b => exact h b (List.mem_of_getElem? hb)

/-- What comes of loading: pages are shown and kept, or a load waits for a schema. -/
structure Goes (P : Load → Prop) (s : Session) (r : Session × Outcome LoadPause Bool) : Prop where
  gains : Gains P s r.1
  actions : r.1.actions ⊆ s.actions
  waits : ∀ p, r.2 = .paused p → p.isSchema = true

namespace Goes

variable {P : Load → Prop}

theorem done (h : SamePages s t) (shown : Bool) : Goes P s (t, .done shown) :=
  ⟨.of_same h, h.actions, fun _ hp => by cases hp⟩

theorem raised (h : SamePages s t) (f : Fault) : Goes P s (t, .raised f) :=
  ⟨.of_same h, h.actions, fun _ hp => by cases hp⟩

end Goes

/-- What has come of a load on each of its legs. Nothing is shown or kept before it stops. -/
def Under (P : Load → Prop) (s t : Session) : Leg → Prop
  | .wanted _ forced => SamePages s t ∧ ∀ load : Load, load.forced = forced → P load
  | .begun load | .taught _ load | .ready load | .due load => SamePages s t ∧ P load
  | .planned load plan | .counting _ load plan | .counted load plan _ | .told load plan _ =>
      SamePages s t ∧ P load ∧ t.Printed load plan
  | .asking sent load plan _ | .answered sent load plan _ _ =>
      SamePages s t ∧ P load ∧ t.Printed load plan ∧ .asked sent load plan ∈ s.since t
  | .turned sent load plan _ rows _ => SamePages s t ∧ P load ∧ t.Printed load plan ∧
      .asked sent load plan ∈ s.since t ∧ .fetched sent load plan rows ∈ s.since t
  | .stops _ outcome | .over outcome => Goes P s (t, outcome)

variable {P : Load → Prop} {leg next : Leg}

/-- What has just been noted has been noted since. -/
theorem mem_since_note (hst : s.journal <+: t.journal) (e : LoadEvent) : e ∈ s.since (t.note e) := by
  refine mem_since_right hst (List.prefix_append _ _) ?_
  rw [since_eq (l := [e]) rfl]
  exact List.mem_singleton_self e

/-- A page that was asked for is shown and kept. -/
theorem showFetched_goes {sent : Sent} {view : View} (hst : SamePages s t) (hload : P load)
    (hplan : t.Printed load plan) (hasked : .asked sent load plan ∈ s.since t)
    (hfetched : .fetched sent load plan (view.rows.map .object) ∈ s.since t) :
    Goes P s ((t.showFetched load plan view).1, .done true) := by
  have hshows := showFetched_shows t load plan view
  obtain ⟨cache, hbrowser, hpages⟩ := showFetched_browser t load plan view
  refine ⟨⟨hst.toAlongside.trans hshows.toAlongside, fun page hpage => ?_, fun showing hmem => ?_⟩,
    fun _ hw => hst.actions (hshows.actions hw), fun p hp => by cases hp⟩
  · rw [hbrowser] at hpage
    rcases hpages page hpage with hold | rfl
    · exact .inl (hst.cache ▸ hold)
    · refine .inr ⟨⟨sent, load, plan, view⟩, ⟨?_, ?_⟩, rfl, rfl, ?_, ?_⟩
      · exact since_mono hshows.journal hfetched
      · exact mem_since_right hst.journal hshows.journal ((hshows.since _).mpr rfl)
      · exact congrArg Footing.clock hshows.footing.symm
      · rw [hshows.footing]
        exact hplan
  · rw [since_trans hst.journal hshows.journal] at hmem
    have hnew := (List.mem_append.mp hmem).resolve_left (hst.shown showing)
    obtain rfl := (hshows.since showing).mp hnew
    exact ⟨hload, .inl ⟨sent, plan, since_mono hshows.journal hasked⟩⟩

/-- A page that is kept is shown again. -/
theorem showKept_goes {move : PageMove} {page : CachedPage} {paging : Paging} (hst : SamePages s t)
    (hload : P load) (hrecalled : Recalled t.browser load move page)
    (hfound : t.kept? load page.fingerprint = some page)
    (hcommit : t.browser.paging.commit move (page.rows.map .object) = .ok paging) :
    Goes P s ((t.showKept load t.browser.config move page).1, .done true) := by
  obtain ⟨-, -, hholds, hunforced, hplain⟩ := kept?_facts hfound
  obtain ⟨hshows, hnoted, hcache⟩ := showKept_shows load t.browser.config hcommit
  refine ⟨.after hst ⟨hshows.toAlongside, fun other hother => .inl (hcache ▸ hother), ?_⟩,
    fun _ hw => hst.actions (hshows.actions hw), fun p hp => by cases hp⟩
  intro showing hmem
  obtain rfl := (hshows.since showing).mp hmem
  refine ⟨hload, .inr ⟨move, page, hnoted, rfl, hrecalled.kept, ?_, hunforced, hplain, ?_⟩⟩
  · rw [show (t.showKept load t.browser.config move page).1.clock = t.clock from
      congrArg Footing.clock hshows.footing]
    exact hholds
  · rw [hshows.footing]
    exact hrecalled.fingerprint

/-- Every stride of a load goes on so. -/
theorem Under.stride (hunheld : s.Unheld) (hstride : Stride (t, leg) (u, next)) (h : Under P s t leg) :
    Under P s u next := by
  have hquiet : (∀ load, next ≠ .stops load (.done true)) → SamePages t u := hstride.samePages
  cases hstride with
  | idle => exact .done h.1 false
  | refuse => exact .done (h.1.trans (hquiet (by simp))) false
  | begin => exact ⟨h.1.trans (hquiet (by simp)), h.2 _ rfl⟩
  | learn | take | retype => exact ⟨h.1.trans (hquiet (by simp)), h.2⟩
  | decide planned =>
    refine ⟨h.1, h.2, ?_⟩
    have hprint := planned.fingerprint
    rw [← planned.config] at hprint
    exact hprint
  | showAgain recalled target found commit => exact showKept_goes h.1 h.2 recalled found commit
  | know | tell => exact h
  | count | hear =>
    exact ⟨h.1.trans (hquiet (by simp)), h.2.1, h.2.2.same (hquiet (by simp))⟩
  | @ask _ v load plan _ sent request =>
    have hsame := hquiet (by simp)
    have hsent : s.journal <+: v.journal := by
      cases request
      exact h.1.journal
    exact ⟨h.1.trans hsame, h.2.1, h.2.2.same hsame, mem_since_note hsent _⟩
  | receive =>
    have hsame := hquiet (by simp)
    exact ⟨h.1.trans hsame, h.2.1, h.2.2.1.same hsame, since_mono hsame.journal h.2.2.2⟩
  | turn =>
    have hsame := hquiet (by simp)
    exact ⟨h.1.trans hsame, h.2.1, h.2.2.1.same hsame, since_mono hsame.journal h.2.2.2,
      mem_since_note (t := t.update _) h.1.journal _⟩
  | display current read =>
    obtain ⟨hst, hload, hplan, hasked, hfetched⟩ := h
    rw [← rows_of_read read] at hfetched
    exact showFetched_goes hst hload hplan hasked hfetched
  | rest late => cases late <;> exact .done (h.1.trans (hquiet (by simp))) false
  | fail fails => cases fails <;> exact .done (h.1.trans (hquiet (by simp))) false
  | broken breaks =>
    cases breaks <;> exact .raised h.1 _
  | wait waits =>
    cases waits with
    | schema => exact ⟨.of_same h.1, h.1.actions, fun p hp => by cases hp; rfl⟩
    | count held =>
      rw [Unheld.isHeld (h.1.unheld hunheld)] at held
      cases held
    | page held =>
      rw [Unheld.isHeld (h.1.unheld hunheld)] at held
      cases held
  | close _ load outcome =>
    cases outcome with
    | done shown => exact ⟨h.gains.then_same (.note t rfl), h.actions, fun _ hp => by cases hp⟩
    | raised f => exact ⟨h.gains.then_same (.note t rfl), h.actions, fun _ hp => by cases hp⟩
    | paused p => exact h

/-! ## What comes of loading -/

theorem beginLoad_goes (hunheld : s.Unheld) (page : Value) (forced : Bool) :
    Goes (·.forced = forced) s (s.beginLoad page forced) :=
  (beginLoad_strides s page forced).keeps (fun hstride => Under.stride hunheld hstride)
    ⟨.refl s, fun _ => id⟩

/-- A load that has waited for a schema goes on. -/
theorem continueLoad_goes (hunheld : s.Unheld) {p : LoadPause} (hp : p.isSchema = true) :
    Goes (fun _ => True) s (s.continueLoad p) := by
  cases p with
  | schema query load =>
    exact (continueLoad_strides s (.schema query load)).keeps
      (fun hstride => Under.stride hunheld hstride) ⟨.refl s, trivial⟩
  | _ => cases hp

/-- The load that was put off is forced. -/
theorem Goes.drain {r : Session × Outcome LoadPause Bool} (hunheld : s.Unheld) (h : Goes P s r) :
    Goes (fun _ => True) s (drain r) := by
  have hgains : Gains (fun _ => True) s r.1 := h.gains.weaken fun _ _ => trivial
  rcases drain_cases r with ⟨t, shown, rfl, -, -, htaken⟩ | ⟨hsame, -⟩
  · have hfollows := takeUp_samePages t
    have hforced := beginLoad_goes (hfollows.unheld (h.gains.unheld hunheld)) (.int 1) true
    rw [htaken]
    refine ⟨hgains.then_forced (.after hfollows hforced.gains), fun _ hw => ?_, hforced.waits⟩
    exact h.actions (hfollows.actions (hforced.actions hw))
  · rw [hsame]
    exact ⟨hgains, h.actions, h.waits⟩

end Session

end Folio
