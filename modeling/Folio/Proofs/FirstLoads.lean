-- The first page, loaded anew where nobody has to wait for a backend. The load always comes to its
-- end. It ends on the first page, and all it does to the query is to make filters anew whose
-- attributes are known by then.
import Folio.Proofs.Remembering
import Folio.Proofs.UnheldLoads
import Folio.Proofs.UntoldAttributes

namespace Folio

/-! ## Filters made anew -/

/-- The query with its filters made anew by what is known of the attributes. -/
def QueryConfig.retyped (c : QueryConfig) (registry : Registry) : QueryConfig :=
  { c with predicates := c.predicates.map (·.retype registry) }

theorem Predicate.retype_of_size (p : Predicate) {registry : Registry} (h : registry.size = 0) :
    p.retype registry = p := by
  have hnone : registry.has p.attr = false := by
    unfold Registry.has Registry.get?
    rw [List.eq_nil_of_length_eq_zero h]
    rfl
  unfold retype
  rw [hnone, Bool.and_false, if_neg Bool.false_ne_true]

namespace QueryConfig

variable (c : QueryConfig) (registry : Registry)

/-- Filters are made anew once. -/
theorem retyped_retyped : (c.retyped registry).retyped registry = c.retyped registry := by
  unfold retyped
  simp only [List.map_map]
  congr 1
  exact List.map_congr_left fun p _ => p.retype_retype registry

variable {registry} in
theorem retyped_of_size (h : registry.size = 0) : c.retyped registry = c := by
  unfold retyped
  rw [List.map_congr_left fun p _ => p.retype_of_size h, List.map_id']

end QueryConfig

namespace Session

variable {s t u : Session} {load : Load} {plan : PagePlan}

/-! ## On the way -/

theorem keyed_of_serves (h : ∀ b ∈ s.backends, b.Serves) : ∀ b ∈ s.backends, b.Keyed :=
  fun b hb => (h b hb).keyed

/-- Attributes that are known are not asked for. -/
theorem ensureAttributes_known (s : Session) : s.browser.registry.size = 0 ∨
    s.ensureAttributes.1.browser.registry = s.browser.registry := by
  by_cases hnone : s.browser.registry.size = 0
  · exact .inl hnone
  · unfold ensureAttributes
    rw [if_neg (by simpa using hnone)]
    exact .inr rfl

theorem Apprised.place {s t : Session} (h : Apprised s t) :
    t.browser.place? = s.browser.place? := by
  obtain ⟨registry, known, rfl⟩ := h
  rfl

/-- How the query stands on each leg of a load of the first page: the filters are made anew before the
page is decided on, and nobody has to wait. -/
def HeadsOn (s t : Session) : Leg → Prop
  | .wanted page forced => page = .int 1 ∧ forced = true ∧
      t.browser.config = s.browser.config ∧ t.browser.registry = s.browser.registry
  | .begun load | .ready load => load.IsFirst ∧ t.browser.generation = load.generation ∧
      t.browser.config = s.browser.config
  | .taught _ _ => False
  | .due load => load.IsFirst ∧ t.browser.config = s.browser.config.retyped t.browser.registry
  | .planned load plan | .counting _ load plan | .counted load plan _ | .told load plan _
  | .asking _ load plan _ | .answered _ load plan _ _ | .turned _ load plan _ _ _ =>
      load.IsFirst ∧ t.browser.config = s.browser.config.retyped t.browser.registry ∧
        plan.move.page = 1
  | .stops _ outcome | .over outcome => (∃ shown, outcome = .done shown) ∧
      (t.browser.config = s.browser.config ∧ t.browser.registry = s.browser.registry ∨
        t.browser.config = s.browser.config.retyped t.browser.registry)

/-- A load of the first page that nobody keeps waiting, on its way. -/
structure Heads (s t : Session) (leg : Leg) : Prop where
  serves : ∀ b ∈ t.backends, b.Serves
  known : s.browser.registry.size = 0 ∨ t.browser.registry = s.browser.registry
  place : t.browser.place? = s.browser.place?
  page : t.browser.paging.page = 1
  aims : leg.Aims
  on : HeadsOn s t leg

namespace Heads

variable {leg next : Leg}

/-- Nobody keeps it waiting. -/
theorem not_waits {pause : LoadPause} (h : Heads s t leg) (hwaits : WaitsAt t leg pause) : False := by
  obtain ⟨number, backend, -, hbackend, hheld⟩ := hwaits.holder
  have hserves := h.serves backend (List.mem_of_getElem? hbackend)
  rcases hheld with hheld | hheld
  · rw [hserves.unheld] at hheld
    cases hheld
  · rw [hserves.unheldSchemas] at hheld
    cases hheld

/-- Every stride leaves the place, and ends on the first page. -/
theorem stride (hstride : Stride (t, leg) (u, next)) (h : Heads s t leg) : Heads s u next := by
  have hserves := hstride.remembers.serves h.serves
  have hkeyed : ∀ number, t.turnsTo? leg = some number →
      ∀ b, t.backend? number = some b → b.Keyed :=
    fun _ _ b hb => keyed_of_serves h.serves b (List.mem_of_getElem? hb)
  have haims := hstride.aims h.aims hkeyed
  have hwaits : ∀ {pause}, ¬ WaitsAt t leg pause := fun hwaits => h.not_waits hwaits
  obtain ⟨-, hknown, hplace, hpage, hgoing, hon⟩ := h
  cases hstride with
  | idle => exact ⟨hserves, hknown, hplace, hpage, haims, ⟨false, rfl⟩, .inl hon.2.2⟩
  | refuse => exact ⟨hserves, hknown, hplace, hpage, haims, ⟨false, rfl⟩, .inl hon.2.2⟩
  | begin => exact ⟨hserves, hknown, hplace, hpage, haims, ⟨hon.1, hon.2.1⟩, rfl, hon.2.2.1⟩
  | learn known =>
    have hbearings := (apprised_of_ensure known).bearings.bearings
    have hthere := (apprised_of_ensure known).place
    have hlearnt := ensureAttributes_known t
    rw [known] at hlearnt
    refine ⟨hserves, ?_, hthere.trans hplace, (congrArg (·.paging.page) hbearings).trans hpage, haims,
      hon.1, (congrArg Bearings.generation hbearings).trans hon.2.1,
      (congrArg Bearings.config hbearings).trans hon.2.2⟩
    rcases hknown with hnone | hsame
    · exact .inl hnone
    · rw [← hsame]
      exact hlearnt
  | take => exact hon.elim
  | retype current =>
    refine ⟨hserves, hknown, hplace, hpage, haims, hon.1, ?_⟩
    rw [← hon.2.2]
    rfl
  | decide planned target =>
    exact ⟨hserves, hknown, hplace, hpage, haims, hon.1, hon.2, target.first hon.1⟩
  | showAgain recalled target found commit =>
    rw [kept?_first hon.1] at found
    cases found
  | know | tell => exact ⟨hserves, hknown, hplace, hpage, haims, hon⟩
  | count unknown request =>
    cases request
    exact ⟨hserves, hknown, hplace, hpage, haims, hon⟩
  | ask request =>
    cases request
    exact ⟨hserves, hknown, hplace, hpage, haims, hon⟩
  | hear respond =>
    refine ⟨hserves, ?_, ?_, ?_, haims, ?_⟩
    all_goals
      simp only [HeadsOn, respond_browser respond]
      assumption
  | receive respond =>
    refine ⟨hserves, ?_, ?_, ?_, haims, ?_⟩
    all_goals
      simp only [HeadsOn, respond_browser respond]
      assumption
  | turn current read commit =>
    obtain ⟨fields, rows, rfl, hreadable⟩ := hgoing.2 _ rfl
    rw [hreadable.rowsIn] at read
    cases read
    rw [Paging.commit_eq (fun d hd => (hreadable.keys d hd).get_id) (.inl hon.2.2.le)] at commit
    cases commit
    exact ⟨hserves, hknown, hplace, hon.2.2, haims, hon⟩
  | @display _ _ load plan total _ _ view current read =>
    obtain ⟨cache, hbrowser, -⟩ := showFetched_browser t load plan view
    have hshown : HeadsOn s (t.showFetched load plan view).1 (.stops load (.done true)) := by
      refine ⟨⟨true, rfl⟩, .inr ?_⟩
      rw [hbrowser]
      exact hon.2.1
    refine ⟨hserves, ?_, ?_, ?_, haims, hshown⟩ <;> rw [hbrowser]
    · exact hknown
    · exact hplace
    · exact hpage
  | rest late =>
    cases late with
    | ready late => exact absurd hon.2.1 late
    | answered late => exact ⟨hserves, hknown, hplace, hpage, haims, ⟨false, rfl⟩, .inr hon.2.1⟩
  | fail fails =>
    refine ⟨hserves, hknown, hplace, hpage, haims, ⟨false, rfl⟩, .inr ?_⟩
    cases fails with
    | query => exact hon.2
    | _ => exact hon.2.1
  | broken breaks =>
    have hnot := breaks.not_first hgoing hkeyed
    cases breaks with
    | taught => exact hon.elim
    | _ => exact absurd hon.1 hnot
  | wait waits => exact (hwaits waits).elim
  | close _ load outcome =>
    obtain ⟨⟨shown, rfl⟩, hconfig⟩ := hon
    exact ⟨hserves, hknown, hplace, hpage, haims, ⟨shown, rfl⟩, hconfig⟩

end Heads

/-! ## The whole load -/

/-- Loading comes to its end on the first page, with the query as it is, or with its filters made
anew. Attributes that are known are not got to know again. -/
structure Settles (s : Session) (r : Session × Outcome LoadPause Bool) : Prop where
  ends : ∃ shown, r.2 = .done shown
  config : r.1.browser.config = s.browser.config ∧ r.1.browser.registry = s.browser.registry ∨
    r.1.browser.config = s.browser.config.retyped r.1.browser.registry
  known : s.browser.registry.size = 0 ∨ r.1.browser.registry = s.browser.registry
  place : r.1.browser.place? = s.browser.place?
  page : r.1.browser.paging.page = 1

/-- What is loaded once more is loaded with the filters made anew once. -/
theorem Settles.trans {r : Session × Outcome LoadPause Bool} {shown : Bool}
    (hst : Settles s (t, .done shown)) (htu : Settles t r) : Settles s r where
  ends := htu.ends
  config := by
    rcases htu.config with ⟨hconfig, hregistry⟩ | hagain
    · rw [hconfig, hregistry]
      exact hst.config
    · rw [hagain]
      rcases hst.config with ⟨hconfig, -⟩ | hretyped
      · rw [hconfig]
        exact .inr rfl
      · right
        rw [hretyped]
        rcases htu.known with hnone | hsame
        · rw [QueryConfig.retyped_of_size _ hnone]
        · rw [hsame, QueryConfig.retyped_retyped]
  known := by
    rcases hst.known with hnone | hsame
    · exact .inl hnone
    · rw [← hsame]
      exact htu.known
  place := htu.place.trans hst.place
  page := htu.page

theorem beginLoad_settles (hs : ∀ b ∈ s.backends, b.Serves) (hfirst : s.browser.paging.page = 1) :
    Settles s (s.beginLoad (.int 1) true) := by
  have hheads : Heads s s (.wanted (.int 1) true) :=
    ⟨hs, .inr rfl, rfl, hfirst, trivial, rfl, rfl, rfl, rfl⟩
  obtain ⟨-, hknown, hplace, hpage, -, hends, hconfig⟩ :=
    (beginLoad_strides s (.int 1) true).keeps Heads.stride hheads
  exact ⟨hends, hconfig, hknown, hplace, hpage⟩

theorem loadDocuments_settles (hs : ∀ b ∈ s.backends, b.Serves)
    (hfirst : s.browser.paging.page = 1) : Settles s (s.loadDocuments (.int 1) true) := by
  have hbegun := beginLoad_settles hs hfirst
  have hserves := ((beginLoad_strides s (.int 1) true).keeps
    (remembers_invariant s).stride (.refl s)).serves hs
  unfold loadDocuments
  rcases drain_cases (s.beginLoad (.int 1) true) with ⟨t, shown, hr, -, -, htaken⟩ | ⟨hsame, -⟩
  · rw [htaken]
    rw [hr] at hbegun hserves
    have hagain := beginLoad_settles
      (s := (t.update ({ · with reloadPending := false })).note .takenUp) hserves hbegun.page
    exact hbegun.trans ⟨hagain.ends, hagain.config, hagain.known, hagain.place, hagain.page⟩
  · rw [hsame]
    exact hbegun

/-- The first page is loaded anew, or that is put off; in both cases the action is done. -/
theorem reloadFirst_settles (hs : ∀ b ∈ s.backends, b.Serves) (hfirst : s.browser.paging.page = 1)
    (after : AfterLoad) :
    ∃ t shown, s.reloadFirst after = (t, .done (after.answer shown)) ∧
      Settles s (t, .done shown) := by
  unfold reloadFirst
  split
  · exact ⟨_, false, rfl, ⟨false, rfl⟩, .inl ⟨rfl, rfl⟩, .inr rfl, rfl, hfirst⟩
  · have hloaded := loadDocuments_settles hs hfirst
    generalize s.loadDocuments (.int 1) true = r at *
    obtain ⟨t, outcome⟩ := r
    obtain ⟨shown, rfl⟩ := hloaded.ends
    exact ⟨t, shown, rfl, hloaded⟩

end Session

end Folio
