-- What is customary in a load. A load comes to know the attributes, is told the number of documents
-- and gets its page; each of these may rest on what was so when it began to wait. If the few ways in
-- which a load goes on keep to a custom, every load keeps to it, however often it has to wait; and if
-- the few ways in which anything else is changed do so too, everything that is done does.
import Folio.Proofs.Customs

namespace Folio

/-- What is customary in a load. -/
structure LoadCustom where
  /-- What holds at all times. -/
  sound : Session → Prop
  /-- A load may decide on its page. -/
  ready : Session → Load → Prop
  /-- A load may go on to its page with a number of documents. -/
  told : Session → Load → PagePlan → Int → Prop
  /-- What a load may wait for. -/
  waits : Session → LoadPause → Prop

theorem Browser.unfiltered_of_known {b : Browser} {c : QueryConfig} {forced : Bool} {n : Int}
    (h : b.knownTotal? c forced = some n) : b.unfiltered = some n := by
  unfold knownTotal? at h
  split at h
  · exact h
  · cases h

namespace LoadCustom

open Session

/-- A load leaves what holds as it is, and waits only for what it may wait for. -/
structure Keeps (C : LoadCustom) (r : Session × Outcome LoadPause Bool) : Prop where
  sound : C.sound r.1
  waits : ∀ p, r.2 = .paused p → C.waits r.1 p

/-- The ways in which a load goes on keep to a custom. -/
structure Laws (C : LoadCustom) : Prop where
  same : ∀ {s t}, SamePages s t → C.sound s → C.sound t
  ready_same : ∀ {s t load}, SamePages s t → C.ready s load → C.ready t load
  told_same : ∀ {s t load plan n}, SamePages s t → C.told s load plan n → C.told t load plan n
  begins : ∀ {s} load, C.sound s → C.ready ((s.update (·.begin)).note (.begun load)) load
  schema : ∀ {s load} query, C.ready s load → C.waits s (.schema query load)
  attributes : ∀ {s query load}, C.waits s (.schema query load) → C.ready s load
  /-- The number is known. -/
  known : ∀ {s load plan n}, C.sound s → C.ready s load →
    s.browser.knownTotal? plan.config load.forced = some n → C.told s load plan n
  count : ∀ {s load} plan, C.sound s → C.ready s load →
    C.waits s (.count ⟨s.browser.executor.getD 0, load.collection,
      (Query.compileCount plan.config).toFields⟩ load plan)
  counted : ∀ {s t sent load plan response n}, C.sound s → C.waits s (.count sent load plan) →
    SamePages s t → t.yielded = s.yielded ++ [.answer sent response] →
    View.countIn Query.countLabel response = .ok n → C.told t load plan n
  page : ∀ {s load plan n}, C.sound s → C.told s load plan n →
    C.waits s (.page ⟨s.browser.executor.getD 0, load.collection, plan.request.toFields⟩ load plan n)
  fetched : ∀ {s t u sent load plan n response view}, C.sound s →
    C.waits s (.page sent load plan n) → s.browser.generation = load.generation →
    SamePages s t → t.yielded = s.yielded ++ [.answer sent response] →
    View.rowsIn response = .ok (view.rows.map .object) → view.total = some n →
    Shows t u ⟨load, plan.config, view⟩ → C.sound u
  /-- A page that was kept is shown. -/
  recalled : ∀ {s t load config page}, C.sound s → C.ready s load → page ∈ s.browser.cache.pages →
    Shows s t ⟨load, config, .ofRows page.rows page.total⟩ → C.sound t

section

variable {C : LoadCustom} {s t : Session} (hC : C.Laws)

/-! ## The course of a load -/

theorem Keeps.done (h : C.sound s) (shown : Bool) : C.Keeps (s, .done shown) :=
  ⟨h, fun _ hp => by cases hp⟩

theorem Keeps.raised (h : C.sound s) (f : Fault) : C.Keeps (s, .raised f) :=
  ⟨h, fun _ hp => by cases hp⟩

theorem Keeps.paused {p : LoadPause} (h : C.sound s) (hp : C.waits s p) : C.Keeps (s, .paused p) := by
  refine ⟨h, fun other hother => ?_⟩
  cases hother
  exact hp

/-- A page is on its way that could be waited for in some session before. -/
structure Coming (C : LoadCustom) (o s : Session) (sent : Sent) (load : Load) (plan : PagePlan)
    (total : Int) : Prop where
  sound : C.sound o
  waits : C.waits o (.page sent load plan total)
  same : SamePages o s

/-- What is customary on each leg of a load. -/
def On (C : LoadCustom) (s : Session) : Leg → Prop
  | .wanted _ _ => C.sound s
  | .begun load | .ready load | .due load | .planned load _ => C.sound s ∧ C.ready s load
  | .taught query load => C.sound s ∧ C.waits s (.schema query load)
  | .counting sent load plan => C.sound s ∧ C.waits s (.count sent load plan)
  | .counted load plan answer => C.sound s ∧ ∀ response n, answer = .ok response →
      View.countIn Query.countLabel response = .ok n → C.told s load plan n
  | .told load plan total => C.sound s ∧ C.told s load plan total
  | .asking sent load plan total => C.sound s ∧ C.waits s (.page sent load plan total)
  | .answered sent load plan total answer => C.sound s ∧ ∃ o, C.Coming o s sent load plan total ∧
      ∀ response, answer = .ok response → s.yielded = o.yielded ++ [.answer sent response]
  | .turned sent load plan total rows response => C.sound s ∧ ∃ o, C.Coming o s sent load plan total ∧
      s.yielded = o.yielded ++ [.answer sent response] ∧ View.rowsIn response = .ok rows
  | .stops _ outcome | .over outcome => C.Keeps (s, outcome)

include hC

/-- Every stride keeps to the custom. -/
theorem On.stride {leg next : Leg} (hstride : Stride (s, leg) (t, next)) (h : C.On s leg) :
    C.On t next := by
  have hsame := hstride.samePages
  have hstill : (∀ load, next ≠ .stops load (.done true)) → C.sound s → C.sound t :=
    fun hunshown => hC.same (hsame hunshown)
  cases hstride with
  | idle => exact .done h _
  | refuse => exact .done (hstill (by simp) h) _
  | begin => exact ⟨hstill (by simp) h, hC.begins _ h⟩
  | learn => exact ⟨hstill (by simp) h.1, hC.ready_same (hsame (by simp)) h.2⟩
  | take => exact ⟨hstill (by simp) h.1, hC.ready_same (hsame (by simp)) (hC.attributes h.2)⟩
  | retype => exact ⟨hstill (by simp) h.1, hC.ready_same (hsame (by simp)) h.2⟩
  | decide => exact h
  | showAgain recalled target found commit =>
    exact .done (hC.recalled h.1 h.2 recalled.kept (showKept_shows _ _ commit).1) true
  | know known => exact ⟨h.1, hC.known h.1 h.2 known⟩
  | count unknown request =>
    have hsound := hstill (by simp) h.1
    cases request
    exact ⟨hsound, hC.count _ hsound (hC.ready_same (hsame (by simp)) h.2)⟩
  | hear respond =>
    refine ⟨hstill (by simp) h.1, fun response n hresponse hcount => ?_⟩
    subst hresponse
    exact hC.counted h.1 h.2 (hsame (by simp)) (respond_yielded respond) hcount
  | tell read => exact ⟨h.1, h.2 _ _ rfl read⟩
  | ask request =>
    have hsound := hstill (by simp) h.1
    cases request
    exact ⟨hsound, hC.page hsound (hC.told_same (hsame (by simp)) h.2)⟩
  | receive respond =>
    refine ⟨hstill (by simp) h.1, s, ⟨h.1, h.2, hsame (by simp)⟩, fun response hresponse => ?_⟩
    subst hresponse
    exact respond_yielded respond
  | turn current read commit =>
    obtain ⟨hsound, o, hcoming, hyielded⟩ := h
    exact ⟨hstill (by simp) hsound, o,
      ⟨hcoming.sound, hcoming.waits, hcoming.same.trans (hsame (by simp))⟩, hyielded _ rfl, read⟩
  | display current read =>
    obtain ⟨hsound, o, hcoming, hyielded, hrows⟩ := h
    have hgeneration := (congrArg Footing.generation hcoming.same.footing).symm.trans current
    rw [← rows_of_read read] at hrows
    exact .done (hC.fetched hcoming.sound hcoming.waits hgeneration hcoming.same hyielded hrows
      (total_of_read read) (showFetched_shows _ _ _ _)) true
  | rest late => cases late <;> exact .done (hstill (by simp) h.1) _
  | fail fails => cases fails <;> exact .done (hstill (by simp) h.1) _
  | broken breaks => cases breaks <;> exact .raised h.1 _
  | wait waits =>
    cases waits with
    | schema held => exact .paused h.1 (hC.schema _ h.2)
    | count held => exact .paused h.1 h.2
    | page held => exact .paused h.1 h.2
  | close _ load outcome =>
    cases outcome with
    | done shown => exact .done (hstill (by simp) h.sound) shown
    | raised f => exact .raised (hstill (by simp) h.sound) f
    | paused p => exact h

/-- So does a load that was put off when it is taken up. -/
theorem Laws.invariant : LoadInvariant C.On where
  stride := fun hstride => On.stride hC hstride
  takeUp := fun _ _ h => hC.same (takeUp_samePages _) h.sound

/-- Every load keeps to the custom. -/
theorem loadDocuments_keeps (hs : C.sound s) (page : Value) (forced : Bool) :
    C.Keeps (s.loadDocuments page forced) := hC.invariant.loadDocuments _ _ hs

theorem resumeLoad_keeps {p : LoadPause} (hs : C.sound s) (hwaits : C.waits s p) :
    C.Keeps (s.resumeLoad p) :=
  hC.invariant.resumeLoad (by cases p <;> exact ⟨hs, hwaits⟩)

end

/-! ## Whatever is done -/

/-- What holds in loads holds at all times, if everything else that is done leaves it as it is. -/
structure Lasts (C : LoadCustom) : Prop where
  loosens : ∀ {s t}, Loosens s t → C.sound s → C.sound t
  connect : ∀ {s} connection backend, C.sound s → C.sound (s.useBackend connection backend)
  delete : ∀ {s} kept deleted, C.sound s → C.sound (s.lessen kept deleted)
  update : ∀ {s} number f, C.sound s → C.sound (s.updateBackend number f)
  waiting : ∀ {s}, C.sound s → ∀ p ∈ s.pauses, C.waits s p
  waits_same : ∀ {s t}, SamePages s t → ∀ p, C.waits s p → C.waits t p
  single : ∀ {s}, C.sound s → ∀ w ∈ s.actions, ∀ c, w.owner = .client c → c.todo = []
  park : ∀ {s w}, C.sound s → (∀ p, w.pause.loadPause? = some p → C.waits s p) →
    (∀ c, w.owner = .client c → c.todo = []) → C.sound { s with waiting := s.waiting ++ [w] }

/-- The custom of a session that keeps to it in its loads. -/
def whole (C : LoadCustom) : Custom where
  sound := C.sound
  changes := fun _ _ => True
  loads := fun _ _ => True
  waits := C.waits
  allows := fun _ => True

theorem Lasts.laws {C : LoadCustom} (h : C.Lasts) (hC : C.Laws) : C.whole.Laws where
  changes_trans := fun _ _ => trivial
  loosens := fun hst hs => ⟨trivial, h.loosens hst hs⟩
  same := fun _ => trivial
  loads_same := fun _ _ => trivial
  connect := fun _ connection backend hs => ⟨trivial, h.connect connection backend hs⟩
  delete := fun _ kept deleted hs => ⟨trivial, h.delete kept deleted hs⟩
  hold := fun _ number _ hs => ⟨trivial, h.update number _ hs⟩
  release := fun _ number _ _ hs => ⟨trivial, h.update number _ hs⟩
  load := fun _ page forced hs =>
    have hkeeps := loadDocuments_keeps hC hs page forced
    ⟨trivial, hkeeps.sound, hkeeps.waits⟩
  resume := fun _ _ hs hp =>
    have hkeeps := resumeLoad_keeps hC hs hp
    ⟨trivial, hkeeps.sound, hkeeps.waits⟩
  waiting := h.waiting
  waits_same := h.waits_same
  single := h.single
  park := fun _ hs hpause hsingle => ⟨trivial, h.park hs hpause hsingle⟩

/-- It holds after one thing after another. -/
theorem Lasts.after {C : LoadCustom} (h : C.Lasts) (hC : C.Laws) {s : Session} (hs : C.sound s)
    (operations : List Operation) : C.sound (s.after operations) :=
  Custom.sound_after (h.laws hC) operations (fun _ _ _ _ => trivial) hs

end LoadCustom

end Folio
