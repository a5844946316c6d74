-- Loads of the first page as changes of the query make them. Where documents have keys and nothing
-- is held back, such a load asks once for the number of documents, and is over at once. Whatever
-- waits meanwhile is left alone.
import Folio.Proofs.FirstPages
import Folio.Proofs.OneLoad

namespace Folio

/-! ## Requests for numbers -/

namespace Sent

/-- Whether numbers are asked for instead of documents. -/
def counts (sent : Sent) : Bool := !(Fields.get sent.request "aggregate_by").isNull

/-- The request for the number of documents that a query lets pass. -/
def ofCount (backend : Nat) (collection : String) (c : QueryConfig) : Sent :=
  ⟨backend, collection, (Query.compileCount c).toFields⟩

theorem counts_ofCount (backend : Nat) (collection : String) (c : QueryConfig) :
    (ofCount backend collection c).counts = true := by
  unfold counts ofCount
  rw [Request.get_toFields]
  rfl

/-- The request for a page without aggregations asks for documents. -/
theorem counts_page {c : QueryConfig} {page : PageRequest} {registry : Registry} {request : Request}
    (hplain : c.aggregates = false) (h : Query.compilePage c page registry = .ok request)
    (backend : Nat) (collection : String) :
    counts ⟨backend, collection, request.toFields⟩ = false := by
  have hnone : request.aggregateBy = none := by
    unfold Query.compilePage at h
    simp only [hplain, Bool.false_eq_true, if_false, bind, Except.bind] at h
    cases hrank : Query.compileRank c registry with
    | error f => simp [hrank] at h
    | ok rank =>
      simp only [hrank, pure, Except.pure, Except.ok.injEq] at h
      rw [← h]
      rfl
  unfold counts
  rw [Request.get_toFields]
  simp [Request.fields, Fields.get, Named.get?, hnone, Value.ofOption, Value.isNull]

end Sent

/-- When browsing, a page can be asked for whatever is known about attributes. -/
theorem Query.compilePage_ok {c : QueryConfig} (hmode : c.queryMode = .browse)
    (page : PageRequest) (registry : Registry) :
    ∃ request, Query.compilePage c page registry = .ok request := by
  obtain ⟨rank, hrank⟩ : ∃ rank, Query.compileRank c registry = .ok rank := by
    unfold Query.compileRank
    split
    · exact ⟨_, rfl⟩
    · rw [hmode]
      exact ⟨_, rfl⟩
  unfold Query.compilePage
  cases hc : c.aggregates with
  | true => exact ⟨_, rfl⟩
  | false =>
    rw [hrank]
    exact ⟨_, rfl⟩

/-- Filters that are made anew leave the kind of query as it is. -/
theorem QueryConfig.RetypedTo.kind_eq {c d : QueryConfig} (h : c.RetypedTo d) :
    d.queryMode = c.queryMode ∧ d.aggregates = c.aggregates := by
  induction h with
  | refl => exact ⟨rfl, rfl⟩
  | tail _ hretypes ih =>
    obtain ⟨registry, rfl⟩ := hretypes
    exact ih

/-- The documents of the backend have keys, and it holds nothing back. -/
structure Backend.Willing (b : Backend) : Prop where
  keyed : b.Keyed
  unheld : b.held = false
  schemaUnheld : b.schemaHeld = false

theorem Backend.Willing.respond {b : Backend} (h : b.Willing) (collection : String)
    (request : Fields) : (b.respond collection request).1.Willing := by
  obtain ⟨hheld, hschemaHeld⟩ := Prod.mk.inj (b.respond_holds collection request)
  exact ⟨h.keyed.respond collection request, hheld.trans h.unheld, hschemaHeld.trans h.schemaUnheld⟩

/-- Whether nothing follows from a job. -/
def Job.isLight : Job → Bool
  | .logRecent | .discover _ _ => true
  | _ => false

namespace Session

variable {s t u : Session} {number : Nat} {collection : String} {load : Load} {plan : PagePlan}

/-- The requests for numbers that were sent. -/
def counts (s : Session) : List Sent := s.sent.filter Sent.counts

def HasWilling (s : Session) (number : Nat) : Prop := ∃ b, s.backend? number = some b ∧ b.Willing

/-- A collection is browsed without aggregations, in a backend that is willing. -/
structure Attends (s : Session) (number : Nat) (collection : String) : Prop where
  current : s.browser.current? = some collection
  executor : s.browser.executor = some number
  willing : s.HasWilling number
  mode : s.browser.config.queryMode = .browse
  plain : s.browser.config.aggregates = false

/-- Whatever waits in the first session waits in the second one, which is of the same query but for
filters that were made anew. -/
structure Aside (s t : Session) : Prop where
  query : SameQuery s.browser t.browser
  config : s.browser.config.RetypedTo t.browser.config
  willing : ∀ number, s.HasWilling number → t.HasWilling number
  waiting : t.waiting = s.waiting
  debouncer : t.debouncer = s.debouncer
  asleep : t.asleep = s.asleep

theorem Stays.aside (h : Stays s t) : Aside s t where
  query := h.browser.toSameQuery
  config := h.browser.config
  willing := fun number ⟨b, hb, hwilling⟩ => ⟨b, by unfold backend?; rwa [h.backends], hwilling⟩
  waiting := h.waiting
  debouncer := h.debouncer
  asleep := h.asleep

namespace Aside

theorem trans (hst : Aside s t) (htu : Aside t u) : Aside s u where
  query := by
    obtain ⟨hpending, hgeneration, hcurrent, hexecutor⟩ := htu.query
    exact ⟨hpending.trans hst.query.pending, hgeneration.trans hst.query.generation,
      hcurrent.trans hst.query.current, hexecutor.trans hst.query.executor⟩
  config := Relation.ReflTransGen.trans hst.config htu.config
  willing := fun number h => htu.willing number (hst.willing number h)
  waiting := htu.waiting.trans hst.waiting
  debouncer := htu.debouncer.trans hst.debouncer
  asleep := htu.asleep.trans hst.asleep

theorem attends (hst : Aside s t) (h : s.Attends number collection) :
    t.Attends number collection where
  current := hst.query.current.trans h.current
  executor := hst.query.executor.trans h.executor
  willing := hst.willing number h.willing
  mode := hst.config.kind_eq.1.trans h.mode
  plain := hst.config.kind_eq.2.trans h.plain

end Aside

/-- Something is over, and has asked for some numbers. At most one job has come of it. -/
structure Over {π ρ : Type} (s : Session) (asked : List Sent) (r : Session × Outcome π ρ) :
    Prop where
  aside : Aside s r.1
  done : ∃ reply, r.2 = .done reply
  idle : r.1.browser.isLoading = false
  counts : r.1.counts = s.counts ++ asked
  light : ∃ jobs, r.1.ready = s.ready ++ jobs ∧ jobs.length ≤ 1 ∧ ∀ job ∈ jobs, job.isLight = true

/-! ## Strides -/

theorem respond_aside (s : Session) (sent : Sent) : Aside s (s.respond sent).1 := by
  rcases s.respond_cases sent with ⟨-, hnone⟩ | ⟨b, hb, hsome⟩
  · rw [hnone]
    exact ⟨⟨rfl, rfl, rfl, rfl⟩, .refl _, fun _ => id, rfl, rfl, rfl⟩
  · rw [hsome]
    refine ⟨⟨rfl, rfl, rfl, rfl⟩, .refl _, ?_, rfl, rfl, rfl⟩
    rintro other ⟨c, hc, hwilling⟩
    have hlt := (List.getElem?_eq_some_iff.mp hb).1
    by_cases hsame : sent.backend = other
    · subst hsame
      obtain rfl := Option.some.inj (hb.symm.trans hc)
      exact ⟨_, List.getElem?_set_self hlt, hwilling.respond _ _⟩
    · exact ⟨c, (List.getElem?_set_ne hsame).trans hc, hwilling⟩

/-- An answer is recorded, and nothing follows from it. -/
theorem respond_records {sent : Sent} {answer : Except Fault Value}
    (h : s.respond sent = (t, answer)) : t.sent = s.sent ∧ t.ready = s.ready := by
  rcases s.respond_cases sent with ⟨-, hnone⟩ | ⟨b, -, hsome⟩
  · cases hnone.symm.trans h
    exact ⟨rfl, rfl⟩
  · cases hsome.symm.trans h
    exact ⟨rfl, rfl⟩

variable {leg next : Leg}

/-- Whatever waits is left alone by a load. -/
theorem Stride.aside (h : Stride (s, leg) (t, next)) : Aside s t := by
  have hupdated : ∀ {f : Browser → Browser}, AlikeBrowsers s.browser (f s.browser) →
      Aside s (s.update f) := fun hf => (Stays.update hf).aside
  cases h with
  | refuse => exact hupdated (.of_basis rfl)
  | begin => exact ⟨⟨rfl, rfl, rfl, rfl⟩, .refl _, fun _ => id, rfl, rfl, rfl⟩
  | learn known => exact (apprised_of_ensure known).unmoved.aside
  | take taken => exact (apprised_of_take taken).unmoved.aside
  | retype => exact hupdated (retype_alike s.browser)
  | showAgain recalled target found commit =>
    rw [showKept_committed commit]
    exact ⟨⟨rfl, rfl, rfl, rfl⟩, .refl _, fun _ => id, rfl, rfl, rfl⟩
  | count unknown request =>
    cases request
    exact (request_unmoved s _ _).aside
  | @hear _ _ sent _ _ _ respond =>
    have haside := respond_aside s sent
    rwa [respond] at haside
  | ask request =>
    cases request
    exact ⟨⟨rfl, rfl, rfl, rfl⟩, .refl _, fun _ => id, rfl, rfl, rfl⟩
  | @receive _ _ sent _ _ _ _ respond =>
    have haside := respond_aside s sent
    rwa [respond] at haside
  | turn => exact ⟨⟨rfl, rfl, rfl, rfl⟩, .refl _, fun _ => id, rfl, rfl, rfl⟩
  | @display _ _ load plan _ _ _ view =>
    obtain ⟨cache, hbrowser, -⟩ := showFetched_browser s load plan view
    refine ⟨⟨?_, ?_, ?_, ?_⟩, ?_, fun _ => id, rfl, rfl, rfl⟩ <;> rw [hbrowser]
    · rfl
    · rfl
    · rfl
    · rfl
    · exact .refl _
  | rest => exact hupdated (.of_basis rfl)
  | fail => exact hupdated (.of_basis rfl)
  | close _ load outcome =>
    cases outcome <;> exact ⟨⟨rfl, rfl, rfl, rfl⟩, .refl _, fun _ => id, rfl, rfl, rfl⟩
  | _ => exact (Stays.refl s).aside

/-! ## Attributes -/

/-- No number is asked for to get to know the attributes. -/
theorem Apprised.sent (h : Apprised s t) : t.sent = s.sent := by
  obtain ⟨registry, known, rfl⟩ := h
  rfl

/-- A willing backend shows its schemas at once, and they can be taken over. -/
theorem ensureAttributes_done (h : s.Attends number collection) : s.ensureAttributes.2 = .done () := by
  obtain ⟨b, hb, hwilling⟩ := h.willing
  have hsame : ∀ {query : SchemaQuery}, s.browser.executor = some query.backend →
      ∀ c, s.backend? query.backend = some c → c = b := by
    intro query hexecutor c hc
    rw [← Option.some.inj (h.executor.symm.trans hexecutor), hb] at hc
    exact (Option.some.inj hc).symm
  cases hr : s.ensureAttributes with
  | mk t outcome =>
    cases outcome with
    | done known => rfl
    | raised f =>
      obtain ⟨rfl, query, hexecutor, htaken⟩ := ensureAttributes_raised hr
      rw [takeSchema_ok fun c hc => hsame hexecutor c hc ▸ hwilling.keyed] at htaken
      cases htaken
    | paused query =>
      obtain ⟨rfl, hexecutor, c, hc, hheld⟩ := ensureAttributes_paused hr
      rw [hsame hexecutor c hc, hwilling.schemaUnheld] at hheld
      cases hheld

/-! ## A load from its beginning to its end -/

/-- Some numbers have been asked for, and nothing has come of it so far. -/
structure Counting (s : Session) (asked : List Sent) (t : Session) : Prop where
  aside : Aside s t
  counts : t.counts = s.counts ++ asked
  ready : t.ready = s.ready

/-- The page of a plan is asked for by the query as it was, and so that no number is asked for. -/
structure PlansPage (s : Session) (plan : PagePlan) : Prop where
  config : s.browser.config.RetypedTo plan.config
  plain : ∀ backend collection, Sent.counts ⟨backend, collection, plan.request.toFields⟩ = false

/-- The load goes to the first page of the collection, and is not out of date. -/
structure Opens (t : Session) (collection : String) (load : Load) : Prop where
  first : load.IsFirst
  collection : load.collection = collection
  generation : t.browser.generation = load.generation

/-- The number of documents has been asked for, for a load of the first page. -/
structure HasCounted (s : Session) (number : Nat) (collection : String) (t : Session) (load : Load)
    (plan : PagePlan) : Prop where
  counting : Counting s [.ofCount number collection plan.config] t
  first : load.IsFirst
  page : PlansPage s plan

/-- A load of the first page asks for the number of documents once it has decided on its page, and then
for none again. -/
def CountsOn (s : Session) (number : Nat) (collection : String) (t : Session) : Leg → Prop
  | .wanted page forced =>
      Counting s [] t ∧ page = .int 1 ∧ forced = true ∧ t.browser.isLoading = false
  | .begun load | .ready load | .due load => Counting s [] t ∧ Opens t collection load
  | .taught _ _ => False
  | .planned load plan => Counting s [] t ∧ Opens t collection load ∧ PlansPage s plan
  | .counting sent load plan | .asking sent load plan _ =>
      HasCounted s number collection t load plan ∧ sent.backend = number
  | .counted load plan _ | .told load plan _ | .answered _ load plan _ _
  | .turned _ load plan _ _ _ => HasCounted s number collection t load plan
  | .stops _ outcome | .over outcome => ∃ c, s.browser.config.RetypedTo c ∧
      Over s [.ofCount number collection c] (t, outcome)

theorem Counting.followed {asked : List Sent} (hst : Counting s asked t) (htu : Aside t u)
    (hsent : u.sent = t.sent) (hready : u.ready = t.ready) : Counting s asked u where
  aside := hst.aside.trans htu
  counts := (congrArg (List.filter Sent.counts) hsent).trans hst.counts
  ready := hready.trans hst.ready

/-- One more request is sent. -/
theorem Counting.sending {asked more : List Sent} {sent : Sent} (hst : Counting s asked t)
    (htu : Aside t u) (hsent : u.sent = t.sent ++ [sent]) (hready : u.ready = t.ready)
    (hcounts : [sent].filter Sent.counts = more) : Counting s (asked ++ more) u where
  aside := hst.aside.trans htu
  counts := by
    have hold := hst.counts
    unfold Session.counts at hold ⊢
    rw [hsent, List.filter_append, hold, hcounts, List.append_assoc]
  ready := hready.trans hst.ready

/-- The load comes to its end, and leaves some jobs behind. -/
theorem HasCounted.over {jobs : List Job} (ht : HasCounted s number collection t load plan)
    (htu : Aside t u) (hsent : u.sent = t.sent) (hready : u.ready = t.ready ++ jobs)
    (hlight : jobs.length ≤ 1 ∧ ∀ job ∈ jobs, job.isLight = true)
    (hidle : u.browser.isLoading = false) (shown : Bool) :
    ∃ c, s.browser.config.RetypedTo c ∧ Over s [.ofCount number collection c]
      ((u, .done shown) : Session × Outcome LoadPause Bool) :=
  ⟨plan.config, ht.page.config, ht.counting.aside.trans htu, ⟨shown, rfl⟩, hidle,
    (congrArg (List.filter Sent.counts) hsent).trans ht.counting.counts, jobs,
    by rw [hready, ht.counting.ready], hlight⟩

namespace CountsOn

variable (h : s.Attends number collection)

include h

/-- The load turns to the backend in use. -/
theorem willing {other : Nat} (ht : CountsOn s number collection t leg)
    (hturns : t.turnsTo? leg = some other) : t.HasWilling other := by
  cases leg with
  | begun load =>
    have hattends := ht.1.aside.attends h
    obtain rfl := Option.some.inj (hattends.executor.symm.trans hturns)
    exact hattends.willing
  | taught query load => exact ht.elim
  | counting sent load plan =>
    cases hturns
    rw [ht.2]
    exact (ht.1.counting.aside.attends h).willing
  | asking sent load plan total =>
    cases hturns
    rw [ht.2]
    exact (ht.1.counting.aside.attends h).willing
  | _ => cases hturns

/-- Nobody keeps the load waiting. -/
theorem not_waits {pause : LoadPause} (ht : CountsOn s number collection t leg)
    (hwaits : WaitsAt t leg pause) : False := by
  obtain ⟨other, b, hturns, hb, hheld⟩ := hwaits.holder
  obtain ⟨c, hc, hwilling⟩ := ht.willing h hturns
  obtain rfl := Option.some.inj (hb.symm.trans hc)
  rcases hheld with hheld | hheld
  · rw [hwilling.unheld] at hheld
    cases hheld
  · rw [hwilling.schemaUnheld] at hheld
    cases hheld

/-- Every stride of the load goes on so. -/
theorem stride (hstride : Stride (t, leg) (u, next)) (haims : leg.Aims)
    (ht : CountsOn s number collection t leg) : CountsOn s number collection u next := by
  have haside := hstride.aside
  have hkeyed : ∀ other, t.turnsTo? leg = some other → ∀ b, t.backend? other = some b → b.Keyed := by
    intro other hturns b hb
    obtain ⟨c, hc, hwilling⟩ := ht.willing h hturns
    obtain rfl := Option.some.inj (hb.symm.trans hc)
    exact hwilling.keyed
  have hwaits : ∀ {pause}, ¬ WaitsAt t leg pause := fun hwaits => ht.not_waits h hwaits
  have hnone : (∀ job ∈ ([] : List Job), job.isLight = true) := fun _ hjob => by cases hjob
  cases hstride with
  | idle idle =>
    obtain ⟨hcounting, -, -, hidle⟩ := ht
    rcases idle with hnowhere | hloading
    · rw [(hcounting.aside.attends h).current] at hnowhere
      cases hnowhere
    · rw [hidle] at hloading
      cases hloading
  | refuse loading executor =>
    rw [(ht.1.aside.attends h).executor] at executor
    cases executor
  | begin current =>
    obtain ⟨hcounting, rfl, rfl, -⟩ := ht
    obtain rfl := Option.some.inj (current.symm.trans (hcounting.aside.attends h).current)
    exact ⟨hcounting.followed haside rfl rfl, ⟨rfl, rfl⟩, rfl, rfl⟩
  | learn known =>
    have happrised := apprised_of_ensure known
    have hunmoved := happrised.unmoved
    exact ⟨ht.1.followed haside happrised.sent hunmoved.ready, ht.2.first, ht.2.collection,
      hunmoved.browser.generation.trans ht.2.generation⟩
  | take => exact ht.elim
  | retype => exact ⟨ht.1.followed haside rfl rfl, ht.2.first, ht.2.collection, ht.2.generation⟩
  | decide planned =>
    have hattends := ht.1.aside.attends h
    refine ⟨ht.1, ht.2, ?_, Sent.counts_page hattends.plain planned.request⟩
    rw [planned.config]
    exact ht.1.aside.config
  | showAgain recalled target found =>
    rw [kept?_first ht.2.first] at found
    cases found
  | know known =>
    unfold Browser.knownTotal? at known
    rw [ht.2.1.first.2, Bool.not_true, Bool.and_false, if_neg Bool.false_ne_true] at known
    cases known
  | @count _ _ load plan sent unknown request =>
    obtain ⟨hcounting, hopens, hplans⟩ := ht
    have hexecutor := (hcounting.aside.attends h).executor
    cases request
    rw [hexecutor, hopens.collection] at haside ⊢
    exact ⟨⟨hcounting.sending haside rfl rfl
      (List.filter_cons_of_pos (Sent.counts_ofCount number collection plan.config)),
      hopens.first, hplans⟩, rfl⟩
  | hear respond =>
    obtain ⟨hsent, hready⟩ := respond_records respond
    exact ⟨ht.1.counting.followed haside hsent hready, ht.1.first, ht.1.page⟩
  | tell => exact ht
  | @ask _ _ load plan _ sent request =>
    have hexecutor := (ht.counting.aside.attends h).executor
    cases request
    refine ⟨⟨ht.counting.sending haside rfl rfl ?_, ht.first, ht.page⟩, ?_⟩
    · exact List.filter_cons_of_neg (by simp [ht.page.plain])
    · change t.browser.executor.getD 0 = number
      rw [hexecutor, Option.getD_some]
  | receive respond =>
    obtain ⟨hsent, hready⟩ := respond_records respond
    exact ⟨ht.1.counting.followed haside hsent hready, ht.1.first, ht.1.page⟩
  | turn => exact ⟨ht.counting.followed haside rfl rfl, ht.first, ht.page⟩
  | @display _ _ load plan _ _ _ view =>
    obtain ⟨cache, hbrowser, -⟩ := showFetched_browser t load plan view
    refine ht.over haside rfl rfl ⟨le_rfl, fun job hjob => ?_⟩ ?_ true
    · rw [List.mem_singleton.mp hjob]
      rfl
    · rw [hbrowser]
      rfl
  | rest late =>
    cases late with
    | ready late => exact absurd ht.2.generation late
    | answered late =>
      exact ht.over haside rfl (List.append_nil _).symm ⟨Nat.zero_le 1, hnone⟩ rfl false
  | fail fails =>
    cases fails with
    | query target request =>
      have hmode := (ht.1.aside.attends h).mode
      obtain ⟨found, hfound⟩ := Query.compilePage_ok hmode _ t.browser.registry
      rw [hfound] at request
      cases request
    | page => exact ht.over haside rfl (List.append_nil _).symm ⟨Nat.zero_le 1, hnone⟩ rfl false
    | count => exact ht.over haside rfl (List.append_nil _).symm ⟨Nat.zero_le 1, hnone⟩ rfl false
    | number => exact ht.over haside rfl (List.append_nil _).symm ⟨Nat.zero_le 1, hnone⟩ rfl false
  | broken breaks =>
    have hnot := breaks.not_first haims hkeyed
    cases breaks with
    | schema => exact absurd ht.2.first hnot
    | taught => exact ht.elim
    | target => exact absurd ht.2.first hnot
    | showAgain => exact absurd ht.2.first hnot
    | rows => exact absurd ht.first hnot
    | commit => exact absurd ht.first hnot
    | view => exact absurd ht.first hnot
  | wait waits => exact (hwaits waits).elim
  | close _ load outcome =>
    obtain ⟨c, hc, hover⟩ := ht
    obtain ⟨shown, rfl⟩ := hover.done
    exact ⟨c, hc, hover.aside.trans haside, ⟨shown, rfl⟩, hover.idle, hover.counts, hover.light⟩

end CountsOn

/-- A change of the query that is loaded at once asks for one number, by the query as it is. -/
theorem reloadFirst_over (h : s.Attends number collection) (hidle : s.browser.isLoading = false)
    (hsettled : s.browser.reloadPending = false) (after : AfterLoad) :
    ∃ c, s.browser.config.RetypedTo c ∧
      Over s [.ofCount number collection c] (s.reloadFirst after) := by
  have hbegins : CountsOn s number collection s (.wanted (.int 1) true) :=
    ⟨⟨(Stays.refl s).aside, (List.append_nil _).symm, rfl⟩, rfl, rfl, hidle⟩
  -- The load goes to the first page on every leg, and with that asks for one number.
  obtain ⟨-, c, hc, hover⟩ := (beginLoad_strides s (.int 1) true).keeps
    (I := fun t leg => leg.Aims ∧ CountsOn s number collection t leg)
    (fun hstride ⟨haims, ht⟩ => ⟨hstride.aims haims fun other hturns b hb => by
      obtain ⟨d, hd, hwilling⟩ := ht.willing h hturns
      obtain rfl := Option.some.inj (hb.symm.trans hd)
      exact hwilling.keyed, ht.stride h hstride haims⟩) ⟨trivial, hbegins⟩
  refine ⟨c, hc, ?_⟩
  unfold reloadFirst
  rw [hidle, if_neg Bool.false_ne_true]
  obtain ⟨shown, hdone⟩ := hover.done
  have hdrained : s.loadDocuments (.int 1) true = s.beginLoad (.int 1) true := by
    unfold loadDocuments
    rcases drain_cases (s.beginLoad (.int 1) true) with ⟨t, again, hr, hpending, -⟩ | ⟨hsame, -⟩
    · rw [hr] at hover
      rw [hover.aside.query.pending.trans hsettled] at hpending
      cases hpending
    · exact hsame
  rw [hdrained]
  generalize s.beginLoad (.int 1) true = r at *
  obtain ⟨t, outcome⟩ := r
  dsimp only at hdone
  subst hdone
  exact ⟨hover.aside, ⟨_, rfl⟩, hover.idle, hover.counts, hover.light⟩

/-! ## What is done in the background -/

/-- A job from which nothing follows leaves whatever waits, and asks for nothing. -/
theorem doJob_light {job : Job} (hlight : job.isLight = true) (s : Session) :
    Stays s (s.doJob job) ∧ (s.doJob job).browser.state = s.browser.state ∧
      (s.doJob job).sent = s.sent ∧ (s.doJob job).clock = s.clock := by
  cases job with
  | logRecent =>
    have hjob : s.doJob .logRecent = s.logRecent := rfl
    rw [hjob]
    rcases s.logRecent_cases with hsame | ⟨history, hlogged⟩
    · rw [hsame]
      exact ⟨.refl s, rfl, rfl, rfl⟩
    · rw [hlogged]
      exact ⟨⟨.of_basis rfl, rfl, rfl, rfl, rfl, rfl, rfl⟩, rfl, rfl, rfl⟩
  | discover collection rows =>
    have hjob : s.doJob (.discover collection rows) = s.discover collection rows := rfl
    rw [hjob]
    obtain ⟨registry, known, hdiscovered⟩ := discover_apprised s collection rows
    rw [hdiscovered]
    exact ⟨.update (.of_basis rfl), rfl, rfl, rfl⟩
  | _ => cases hlight

/-- Jobs from which nothing follows are done, one after another, before the others. -/
theorem doJobs_light {lights rest : List Job} (hready : s.ready = lights ++ rest)
    (hlight : ∀ job ∈ lights, job.isLight = true) (n : Nat) :
    ∃ t, Stays { s with ready := rest } t ∧ t.browser.state = s.browser.state ∧ t.sent = s.sent ∧
      t.clock = s.clock ∧ doJobs (n + lights.length) s = doJobs n t := by
  induction lights generalizing s with
  | nil => exact ⟨s, by rw [← show s.ready = rest from hready]; exact .refl s, rfl, rfl, rfl, rfl⟩
  | cons job others ih =>
    have hfirst := doJobs_cons (n + others.length) hready
    obtain ⟨hstays, hstate, hsent, hclock⟩ :=
      doJob_light (hlight job List.mem_cons_self) { s with ready := others ++ rest }
    generalize ({ s with ready := others ++ rest } : Session).doJob job = t at *
    obtain ⟨u, hu, hustate, husent, huclock, hjobs⟩ := ih (s := t) hstays.ready
      fun other hother => hlight other (List.mem_cons_of_mem _ hother)
    refine ⟨u, .trans ?_ hu, hustate.trans hstate, husent.trans hsent, huclock.trans hclock,
      hfirst.trans hjobs⟩
    exact ⟨hstays.browser, rfl, hstays.waiting, hstays.backends, hstays.debouncer, hstays.asleep,
      hstays.journal⟩

end Session

end Folio
