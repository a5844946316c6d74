-- Queries that aggregate. What they ask for is asked over all that their filter lets pass, never over
-- what lies behind a page: such a query stands on its first page, since no row comes back behind which
-- another page could start; and what was planned for an earlier query is kept apart by its generation.
import Mathlib.Data.List.Induction
import Folio.Proofs.LearnedSessions
import Folio.Proofs.OneOperation
import Folio.Proofs.Generations

namespace Folio

/-! ## Requests for aggregates -/

theorem Named.put_ne_nil {α : Type} (all : Named α) (name : String) (a : α) :
    all.put name a ≠ [] := by
  intro hnil
  have hsome := Named.get?_put_self all name a
  rw [hnil] at hsome
  cases hsome

theorem Named.ofList_ne_nil {α : Type} {entries : Named α} (h : entries ≠ []) :
    Named.ofList entries ≠ [] := by
  have hputs : ∀ (entries all : Named α), all ≠ [] → all.putAll entries ≠ [] := by
    intro entries
    induction entries with
    | nil => exact fun _ hall => hall
    | cons entry rest ih => exact fun all _ => ih _ (Named.put_ne_nil all _ _)
  cases entries with
  | nil => exact absurd rfl h
  | cons entry rest => exact hputs rest _ (Named.put_ne_nil [] _ _)

namespace Request

variable (r : Request)

/-- A field is sent just if it is set. -/
theorem mem_names_iff (name : String) :
    name ∈ Named.names r.toFields ↔ ∃ v, (name, v) ∈ r.fields ∧ v.isNull = false := by
  simp [Named.names, toFields]

theorem asks_aggregates_iff :
    "aggregate_by" ∈ Named.names r.toFields ↔ r.aggregateBy.isSome = true := by
  simp only [mem_names_iff, fields]
  cases r.aggregateBy <;> simp [Value.ofOption, Value.isNull]

end Request

namespace Query

variable {c : QueryConfig} {page : PageRequest} {registry : Registry} {request : Request}

/-- A request that asks for the aggregates of a query over all that its filter lets pass. -/
structure CoversAll (c : QueryConfig) (request : Fields) : Prop where
  aggregates : Fields.get request "aggregate_by" =
    .object (Request.aggregateFields (aggregatesOf c))
  filters : Fields.get request "filters" = compileFilters c
  unranked : "rank_by" ∉ Named.names request
  bare : "include_attributes" ∉ Named.names request

/-- What the request for a page of a query has to do with aggregates. -/
theorem compilePage_aggregates (h : compilePage c page registry = .ok request) :
    if c.aggregates then request.includeAttributes = none ∧ request.aggregateBy = some (aggregatesOf c)
    else request.aggregateBy = none := by
  unfold compilePage at h
  cases haggregates : c.aggregates with
  | true =>
    simp only [haggregates, if_true, pure, Except.pure, Except.ok.injEq] at h
    subst h
    exact ⟨rfl, rfl⟩
  | false =>
    cases hr : compileRank c registry with
    | error f => simp [haggregates, hr, bind, Except.bind] at h
    | ok ranking =>
      simp only [haggregates, hr, Bool.false_eq_true, if_false, bind, Except.bind, pure,
        Except.pure, Except.ok.injEq] at h
      subst h
      rfl

/-- Just the queries that aggregate ask for aggregates of a page. -/
theorem asks_aggregates_iff (h : compilePage c page registry = .ok request) :
    "aggregate_by" ∈ Named.names request.toFields ↔ c.aggregates = true := by
  have hparts := compilePage_aggregates h
  rw [Request.asks_aggregates_iff]
  cases haggregates : c.aggregates with
  | true =>
    rw [haggregates] at hparts
    exact iff_of_true (by rw [hparts.2]; rfl) rfl
  | false =>
    rw [haggregates] at hparts
    have hnone : request.aggregateBy = none := hparts
    rw [hnone]
    exact iff_of_false Bool.false_ne_true Bool.false_ne_true

/-- The request for the first page of a query that aggregates. -/
theorem coversAll_first (h : compilePage c page registry = .ok request)
    (haggregates : c.aggregates = true) (hfirst : page.page ≤ 1) : CoversAll c request.toFields := by
  have hparts := compilePage_aggregates h
  rw [if_pos haggregates] at hparts
  obtain ⟨hattributes, hasks⟩ := hparts
  obtain ⟨hfilters, -, hrank⟩ := requests h
  rw [if_neg (Int.not_lt.mpr hfirst), withCursor] at hfilters
  rw [if_pos haggregates] at hrank
  refine ⟨?_, ?_, ?_, ?_⟩
  · rw [Request.get_aggregateBy, hasks]
    rfl
  · rw [Request.get_filters, hfilters]
  · simp [Request.mem_names_iff, Request.fields, hrank, Value.isNull]
  · simp [Request.mem_names_iff, Request.fields, hattributes, Value.ofOption, Value.isNull]

theorem aggregatesOf_ne_nil (haggregates : c.aggregates = true) : aggregatesOf c ≠ [] := by
  refine Named.ofList_ne_nil fun hnil => ?_
  rw [List.map_eq_nil_iff] at hnil
  simp [QueryConfig.aggregates, hnil] at haggregates

/-- There is something that it asks for. -/
theorem CoversAll.isTrue {fields : Fields} (h : CoversAll c fields)
    (haggregates : c.aggregates = true) : (Fields.get fields "aggregate_by").isTrue = true := by
  have hnone := aggregatesOf_ne_nil haggregates
  rw [h.aggregates]
  simpa [Value.isTrue, Request.aggregateFields] using hnone

end Query

/-! ## Answers without rows -/

/-- Aggregates are told without rows. -/
theorem Collection.aggregate_rows {docs : List Fields} {aggregates groups response : Value}
    (h : Collection.aggregate docs aggregates groups = .ok response) :
    View.rowsIn response = .ok [] := by
  have hrows : ∀ rest : Fields, View.rowsIn (.object (("rows", .list []) :: rest)) = .ok [] :=
    fun _ => rfl
  unfold Collection.aggregate at h
  cases aggregates with
  | object fields =>
    simp only [bind, Except.bind, pure, Except.pure] at h
    cases hcounts : readCounts fields with
    | error f => simp [hcounts] at h
    | ok counts =>
      simp only [hcounts] at h
      split at h
      · split at h
        · cases h
        · cases h
          exact hrows _
      · split at h
        · cases h
          exact hrows _
        · split at h
          · cases h
          · split at h
            · cases h
            · split at h
              · cases h
              · cases h
                exact hrows _
  | _ => cases h

theorem Collection.answer_rows {docs : List Fields} {request : Fields} {response : Value}
    (h : Collection.answer docs request = .ok response)
    (haggregates : (Fields.get request "aggregate_by").isTrue = true) :
    View.rowsIn response = .ok [] := by
  unfold Collection.answer at h
  simp only [bind, Except.bind, haggregates, if_true] at h
  split at h
  · cases h
  · exact Collection.aggregate_rows h

/-- So does a backend with a store behind it. -/
theorem Backend.IsStore.rows {b : Backend} (hb : b.IsStore) {collection : String} {request : Fields}
    {response : Value} (h : (b.respond collection request).2 = .ok response)
    (haggregates : (Fields.get request "aggregate_by").isTrue = true) :
    View.rowsIn response = .ok [] := by
  obtain ⟨store, -, -, -, hanswer⟩ := hb.backed.answer h
  obtain ⟨docs, -, hanswered⟩ := DocumentStore.answer_ok hanswer
  exact Collection.answer_rows hanswered haggregates

/-! ## First pages -/

namespace Paging

variable {p q : Paging} {move : PageMove}

/-- From a first page behind which nothing starts every step leads to the first page. -/
theorem plan_first (hpage : p.page = 1) (hnext : p.next = none) (target : Int) :
    (p.plan target).page = 1 := by
  unfold plan
  dsimp only
  split
  · rfl
  · split
    · exact hpage
    · split
      · rw [hnext]
        exact hpage
      · have hlow : max 1 target = 1 := by omega
        contradiction

/-- Behind a page without rows nothing starts. -/
theorem commit_no_rows (hfirst : move.page = 1) (h : p.commit move [] = .ok q) :
    q.page = 1 ∧ q.next = none := by
  have hentered : p.entered move = .sound [] := by
    unfold entered
    rw [if_pos (Int.le_of_eq hfirst)]
  have hends : EndsIn [] none := rfl
  have hcommit := commit_of_endsIn hends hentered
  rw [hcommit] at h
  cases h
  exact ⟨hfirst, rfl⟩

end Paging

/-! ## Plans and the query as it is -/

/-- A browser with the same query as far as aggregates go, or with a later one. -/
structure Browser.Later (b c : Browser) : Prop where
  generation : b.generation ≤ c.generation
  aggregates : c.generation = b.generation → c.config.aggregates = b.config.aggregates

/-- The page that a load is going to ask for: a plan for the query as it is aggregates as that query
does, and any plan that aggregates is for a first page. -/
structure PagePlan.Befits (plan : PagePlan) (load : Load) (b : Browser) : Prop where
  generation : load.generation ≤ b.generation
  query : load.generation = b.generation → plan.config.aggregates = b.config.aggregates
  compiled : ∃ pageSize, plan.Compiled pageSize
  first : plan.config.aggregates = true → plan.move.page = 1

theorem PagePlan.Befits.later {plan : PagePlan} {load : Load} {b c : Browser}
    (h : plan.Befits load b) (hbc : b.Later c) : plan.Befits load c where
  generation := Nat.le_trans h.generation hbc.generation
  query := by
    intro hsame
    have hgeneration : c.generation = b.generation :=
      Nat.le_antisymm (hsame ▸ h.generation) hbc.generation
    rw [hbc.aggregates hgeneration]
    exact h.query (hsame.trans hgeneration)
  compiled := h.compiled
  first := h.first

theorem PagePlan.Befits.coversAll {plan : PagePlan} {load : Load} {b : Browser}
    (h : plan.Befits load b) (haggregates : plan.config.aggregates = true) :
    Query.CoversAll plan.config plan.request.toFields := by
  obtain ⟨pageSize, registry, hcompiled⟩ := h.compiled
  exact Query.coversAll_first hcompiled haggregates (Int.le_of_eq (h.first haggregates))

/-- Just the plans that aggregate ask for aggregates. -/
theorem PagePlan.Befits.asks_iff {plan : PagePlan} {load : Load} {b : Browser}
    (h : plan.Befits load b) :
    "aggregate_by" ∈ Named.names plan.request.toFields ↔ plan.config.aggregates = true := by
  obtain ⟨pageSize, registry, hcompiled⟩ := h.compiled
  exact Query.asks_aggregates_iff hcompiled

/-- What a load waits with befits a browser. -/
def LoadPause.Befits (b : Browser) : LoadPause → Prop
  | schema _ _ => True
  | count _ load plan => plan.Befits load b
  | page sent load plan _ => plan.Befits load b ∧ sent.request = plan.request.toFields

/-- What a load has in hand befits a browser. A load that still has to decide may be out of date: it
will not decide then. -/
def Leg.Befits (b : Browser) : Leg → Prop
  | planned load plan | counting _ load plan | counted load plan _ | told load plan _ =>
      plan.Befits load b
  | asking sent load plan _ => plan.Befits load b ∧ sent.request = plan.request.toFields
  | answered _ load plan _ answer => plan.Befits load b ∧ (plan.config.aggregates = true →
      ∀ response rows, answer = .ok response → View.rowsIn response = .ok rows → rows = [])
  | stops _ (.paused p) | .over (.paused p) => p.Befits b
  | _ => True

theorem LoadPause.Befits.leg {p : LoadPause} {b : Browser} (h : p.Befits b) : p.leg.Befits b := by
  cases p with
  | schema query load => trivial
  | count sent load plan => exact h
  | page sent load plan total => exact h

theorem LoadPause.Befits.later {p : LoadPause} {b c : Browser} (h : p.Befits b) (hbc : b.Later c) :
    p.Befits c := by
  cases p with
  | schema query load => trivial
  | count sent load plan => exact PagePlan.Befits.later h hbc
  | page sent load plan total => exact ⟨h.1.later hbc, h.2⟩

namespace Session

variable {s t : Session} {load : Load} {leg : Leg} {allowed : Command → Prop}
  {byHand : Sent → Prop}

/-! ## What is asked for -/

/-- Why a request was sent: by hand, to count documents, or for a page; and if it asks for aggregates of
a page, it asks for them over all that the filter lets pass. -/
inductive Explained (byHand : Sent → Prop) (journal : List LoadEvent) (sent : Sent) : Prop where
  | hand (h : byHand sent)
  | count {c : QueryConfig} (request : sent.request = (Query.compileCount c).toFields)
  | page {load : Load} {plan : PagePlan} (asked : .asked sent load plan ∈ journal)
      (request : sent.request = plan.request.toFields) (compiled : ∃ pageSize, plan.Compiled pageSize)
      (asks : "aggregate_by" ∈ Named.names sent.request ↔ plan.config.aggregates = true)
      (covers : plan.config.aggregates = true → Query.CoversAll plan.config sent.request)

theorem Explained.counting {journal : List LoadEvent} (number : Nat) (collection : String)
    (c : QueryConfig) :
    Explained byHand journal ⟨number, collection, (Query.compileCount c).toFields⟩ := by
  generalize hrequest : (Query.compileCount c).toFields = request
  exact .count hrequest.symm

theorem Explained.grow {journal later : List LoadEvent} {sent : Sent}
    (h : Explained byHand journal sent) (hgrow : journal <+: later) :
    Explained byHand later sent := by
  cases h with
  | hand h => exact .hand h
  | count request => exact .count request
  | page asked request compiled asks covers =>
    exact .page (hgrow.subset asked) request compiled asks covers

/-- A session in which whatever asks for aggregates asks for all of them. -/
structure AsksForAll (byHand : Sent → Prop) (s : Session) : Prop where
  page : s.browser.config.aggregates = true →
    s.browser.paging.page = 1 ∧ s.browser.paging.next = none
  stores : ∀ b ∈ s.backends, b.IsStore
  sent : ∀ sent ∈ s.sent, Explained byHand s.journal sent
  waits : ∀ p ∈ s.pauses, p.Befits s.browser

/-- Another query, or the same one; nobody new waits. -/
theorem AsksForAll.later (h : AsksForAll byHand s) (later : s.browser.Later t.browser)
    (page : t.browser.config.aggregates = true →
      t.browser.paging.page = 1 ∧ t.browser.paging.next = none)
    (stores : ∀ b ∈ t.backends, b.IsStore) (actions : t.actions ⊆ s.actions)
    (journal : s.journal <+: t.journal)
    (sent : ∀ sent ∈ t.sent, sent ∈ s.sent ∨ Explained byHand t.journal sent) :
    AsksForAll byHand t where
  page := page
  stores := stores
  sent := fun x hx => (sent x hx).elim (fun hold => (h.sent x hold).grow journal) id
  waits := fun p hp => (h.waits p (mem_pauses_of_actions actions hp)).later later

theorem SameBearings.later (h : SameBearings s t) : s.browser.Later t.browser := by
  have hgeneration : t.browser.generation = s.browser.generation :=
    congrArg Bearings.generation h.bearings
  have hconfig : t.browser.config = s.browser.config := congrArg Bearings.config h.bearings
  exact ⟨Nat.le_of_eq hgeneration.symm, fun _ => by rw [hconfig]⟩

theorem AsksForAll.same (h : AsksForAll byHand s) (hst : SameBearings s t) : AsksForAll byHand t := by
  have hconfig : t.browser.config = s.browser.config := congrArg Bearings.config hst.bearings
  have hpaging : t.browser.paging = s.browser.paging := congrArg Bearings.paging hst.bearings
  refine h.later hst.later ?_ (hst.stores h.stores) hst.actions hst.journal fun x hx => ?_
  · rw [hconfig, hpaging]
    exact h.page
  · exact .inl (hst.sent ▸ hx)

/-- The browser is changed in what has nothing to do with aggregates. -/
theorem AsksForAll.update (h : AsksForAll byHand s) {f : Browser → Browser}
    (generation : (f s.browser).generation = s.browser.generation)
    (aggregates : (f s.browser).config.aggregates = s.browser.config.aggregates)
    (paging : (f s.browser).paging = s.browser.paging) : AsksForAll byHand (s.update f) := by
  refine h.later ⟨Nat.le_of_eq generation.symm, fun _ => aggregates⟩ ?_ h.stores (fun _ hw => hw)
    List.prefix_rfl fun _ => .inl
  change (f s.browser).config.aggregates = true → _
  rw [aggregates]
  change _ → (f s.browser).paging.page = 1 ∧ (f s.browser).paging.next = none
  rw [paging]
  exact h.page

/-- A page is shown, and the walk has gone on to it. -/
theorem AsksForAll.update_paging (h : AsksForAll byHand s) {paging : Paging}
    (page : s.browser.config.aggregates = true → paging.page = 1 ∧ paging.next = none) :
    AsksForAll byHand (s.update ({ · with paging := paging })) :=
  h.later ⟨Nat.le_refl _, fun _ => rfl⟩ page h.stores (fun _ hw => hw) List.prefix_rfl fun _ => .inl

/-- A request is sent for some reason. -/
theorem AsksForAll.sends (h : AsksForAll byHand s) {sent : Sent} (browser : t.browser = s.browser)
    (backends : t.backends = s.backends) (actions : t.actions ⊆ s.actions)
    (journal : s.journal <+: t.journal) (hsent : t.sent = s.sent ++ [sent])
    (explained : Explained byHand t.journal sent) : AsksForAll byHand t := by
  refine h.later ⟨Nat.le_of_eq (by rw [browser]), fun _ => by rw [browser]⟩ (browser ▸ h.page)
    (backends ▸ h.stores) actions journal fun x hx => ?_
  rw [hsent] at hx
  refine (List.mem_append.mp hx).imp_right fun hnew => ?_
  rwa [List.mem_singleton.mp hnew]

/-! ## Loads -/

/-- The answer to a request for aggregates has no rows. -/
theorem respond_no_rows {sent : Sent} {response : Value} {rows : List Value}
    (hstores : ∀ b ∈ s.backends, b.IsStore) (hrespond : s.respond sent = (t, .ok response))
    (haggregates : (Fields.get sent.request "aggregate_by").isTrue = true)
    (hrows : View.rowsIn response = .ok rows) : rows = [] := by
  obtain ⟨b, hb, hanswer⟩ := backend_of_respond (congrArg Prod.snd hrespond)
  have hnone := (hstores b (List.mem_of_getElem? hb)).rows hanswer haggregates
  exact Except.ok.inj (hrows.symm.trans hnone)

/-- Every stride of a load keeps it so. -/
theorem AsksForAll.stride {next : Leg} (hstride : Stride (s, leg) (t, next))
    (h : AsksForAll byHand s ∧ leg.Befits s.browser) :
    AsksForAll byHand t ∧ next.Befits t.browser := by
  obtain ⟨h, hleg⟩ := h
  cases hstride with
  | idle => exact ⟨h, trivial⟩
  | refuse => exact ⟨h.update (f := (·.fail _)) rfl rfl rfl, trivial⟩
  | begin => exact ⟨(h.update (f := (·.begin)) rfl rfl rfl).same (.note _ _), trivial⟩
  | learn known => exact ⟨h.same (apprised_of_ensure known).bearings, trivial⟩
  | take taken => exact ⟨h.same (apprised_of_take taken).bearings, trivial⟩
  | retype => exact ⟨h.update rfl rfl rfl, trivial⟩
  | @decide _ own plan planned =>
    refine ⟨h, Nat.le_of_eq planned.generation.symm, fun _ => by rw [planned.config], ?_, ?_⟩
    · refine ⟨s.browser.paging.pageSize, s.browser.registry, ?_⟩
      rw [planned.config]
      exact planned.request
    · -- The walk of a query that aggregates stands on its first page, and nothing leads on from there.
      intro haggregates
      obtain ⟨target, hmove⟩ := planned.move
      rw [planned.config] at haggregates
      obtain ⟨hpage, hnext⟩ := h.page haggregates
      rw [hmove]
      exact Paging.plan_first hpage hnext target
  | @showAgain _ own move page paging recalled target found commit =>
    obtain ⟨-, -, -, -, hplain⟩ := kept?_facts found
    rw [showKept_committed commit]
    have hturned : AsksForAll byHand (s.update ({ · with paging := paging })) := by
      refine h.update_paging fun haggregates => ?_
      rw [hplain] at haggregates
      cases haggregates
    have hshown := hturned.update (f := fun b => b.present s.browser.config
      (.ofRows page.rows page.total)) rfl rfl rfl
    exact ⟨((hshown.same (.note _ _)).same (.note _ _)).same (.spawn _ rfl), trivial⟩
  | know | tell => exact ⟨h, hleg⟩
  | @count _ _ own plan sent unknown request =>
    cases request
    exact ⟨h.sends rfl rfl (fun _ hw => hw) List.prefix_rfl rfl (.counting _ _ plan.config), hleg⟩
  | hear respond =>
    have hsame := bearings_of_respond respond
    exact ⟨h.same hsame, hleg.later hsame.later⟩
  | @ask _ _ own plan total sent request =>
    cases request
    refine ⟨h.sends rfl rfl (fun _ hw => hw) (List.prefix_append _ _) rfl ?_, hleg, rfl⟩
    exact .page (List.mem_append_right _ (List.mem_singleton_self _)) rfl hleg.compiled hleg.asks_iff
      hleg.coversAll
  | receive respond =>
    obtain ⟨hbefits, hrequest⟩ := hleg
    have hsame := bearings_of_respond respond
    refine ⟨h.same hsame, hbefits.later hsame.later, fun hplan response rows hanswer hrows => ?_⟩
    subst hanswer
    refine respond_no_rows h.stores respond ?_ hrows
    rw [hrequest]
    exact (hbefits.coversAll hplan).isTrue hplan
  | @turn _ sent own plan _ response rows paging current read commit =>
    obtain ⟨hbefits, hnone⟩ := hleg
    -- A load that is not out of date aggregates just if the query does.
    refine ⟨(h.update_paging fun haggregates => ?_).same (.note _ _), trivial⟩
    have hplan : plan.config.aggregates = true := (hbefits.query current.symm).trans haggregates
    rw [hnone hplan response rows rfl read] at commit
    exact Paging.commit_no_rows (hbefits.first hplan) commit
  | @display _ _ own plan _ _ _ view =>
    unfold showFetched
    refine ⟨((h.update ?_ ?_ ?_).same (.note _ _)).same (.spawn _ rfl), trivial⟩ <;>
      · dsimp only
        split <;> rfl
  | rest => exact ⟨h.update rfl rfl rfl, trivial⟩
  | fail => exact ⟨h.update rfl rfl rfl, trivial⟩
  | broken => exact ⟨h, trivial⟩
  | wait waits =>
    cases waits with
    | schema held => exact ⟨h, trivial⟩
    | count held => exact ⟨h, hleg⟩
    | page held => exact ⟨h, hleg⟩
  | close _ ending outcome =>
    cases outcome with
    | done | raised => exact ⟨h.same (.note s _), trivial⟩
    | paused p => exact ⟨h, hleg⟩

theorem asksForAll_invariant (byHand : Sent → Prop) :
    LoadInvariant fun s leg => AsksForAll byHand s ∧ leg.Befits s.browser where
  stride := AsksForAll.stride
  takeUp := fun _ _ h =>
    ⟨(h.1.update (f := ({ · with reloadPending := false })) rfl rfl rfl).same (.note _ _), trivial⟩

/-! ## What is done apart from loads -/

theorem AsksForAll.doing (hhand : ∀ number collection request,
    allowed (.backend number (.request collection request)) → byHand ⟨number, collection, request⟩)
    (hdoing : Doing allowed s t) (h : AsksForAll byHand s) : AsksForAll byHand t := by
  cases hdoing with
  | beside same => exact h.same same
  | send ask =>
    exact h.sends rfl rfl (fun _ hw => hw) List.prefix_rfl rfl (.hand (hhand _ _ _ ask))
  | trouble f => exact (h.update (f := (·.fail f)) rfl rfl rfl).same (.note _ _)
  | @renew f starts =>
    obtain ⟨size, hpaging⟩ := starts.paging
    refine h.later (t := s.renew f) ⟨?_, ?_⟩ ?_ h.stores (fun _ hw => hw) (List.prefix_append _ _)
      fun _ => .inl
    · exact starts.generation ▸ Nat.le_succ _
    · exact fun hsame => absurd (starts.generation.symm.trans hsame) (Nat.succ_ne_self _)
    · intro _
      change (f s.browser).paging.page = 1 ∧ (f s.browser).paging.next = none
      rw [hpaging]
      exact ⟨rfl, rfl⟩
  | select collection =>
    obtain ⟨history, hbrowser⟩ := selectCollection_browser s collection
    have hcancelled := h.same (cancelRun_bearings s)
    refine hcancelled.later (t := s.selectCollection collection) ⟨?_, ?_⟩ ?_ hcancelled.stores
      (fun _ hw => hw) (List.prefix_append _ _) fun _ => .inl
    · rw [hbrowser]
      exact Nat.le_succ _
    · rw [hbrowser]
      exact fun hsame => absurd hsame (Nat.succ_ne_self _)
    · rw [hbrowser]
      exact fun _ => ⟨rfl, rfl⟩
  | @connect connection ask backend =>
    obtain ⟨cache, unfiltered, hbrowser, -⟩ := useBackend_browser s connection backend
    refine h.later (t := s.useBackend connection backend) ⟨?_, ?_⟩ ?_ h.stores (fun _ hw => hw)
      (List.prefix_append _ _) fun _ => .inl
    · rw [hbrowser]
    · rw [hbrowser]
      exact fun _ => rfl
    · rw [hbrowser]
      exact h.page
  | putOff => exact (h.update (f := ({ · with reloadPending := true })) rfl rfl rfl).same (.note _ _)

theorem AsksForAll.doings (hhand : ∀ number collection request,
    allowed (.backend number (.request collection request)) → byHand ⟨number, collection, request⟩)
    (hdoings : Doings allowed s t) (h : AsksForAll byHand s) : AsksForAll byHand t := by
  induction hdoings with
  | refl => exact h
  | tail _ hlast ih => exact ih.doing hhand hlast

/-- Whatever comes of an action. -/
theorem AsksForAll.comes {r : Session × Outcome Pause Reply}
    (hhand : ∀ number collection request, allowed (.backend number (.request collection request)) →
      byHand ⟨number, collection, request⟩)
    (hcomes : ComesTo allowed s r) (h : AsksForAll byHand s) :
    AsksForAll byHand r.1 ∧ ∀ p, Left r.2 p → p.Befits r.1.browser := by
  cases hcomes with
  | unloaded doings waits =>
    refine ⟨h.doings hhand doings, ?_⟩
    rintro p ⟨pause, hpause, hp⟩
    rw [waits pause hpause] at hp
    cases hp
  | @loaded m page forced doings load waits =>
    obtain ⟨hloaded, hwaits⟩ := (asksForAll_invariant byHand).loadDocuments page forced
      ⟨h.doings hhand doings, trivial⟩
    rw [load]
    refine ⟨hloaded, ?_⟩
    rintro p ⟨pause, hpause, hp⟩
    rwa [waits pause p hpause hp] at hwaits

/-! ## One thing after another -/

theorem AsksForAll.left {m : Session} {left : LoadPause → Prop} (h : AsksForAll byHand m)
    (hleft : ∀ p, left p → p.Befits m.browser) (hleaves : Leaves m left t) :
    AsksForAll byHand t where
  page := hleaves.browser ▸ h.page
  stores := hleaves.backends ▸ h.stores
  sent := by
    rw [hleaves.sent, hleaves.journal]
    exact h.sent
  waits := by
    intro p hp
    rw [hleaves.browser]
    exact (hleaves.pauses p hp).elim (h.waits p) (hleft p)

/-- Every operation keeps it so. -/
theorem AsksForAll.operate (hsingle : s.Single) {operation : Operation}
    (hhand : ∀ number collection request,
      operation.command? = some (.backend number (.request collection request)) →
        byHand ⟨number, collection, request⟩)
    (h : AsksForAll byHand s) : AsksForAll byHand (s.operate operation) := by
  cases operate_does hsingle operation with
  | acts comes leaves =>
    obtain ⟨hcome, hleft⟩ := h.comes hhand comes
    exact hcome.left hleft leaves
  | @resumes w rest p job ready load leaves =>
    have hp : p.Befits s.browser :=
      h.waits p (List.mem_filterMap.mpr ⟨w, mem_actions_resume ready, load⟩)
    obtain ⟨hloaded, hwaits⟩ := (asksForAll_invariant byHand).resumeLoad
      ⟨h.same (taken_bearings ready), hp.leg⟩
    exact hloaded.left (fun q hq => by rwa [hq] at hwaits) leaves

/-! ## The law -/

theorem asksForAll_start (settings : Settings) (connection collection : Option String)
    (executor : Option Nat) (archive : Option Archive) {backends : List Backend}
    (provider : Option Provider) (hstores : ∀ b ∈ backends, b.IsStore) :
    AsksForAll byHand
      (start (.start settings connection collection executor archive) backends provider) where
  page := fun _ => ⟨rfl, rfl⟩
  stores := hstores
  sent := fun _ hsent => absurd hsent List.not_mem_nil
  waits := fun _ hp => absurd hp List.not_mem_nil

theorem AsksForAll.after {o : Session} (hsingle : ∀ operations, (o.after operations).Single)
    (ho : AsksForAll byHand o) (operations : List Operation)
    (hhand : ∀ operation ∈ operations, ∀ number collection request,
      operation.command? = some (.backend number (.request collection request)) →
        byHand ⟨number, collection, request⟩) : AsksForAll byHand (o.after operations) := by
  induction operations using List.reverseRecOn with
  | nil => exact ho
  | append_singleton before operation ih =>
    rw [after_snoc]
    refine (ih fun other hother => hhand other (List.mem_append_left _ hother)).operate
      (hsingle before) (hhand operation (List.mem_append_right _ (List.mem_singleton_self _)))

/-- In every run in which stores of documents stand behind the backends: whatever request has been sent,
it was sent by hand, or it counts documents, or it asks for the page of a plan. That asks for aggregates
just if the query aggregates for which the plan was made, and then for those of the query, over exactly
what its filter lets pass, with neither a ranking nor attributes. And as long as the query aggregates,
the walk stands on the first page. -/
theorem aggregates_cover_all_that_is_filtered (settings : Settings)
    (connection collection : Option String) (executor : Option Nat) (archive : Option Archive)
    (backends : List Backend) (provider : Option Provider) (operations : List Operation)
    (hstores : ∀ b ∈ backends, b.IsStore) :
    let o := start (.start settings connection collection executor archive) backends provider
    let s := o.after operations
    (∀ sent ∈ s.sent,
      (∃ number, .ask number (.backend sent.backend (.request sent.collection sent.request)) ∈
        operations) ∨
      (∃ c, sent.request = (Query.compileCount c).toFields) ∨
      ∃ load plan, .asked sent load plan ∈ s.journal ∧ sent.request = plan.request.toFields ∧
        (∃ pageSize, plan.Compiled pageSize) ∧
        ("aggregate_by" ∈ Named.names sent.request ↔ plan.config.aggregates = true) ∧
        ("aggregate_by" ∈ Named.names sent.request →
          Query.CoversAll plan.config sent.request)) ∧
    (s.browser.config.aggregates = true → s.browser.paging.page = 1) := by
  intro o s
  have hasks : AsksForAll (fun sent => ∃ number,
      .ask number (.backend sent.backend (.request sent.collection sent.request)) ∈ operations) s := by
    refine AsksForAll.after (single_after _ backends provider)
      (asksForAll_start settings connection collection executor archive provider hstores) operations ?_
    intro operation hmem number collection request hcommand
    cases operation with
    | ask asker command =>
      cases hcommand
      exact ⟨asker, hmem⟩
    | _ => cases hcommand
  refine ⟨fun sent hsent => ?_, fun haggregates => (hasks.page haggregates).1⟩
  cases hasks.sent sent hsent with
  | hand h => exact .inl h
  | count request => exact .inr (.inl ⟨_, request⟩)
  | page asked request compiled asks covers =>
    exact .inr (.inr ⟨_, _, asked, request, compiled, asks, fun h => covers (asks.mp h)⟩)

/-- Documents are counted, and then another page is asked for. -/
def countingDocuments : List Operation := [
  .ask 1 (.dispatch (.object [("kind", .text "set_aggregations"),
    ("aggregations", .list [.object [("name", .text "all")]])])),
  .ask 2 (.load (.int 2) false)]

/-- A collection of two documents. -/
def twoDocuments : Backend :=
  .ofSource (.store ⟨[("docs", [⟨.int 1, [("id", .int 1)]⟩, ⟨.int 2, [("id", .int 2)]⟩])], []⟩ false)

/-- The browser after that. -/
def countedDocuments : Session :=
  (start (.start .default (some "main") (some "docs") (some 0) none) [twoDocuments] none).after
    countingDocuments

theorem countedDocuments_facts :
    countedDocuments.browser.config.aggregates = true ∧
      countedDocuments.sent.map (fun sent => Named.names sent.request) =
        [["aggregate_by"], ["top_k", "aggregate_by"], ["top_k", "aggregate_by"]] := by
  decide +kernel

/-- Its aggregates are asked for over all documents, and it stands on the first page. -/
theorem all_documents_are_counted :
    (∀ b ∈ [twoDocuments], b.IsStore) ∧ countedDocuments.browser.paging.page = 1 ∧
      ∃ sent ∈ countedDocuments.sent, "aggregate_by" ∈ Named.names sent.request ∧
        ∃ load plan, .asked sent load plan ∈ countedDocuments.journal ∧
          Query.CoversAll plan.config sent.request := by
  have hstores : ∀ b ∈ [twoDocuments], b.IsStore := by
    intro b hb
    rw [List.mem_singleton.mp hb]
    exact ⟨_, _, rfl⟩
  obtain ⟨haggregates, hnames⟩ := countedDocuments_facts
  obtain ⟨hcovers, hpage⟩ := aggregates_cover_all_that_is_filtered .default (some "main")
    (some "docs") (some 0) none [twoDocuments] none countingDocuments hstores
  obtain ⟨sent, hsent, hfields⟩ : ∃ sent ∈ countedDocuments.sent,
      Named.names sent.request = ["top_k", "aggregate_by"] := by
    refine List.mem_map.mp ?_
    rw [hnames]
    simp
  have hasks : "aggregate_by" ∈ Named.names sent.request := by simp [hfields]
  refine ⟨hstores, hpage haggregates, sent, hsent, hasks, ?_⟩
  rcases hcovers sent hsent with ⟨number, hhand⟩ | ⟨c, hcount⟩ | ⟨load, plan, hasked, -, -, -, hall⟩
  · simp [countingDocuments] at hhand
  · have htop : "top_k" ∈ Named.names (Query.compileCount c).toFields := by simp [← hcount, hfields]
    simp [Request.mem_names_iff, Request.fields, Query.compileCount, Request.empty, Value.ofOption,
      Value.isNull] at htop
  · exact ⟨load, plan, hasked, hall hasks⟩

end Session

end Folio
