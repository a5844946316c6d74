-- What one load does when nothing else is under way and the collection in memory answers at once:
-- the page is shown, either as it was kept or as it is fetched. Apart from that the session only
-- learns about attributes, and takes note of what was asked.
import Folio.Proofs.LearnedSessions
import Folio.Proofs.Strides
import Folio.Session.Run

namespace Folio

namespace Session

variable {s t : Session} {collection : String} {docs matching : List Fields}

/-! ## A load that begins -/

/-- The session once the attributes are known and the filters are made for them, as a load finds
it when it decides on the page. -/
def informed (s : Session) : Session := (s.ensureAttributes.1).update (·.retype)

/-- A load that begins: so it is shown, and noted. -/
def beginning (s : Session) (event : LoadEvent) : Session := (s.update (·.begin)).note event

theorem takeSchema_beginning (s : Session) (event : LoadEvent) (query : SchemaQuery) :
    (s.beginning event).takeSchema query =
      ((s.takeSchema query).1.beginning event, (s.takeSchema query).2) := by
  have hshown : (s.beginning event).schemaShown? query = s.schemaShown? query := rfl
  unfold takeSchema
  rw [hshown]
  cases s.schemaShown? query with
  | none => rfl
  | some schema =>
    dsimp only
    cases Discovery.ofSchema schema <;> rfl

theorem loadSchema_beginning (s : Session) (event : LoadEvent) (forced : Bool) :
    (s.beginning event).loadSchema forced =
      ((s.loadSchema forced).1.beginning event, (s.loadSchema forced).2) := by
  have hcurrent : (s.beginning event).browser.current? = s.browser.current? := rfl
  have hexec : (s.beginning event).browser.executor = s.browser.executor := rfl
  unfold loadSchema
  rw [hcurrent, hexec]
  cases s.browser.current? with
  | none => rfl
  | some collection =>
    cases s.browser.executor with
    | none => rfl
    | some executor =>
      have hknown : ∀ key, (s.beginning event).browser.knownAttributes? key
          (s.beginning event).clock = s.browser.knownAttributes? key s.clock := fun _ => rfl
      have hkey : (s.beginning event).browser.attributeKey collection =
        s.browser.attributeKey collection := rfl
      have hbackend : (s.beginning event).backend? executor = s.backend? executor := rfl
      dsimp only
      rw [hknown, hkey, hbackend]
      split
      · rfl
      · rename_i b _ _
        cases b.showsSchemas with
        | false => rfl
        | true =>
          cases b.schemaHeld with
          | true => rfl
          | false =>
            simp only [Bool.not_true, Bool.false_eq_true, if_false, takeSchema_beginning]
            cases (s.takeSchema ⟨executor, collection, s.browser.attributeKey collection⟩).2 <;> rfl
      · rfl

/-- What a load gets to know does not depend on its having begun. -/
theorem ensureAttributes_beginning (s : Session) (event : LoadEvent) :
    (s.beginning event).ensureAttributes =
      ((s.ensureAttributes).1.beginning event, (s.ensureAttributes).2) := by
  have hsize : (s.beginning event).browser.registry.size = s.browser.registry.size := rfl
  unfold ensureAttributes
  rw [hsize, loadSchema_beginning]
  cases s.browser.registry.size == 0 <;> rfl

/-! ## Showing a page -/

/-- The session with a page shown. -/
def showing (s : Session) (c : QueryConfig) (paging : Paging) (rows : List Fields)
    (total : Option Int) (cache : PageCache) : Session :=
  s.update fun b => { b.present c (.ofRows rows total) with paging := paging, cache := cache }

/-! ## A load from its beginning to its end -/

/-- Nothing else is under way. -/
structure Quiet (s : Session) : Prop where
  ready : s.ready = []
  waiting : s.waiting = []
  idle : s.browser.isLoading = false
  settled : s.browser.reloadPending = false

/-- What a load finds when it decides on the page: the query, and the ranking it asks for. -/
structure Finds (s : Session) (c : QueryConfig) (ranking : Value) : Prop where
  query : s.informed.browser.config = c
  ranking : Query.compileRank c s.informed.browser.registry = .ok ranking

/-- The session with a query. -/
def querying (s : Session) (c : QueryConfig) : Session := s.update ({ · with config := c })

theorem informed_learned (hl : LooksAt s collection docs) :
    Learned (s.querying s.informed.browser.config) s.informed := by
  obtain ⟨t, ht, r, k, sent, yielded, answered, journal, rfl⟩ := ensureAttributes_learned hl
  unfold informed
  rw [ht]
  exact ⟨r, k, sent, yielded, answered, journal, rfl⟩

/-- The page that a load decides on, if it is one that can be entered. -/
structure Enters (s : Session) (page : Int) (move : PageMove) : Prop where
  plan : s.browser.paging.plan page = move
  entry : move.page ≤ 1 ∨ move.cursor.isSome

/-- The fingerprint of a page for a query of the session. -/
def fingerprint (s : Session) (collection : String) (c : QueryConfig) (page : Int) : String :=
  Cache.fingerprint s.browser.connection collection c page s.browser.paging.pageSize

section

variable {c : QueryConfig} {ranking : Value} {page : Int} {move : PageMove} {forced : Bool}

/-- How a load decides on its page, when nothing is in its way: it finds the session as it is left once
the attributes are known and the filters are made for them. -/
def DecidesOn (s : Session) (load : Load) (t : Session) : Leg → Prop
  | .wanted page forced => t = s ∧ page = load.page ∧ forced = load.forced
  | .begun begun => begun = load ∧ t = s.beginning (.begun load)
  | .ready begun => begun = load ∧ t = s.ensureAttributes.1.beginning (.begun load)
  | .due begun => begun = load ∧ t = s.informed.beginning (.begun load)
  | _ => False

/-- The session in which a load shows its page, which attributes are then looked for in. -/
def HasShown (s : Session) (load : Load) (c : QueryConfig) (paging : Paging) (rows : List Fields)
    (total : Option Int) (cache : PageCache) (t : Session) : Prop :=
  ∃ u, Noted (s.informed.beginning (.begun load)) u ∧
    t = (u.showing c paging rows total cache).spawn (.discover load.collection rows)

variable {u : Session} {leg next : Leg} {load : Load}

theorem DecidesOn.stride (hq : Quiet s) (hl : LooksAt s collection docs)
    (hload : load = ⟨collection, s.browser.generation, .int page, forced⟩)
    (hstride : Stride (t, leg) (u, next)) (h : DecidesOn s load t leg)
    (hleg : ∀ load, leg ≠ .due load) : DecidesOn s load u next := by
  obtain ⟨number, b, hexecutor, hb, ha⟩ := hl.answering
  obtain ⟨known, hknown, r, k, sent, yielded, answered, journal, hlearned⟩ :=
    ensureAttributes_learned hl
  have hensured := ensureAttributes_beginning s (.begun load)
  rw [hknown] at hensured
  have hgeneration : known.browser.generation = load.generation := by
    rw [hlearned, hload]
  cases hstride with
  | idle idle =>
    obtain ⟨rfl, -⟩ := h
    rcases idle with hnowhere | hloading
    · rw [hl.current] at hnowhere
      cases hnowhere
    · rw [hq.idle] at hloading
      cases hloading
  | refuse _ executor =>
    obtain ⟨rfl, -⟩ := h
    rw [hexecutor] at executor
    cases executor
  | begin current =>
    obtain ⟨rfl, rfl, rfl⟩ := h
    obtain rfl := Option.some.inj (current.symm.trans hl.current)
    subst hload
    exact ⟨rfl, rfl⟩
  | learn learnt =>
    obtain ⟨rfl, rfl⟩ := h
    rw [hensured] at learnt
    refine ⟨rfl, ?_⟩
    rw [hknown]
    exact (congrArg Prod.fst learnt).symm
  | retype current =>
    obtain ⟨rfl, rfl⟩ := h
    exact ⟨rfl, rfl⟩
  | decide | showAgain => exact absurd rfl (hleg _)
  | rest late =>
    cases late with
    | ready late =>
      obtain ⟨rfl, rfl⟩ := h
      rw [hknown] at late
      exact absurd hgeneration late
    | answered => exact h.elim
  | fail fails =>
    cases fails with
    | query => exact absurd rfl (hleg _)
    | _ => exact h.elim
  | broken breaks =>
    cases breaks with
    | schema executor taken =>
      obtain ⟨rfl, rfl⟩ := h
      have hsame := Option.some.inj (executor.symm.trans hexecutor)
      obtain ⟨v, hv, -⟩ := takeSchema_learned (s := s.beginning (.begun _)) _ fun c hc => by
        rw [hsame] at hc
        obtain rfl := Option.some.inj (hb.symm.trans hc)
        exact ha.inMemory
      rw [hv] at taken
      cases taken
    | target | showAgain => exact absurd rfl (hleg _)
    | _ => exact h.elim
  | wait waits =>
    cases waits with
    | schema held =>
      obtain ⟨rfl, rfl⟩ := h
      rw [hensured] at held
      cases congrArg Prod.snd held
    | _ => exact h.elim
  | _ => exact h.elim

/-- What a load finds when it decides on its page. -/
structure Decides (s : Session) (c : QueryConfig) (move : PageMove) (load : Load) (t : Session) :
    Prop where
  config : t.browser.config = c
  paging : t.browser.paging = s.browser.paging
  connection : t.browser.connection = s.browser.connection
  cache : t.browser.cache = s.browser.cache
  executor : t.browser.executor = s.browser.executor
  generation : t.browser.generation = load.generation
  total : t.browser.knownTotal? c load.forced = s.browser.knownTotal? c load.forced
  clock : t.clock = s.clock
  backends : t.backends = s.backends
  target : ∀ step, Targets t.browser load step → step = move
  request : ∃ request, Query.compilePage c ⟨move.page, s.browser.paging.pageSize, move.cursor⟩
    t.browser.registry = .ok request

theorem Decides.noted (h : Decides s c move load t) (htu : Noted t u) : Decides s c move load u := by
  obtain ⟨_, _, _, _, rfl⟩ := htu
  exact ⟨h.config, h.paging, h.connection, h.cache, h.executor, h.generation, h.total, h.clock,
    h.backends, h.target, h.request⟩

/-- How a load comes to its end that shows its page. -/
def ShowsOn (shown : Session → Prop) (load : Load) (t : Session) : Leg → Prop
  | .stops ending outcome => ending = load ∧ outcome = .done true ∧ shown t
  | .over outcome => outcome = .done true ∧ ∃ u, t = u.note (.ended load) ∧ shown u
  | _ => False

theorem ShowsOn.stride {shown : Session → Prop} (hstride : Stride (t, leg) (u, next))
    (h : ShowsOn shown load t leg) : ShowsOn shown load u next := by
  cases hstride with
  | close =>
    obtain ⟨rfl, rfl, hshown⟩ := h
    exact ⟨rfl, t, rfl, hshown⟩
  | rest late => cases late <;> exact h.elim
  | fail fails => cases fails <;> exact h.elim
  | broken breaks => cases breaks <;> exact h.elim
  | wait waits => cases waits <;> exact h.elim
  | _ => exact h.elim

/-- What a load fetches for a plan, while the session only takes note of it. -/
structure FetchesFor (s : Session) (load : Load) (docs : List Fields) (c : QueryConfig)
    (move : PageMove) (rows : List Fields) (t : Session) (plan : PagePlan) : Prop where
  noted : Noted (s.informed.beginning (.begun load)) t
  config : plan.config = c
  step : plan.move = move
  fingerprint : plan.fingerprint = s.fingerprint load.collection c move.page
  answer : Collection.answer docs plan.request.toFields = .ok (Collection.rowsAnswer rows)

theorem FetchesFor.noting {rows : List Fields} {plan : PagePlan}
    (h : FetchesFor s load docs c move rows t plan) (htu : Noted t u) :
    FetchesFor s load docs c move rows u plan :=
  ⟨h.noted.trans htu, h.config, h.step, h.fingerprint, h.answer⟩

/-- How a load fetches its page that it does not find kept. The number of documents is the one that is
known, or that of those which match. -/
def FetchesOn (s : Session) (load : Load) (docs : List Fields) (c : QueryConfig) (move : PageMove)
    (rows : List Fields) (number matching : Nat) (t : Session) : Leg → Prop
  | .planned due plan => due = load ∧ FetchesFor s load docs c move rows t plan
  | .counting sent due plan => due = load ∧ FetchesFor s load docs c move rows t plan ∧
      s.browser.knownTotal? c load.forced = none ∧
      sent = ⟨number, load.collection, (Query.compileCount c).toFields⟩
  | .counted due plan answer => due = load ∧ FetchesFor s load docs c move rows t plan ∧
      s.browser.knownTotal? c load.forced = none ∧ answer = .ok (Collection.countAnswer matching)
  | .told due plan total => due = load ∧ FetchesFor s load docs c move rows t plan ∧
      total = (s.browser.knownTotal? c load.forced).getD matching
  | .asking sent due plan total => due = load ∧ FetchesFor s load docs c move rows t plan ∧
      total = (s.browser.knownTotal? c load.forced).getD matching ∧
      sent = ⟨number, load.collection, plan.request.toFields⟩
  | .answered _ due plan total answer => due = load ∧ FetchesFor s load docs c move rows t plan ∧
      total = (s.browser.knownTotal? c load.forced).getD matching ∧
      answer = .ok (Collection.rowsAnswer rows)
  | .turned _ due plan total found response => due = load ∧
      (∃ v, FetchesFor s load docs c move rows v plan ∧
        t = v.update ({ · with paging := s.browser.paging.advance move rows })) ∧
      total = (s.browser.knownTotal? c load.forced).getD matching ∧
      found = rows.map .object ∧ response = Collection.rowsAnswer rows
  | _ => False

section

variable (hl : LooksAt s collection docs) (hf : Finds s c ranking) (he : Enters s page move)
  (haggregates : c.aggregates = false)
  (hload : load = ⟨collection, s.browser.generation, .int page, forced⟩)

include hl hf he haggregates hload

theorem decides : Decides s c move load (s.informed.beginning (.begun load)) := by
  have hranking : Query.compileRank c (s.informed.beginning (.begun load)).browser.registry =
    .ok ranking := hf.ranking
  have hquery : (s.informed.beginning (.begun load)).browser.config = c := hf.query
  obtain ⟨r, k, sent, yielded, answered, journal, hsame⟩ := informed_learned hl
  have hpaging : (s.informed.beginning (.begun load)).browser.paging = s.browser.paging := by
    rw [hsame]
    rfl
  refine ⟨hquery, hpaging, ?_, ?_, ?_, ?_, ?_, ?_, ?_, ?_, ?_⟩
  · rw [hsame]
    rfl
  · rw [hsame]
    rfl
  · rw [hsame]
    rfl
  · rw [hsame, hload]
    rfl
  · rw [hsame]
    rfl
  · rw [hsame]
    rfl
  · rw [hsame]
    rfl
  · rintro step ⟨target, htarget, rfl⟩
    subst hload
    cases htarget
    rw [hpaging]
    exact he.plan
  · unfold Query.compilePage
    simp only [haggregates, hranking, Bool.false_eq_true, if_false, bind, Except.bind]
    exact ⟨_, rfl⟩

/-! ### A page that was kept -/

/-- A load that finds its page kept shows it so. -/
theorem DecidesOn.recalls {kept : CachedPage} (hforced : forced = false)
    (hkept : s.browser.cache.get? (s.fingerprint collection c move.page) s.clock = some kept)
    (hid : ∀ d ∈ kept.rows, d.get "id" = (Collection.rowKey d).toValue) {begun : Load}
    (hstride : Stride (t, .due begun) (u, next)) (h : DecidesOn s load t (.due begun)) :
    ShowsOn (HasShown s load c (s.browser.paging.advance move kept.rows) kept.rows kept.total
      s.browser.cache) load u next := by
  obtain ⟨rfl, rfl⟩ := h
  obtain ⟨hconfig, hpaging, hconnection, hcache, -, -, -, hclock, -, htarget, request, hrequest⟩ :=
    decides hl hf he haggregates hload
  generalize hbase : s.informed.beginning (.begun begun) = t at *
  have hfound : t.kept? begun (s.fingerprint collection c move.page) = some kept := by
    unfold kept?
    rw [hconfig, haggregates, hload, hforced, hcache, hclock]
    exact hkept
  have hcommit : t.browser.paging.commit move (kept.rows.map .object) =
      .ok (s.browser.paging.advance move kept.rows) := by
    rw [hpaging]
    exact Paging.commit_eq hid he.entry
  have hprint : Cache.fingerprint t.browser.connection begun.collection t.browser.config move.page
      t.browser.paging.pageSize = s.fingerprint collection c move.page := by
    rw [hconnection, hconfig, hpaging, hload]
    rfl
  cases hstride with
  | decide planned target unkept =>
    rw [planned.fingerprint, htarget _ target, hprint, hfound] at unkept
    cases unkept
  | showAgain recalled target found commit =>
    obtain rfl := (htarget _ target).symm
    rw [recalled.fingerprint, hprint, hfound] at found
    obtain rfl := Option.some.inj found
    rw [hcommit] at commit
    cases commit
    rw [showKept_committed hcommit, hconfig]
    refine ⟨rfl, rfl, (t.note (.recalled begun c move kept)).note
      (.shown ⟨begun, c, .ofRows kept.rows kept.total⟩), ?_, ?_⟩
    · rw [hbase]
      exact ⟨_, _, _, _, rfl⟩
    · rw [← hcache]
      rfl
  | rest late => cases late
  | fail fails =>
    cases fails with
    | query target unasked =>
      rw [htarget _ target, hconfig, hpaging, hrequest] at unasked
      cases unasked
  | broken breaks =>
    cases breaks with
    | target target =>
      rw [hload] at target
      cases target
    | showAgain recalled target found commit =>
      obtain rfl := (htarget _ target).symm
      rw [recalled.fingerprint, hprint, hfound] at found
      obtain rfl := Option.some.inj found
      rw [hcommit] at commit
      cases commit
  | wait waits => cases waits

/-! ### A page that is fetched -/

/-- A load that does not find its page kept goes to fetch it. -/
theorem DecidesOn.fetches {all : List Fields} {number matching : Nat} (hkept : forced = true ∨
      s.browser.cache.get? (s.fingerprint collection c move.page) s.clock = none)
    (hall : Collection.ranked docs (Query.compileFilters c) ranking
      (if move.page > 1 then move.cursor else none) = .ok all) {begun : Load}
    (hstride : Stride (t, .due begun) (u, next)) (h : DecidesOn s load t (.due begun)) :
    FetchesOn s load docs c move (all.take s.browser.paging.pageSize.toNat) number matching u next := by
  obtain ⟨rfl, rfl⟩ := h
  obtain ⟨hconfig, hpaging, hconnection, hcache, -, -, -, hclock, -, htarget, request, hrequest⟩ :=
    decides hl hf he haggregates hload
  have hranking : Query.compileRank c (s.informed.beginning (.begun begun)).browser.registry =
    .ok ranking := hf.ranking
  generalize hbase : s.informed.beginning (.begun begun) = t at *
  have hmiss : t.kept? begun (s.fingerprint collection c move.page) = none := by
    unfold kept?
    rw [hconfig, haggregates, hload, hcache, hclock]
    rcases hkept with rfl | hnone
    · rfl
    · rw [hnone, ite_self]
  have hprint : Cache.fingerprint t.browser.connection begun.collection t.browser.config move.page
      t.browser.paging.pageSize = s.fingerprint collection c move.page := by
    rw [hconnection, hconfig, hpaging, hload]
    rfl
  cases hstride with
  | decide planned target =>
    have hstep := htarget _ target
    have hasked := planned.request
    rw [hstep, hconfig, hpaging] at hasked
    refine ⟨rfl, ?_, planned.config.trans hconfig, hstep, ?_,
      Collection.answer_page haggregates hranking hasked hall⟩
    · rw [hbase]
      exact ⟨_, _, _, _, rfl⟩
    · rw [planned.fingerprint, hstep, hprint]
      subst hload
      rfl
  | showAgain recalled target found =>
    rw [recalled.fingerprint, htarget _ target, hprint, hmiss] at found
    cases found
  | rest late => cases late
  | fail fails =>
    cases fails with
    | query target unasked =>
      rw [htarget _ target, hconfig, hpaging, hrequest] at unasked
      cases unasked
  | broken breaks =>
    cases breaks with
    | target target =>
      rw [hload] at target
      cases target
    | showAgain recalled target found =>
      rw [recalled.fingerprint, htarget _ target, hprint, hmiss] at found
      cases found
  | wait waits => cases waits

/-- The load fetches its page, and shows it in the end. -/
theorem FetchesOn.stride {rows : List Fields} {number : Nat} {b : Backend}
    (hexecutor : s.browser.executor = some number) (hb : s.backend? number = some b)
    (ha : Answering b collection docs)
    (hkeys : ∀ d ∈ docs, d.get "id" = (Collection.rowKey d).toValue)
    (hmatching : Collection.select (Query.compileFilters c) docs = .ok matching)
    (hid : ∀ d ∈ rows, d.get "id" = (Collection.rowKey d).toValue)
    (hstride : Stride (t, leg) (u, next))
    (h : FetchesOn s load docs c move rows number matching.length t leg) :
    FetchesOn s load docs c move rows number matching.length u next ∨
      ShowsOn (HasShown s load c (s.browser.paging.advance move rows) rows
        (some ((s.browser.knownTotal? c load.forced).getD matching.length))
        (s.browser.cache.put ⟨s.fingerprint collection c move.page, rows,
          some ((s.browser.knownTotal? c load.forced).getD matching.length), s.clock⟩)) load u next := by
  have hcollection : load.collection = collection := by
    rw [hload]
  have hdecides := decides hl hf he haggregates hload
  have hthere : ∀ {v : Session} {plan : PagePlan}, FetchesFor s load docs c move rows v plan →
      v.backend? number = some b := by
    intro v plan hv
    unfold backend?
    rw [(hdecides.noted hv.noted).backends]
    exact hb
  have hunheld : ∀ {v : Session} {plan : PagePlan}, FetchesFor s load docs c move rows v plan →
      v.isHeld number = false := by
    intro v plan hv
    simp [isHeld, hthere hv, ha.unheld]
  cases hstride with
  | know known =>
    obtain ⟨rfl, hv⟩ := h
    rw [hv.config, (hdecides.noted hv.noted).total] at known
    exact .inl ⟨rfl, hv, by rw [known, Option.getD_some]⟩
  | count unknown request =>
    obtain ⟨rfl, hv⟩ := h
    rw [hv.config, (hdecides.noted hv.noted).total] at unknown
    cases request
    refine .inl ⟨rfl, hv.noting ⟨_, _, _, _, rfl⟩, unknown, ?_⟩
    rw [(hdecides.noted hv.noted).executor, hexecutor, hv.config]
    rfl
  | hear respond =>
    obtain ⟨rfl, hv, hunknown, rfl⟩ := h
    obtain ⟨yielded, hrespond⟩ := respond_eq (hthere hv) ha (Query.compileCount c).toFields
    have hpresent : ∀ d ∈ docs, (d.get "id").isNull = false := fun d hd => by
      rw [hkeys d hd, RowKey.toValue_isNull]
    rw [Collection.answer_count hmatching hpresent] at hrespond
    rw [hcollection, hrespond] at respond
    cases respond
    exact .inl ⟨rfl, hv.noting ⟨_, _, _, _, rfl⟩, hunknown, rfl⟩
  | tell read =>
    obtain ⟨rfl, hv, hunknown, hanswer⟩ := h
    cases hanswer
    rw [Collection.countIn_countAnswer] at read
    cases read
    exact .inl ⟨rfl, hv, by rw [hunknown, Option.getD_none]⟩
  | ask request =>
    obtain ⟨rfl, hv, htotal⟩ := h
    cases request
    refine .inl ⟨rfl, hv.noting ⟨_, _, _, _, rfl⟩, htotal, ?_⟩
    rw [(hdecides.noted hv.noted).executor, hexecutor]
    rfl
  | receive respond =>
    obtain ⟨rfl, hv, htotal, rfl⟩ := h
    obtain ⟨yielded, hrespond⟩ := respond_eq (hthere hv) ha _
    rw [hv.answer] at hrespond
    rw [hcollection, hrespond] at respond
    cases respond
    exact .inl ⟨rfl, hv.noting ⟨_, _, _, _, rfl⟩, htotal, rfl⟩
  | turn current read commit =>
    obtain ⟨rfl, hv, htotal, hanswer⟩ := h
    cases hanswer
    rw [Collection.rowsIn_rowsAnswer] at read
    cases read
    rw [hv.step, Paging.commit_eq hid he.entry, (hdecides.noted hv.noted).paging] at commit
    cases commit
    exact .inl ⟨rfl, ⟨t.note _, hv.noting ⟨_, _, _, _, rfl⟩, rfl⟩, htotal, rfl, rfl⟩
  | @display _ _ ending plan total _ _ view current read =>
    obtain ⟨rfl, ⟨v, hv, rfl⟩, htotal, rfl, rfl⟩ := h
    have hfinds := hdecides.noted hv.noted
    rw [hv.config, haggregates, Collection.read_rowsAnswer] at read
    cases read
    refine .inr ⟨rfl, rfl, v.note (.shown ⟨ending, c, .ofRows rows (some total)⟩),
      hv.noted.trans ⟨_, _, _, _, rfl⟩, ?_⟩
    unfold showFetched
    rw [← htotal, hv.config, haggregates, hv.fingerprint, hcollection, ← hfinds.cache, ← hfinds.clock]
    rfl
  | rest late =>
    cases late with
    | ready => exact h.elim
    | answered late =>
      obtain ⟨rfl, hv, -⟩ := h
      exact absurd (hdecides.noted hv.noted).generation late
  | fail fails =>
    cases fails with
    | query => exact h.elim
    | count =>
      obtain ⟨-, -, -, hanswer⟩ := h
      cases hanswer
    | number unread =>
      obtain ⟨-, -, -, hanswer⟩ := h
      cases hanswer
      rw [Collection.countIn_countAnswer] at unread
      cases unread
    | page =>
      obtain ⟨-, -, -, hanswer⟩ := h
      cases hanswer
  | broken breaks =>
    cases breaks with
    | rows unread =>
      obtain ⟨-, -, -, hanswer⟩ := h
      cases hanswer
      rw [Collection.rowsIn_rowsAnswer] at unread
      cases unread
    | commit read commit =>
      obtain ⟨-, hv, -, hanswer⟩ := h
      cases hanswer
      rw [Collection.rowsIn_rowsAnswer] at read
      cases read
      rw [hv.step, Paging.commit_eq hid he.entry] at commit
      cases commit
    | view unread =>
      obtain ⟨-, ⟨v, hv, -⟩, -, rfl, rfl⟩ := h
      rw [hv.config, haggregates, Collection.read_rowsAnswer] at unread
      cases unread
    | _ => exact h.elim
  | wait waits =>
    cases waits with
    | schema => exact h.elim
    | count held =>
      obtain ⟨-, hv, -, rfl⟩ := h
      rw [hunheld hv] at held
      cases held
    | page held =>
      obtain ⟨-, hv, -, rfl⟩ := h
      rw [hunheld hv] at held
      cases held
  | _ => exact h.elim

end

/-- When nothing is ready and nothing waits, nothing is done. -/
theorem doJobs_nothing (n : Nat) (hready : s.ready = []) (hwaiting : s.waiting = []) :
    doJobs n s = s := by
  have hopen : s.openBackground = s := by
    unfold openBackground openGate
    cases s
    subst hready hwaiting
    simp
  cases n with
  | zero => rfl
  | succ n =>
    unfold doJobs
    simp only [hready, hopen]

theorem doJobs_cons {job : Job} {rest : List Job} (n : Nat) (hready : s.ready = job :: rest) :
    doJobs (n + 1) s = doJobs n (({ s with ready := rest } : Session).doJob job) := by
  simp only [doJobs, hready]

/-- More than one job can always be done. -/
theorem eight_le_jobLimit (s : Session) : 8 ≤ s.jobLimit := by
  unfold jobLimit
  have hone : 1 ≤ s.demand + 1 := Nat.le_add_left 1 s.demand
  exact Nat.mul_le_mul (Nat.mul_le_mul_left 8 hone) hone

theorem discover_learned (s : Session) (collection : String) (rows : List Fields) :
    Learned s (s.discover collection rows) := by
  obtain ⟨registry, known, hdiscovered⟩ := discover_apprised s collection rows
  rw [hdiscovered]
  exact ⟨_, _, _, _, _, _, rfl⟩

theorem Noted.discover (h : Noted s t) (collection : String) (rows : List Fields) :
    Noted (s.discover collection rows) (t.discover collection rows) := by
  obtain ⟨sent, yielded, answered, journal, rfl⟩ := h
  unfold Session.discover
  dsimp only
  split
  · exact ⟨_, _, _, _, rfl⟩
  · split <;> exact ⟨_, _, _, _, rfl⟩

/-- Attributes are looked for in the rows shown, and then nothing is left to be done. -/
theorem settle_discover (s : Session) (collection : String) (rows : List Fields)
    (hready : s.ready = [.discover collection rows]) (hwaiting : s.waiting = []) :
    s.settle = ({ s with ready := [] } : Session).discover collection rows := by
  obtain ⟨n, hn⟩ := Nat.exists_eq_add_of_le' (eight_le_jobLimit s)
  have hdone : (({ s with ready := [] } : Session).discover collection rows).ready = [] ∧
      (({ s with ready := [] } : Session).discover collection rows).waiting = [] := by
    obtain ⟨_, _, _, _, _, _, hsame⟩ :=
      discover_learned ({ s with ready := [] } : Session) collection rows
    rw [hsame]
    exact ⟨rfl, hwaiting⟩
  unfold settle
  rw [hn, doJobs_cons (n + 7) hready, doJob, doJobs_nothing _ hdone.1 hdone.2]

/-- A client who has asked for a page that is shown. Attributes have been looked for in its rows. -/
theorem ask_of_load (client : Nat) {load : Load} {paging : Paging} {rows : List Fields}
    {total : Option Int} {cache : PageCache} (hq : Quiet s) (hl : LooksAt s collection docs)
    (hload : load = ⟨collection, s.browser.generation, .int page, forced⟩)
    (hover : ShowsOn (HasShown s load c paging rows total cache) load
      (s.beginLoad (.int page) forced).1 (.over (s.beginLoad (.int page) forced).2)) :
    Noted ((s.informed.showing c paging rows total cache).discover collection rows)
      (s.ask client (.load (.int page) forced)) := by
  obtain ⟨hdone, t, ht, u, hnoted, rfl⟩ := hover
  have hcollection : load.collection = collection := by
    rw [hload]
  obtain ⟨_, _, _, _, _, _, hsame⟩ := informed_learned hl
  obtain ⟨sent, yielded, answered, journal, rfl⟩ := hnoted
  have hbegun : s.beginLoad (.int page) forced = (_, .done true) := Prod.ext ht hdone
  -- Nothing was put off, so the load is not followed by another one.
  have hloaded : s.loadDocuments (.int page) forced = s.beginLoad (.int page) forced := by
    unfold loadDocuments
    rcases drain_cases (s.beginLoad (.int page) forced) with ⟨v, shown, hr, hpending, -⟩ | ⟨hdrained, -⟩
    · rw [hr] at hbegun
      cases hbegun
      have hsettled : s.informed.browser.reloadPending = false := by
        rw [hsame]
        exact hq.settled
      cases hsettled.symm.trans hpending
    · exact hdrained
  have hperform : s.perform (.load (.int page) forced) =
      ((s.beginLoad (.int page) forced).1, .done (.verdict true)) := by
    have hcommand : s.perform (.load (.int page) forced) =
      thenReply (s.loadDocuments (.int page) forced) .verdict := rfl
    rw [hcommand, hloaded, hbegun]
    rfl
  rw [ht] at hperform
  have hready : s.informed.ready = [] := by
    rw [hsame]
    exact hq.ready
  have hwaiting : s.informed.waiting = [] := by
    rw [hsame]
    exact hq.waiting
  unfold ask run
  simp only [serve, hperform]
  rw [settle_discover _ collection rows]
  · refine Noted.discover ⟨?_, ?_, ?_, ?_, ?_⟩ collection rows
    · exact sent
    · exact yielded
    · exact answered ++ [(client, .ok (.verdict true))]
    · exact journal ++ [.ended load]
    · simp [conclude, showing, spawn, note, update, beginning, Browser.present, Browser.begin, hready]
  · simp [conclude, showing, spawn, note, update, beginning, hready, hcollection]
  · simp [conclude, showing, spawn, note, update, beginning, hwaiting]

/-- What is shown, apart from what is learned. -/
theorem Finds.showing_learned (hf : Finds s c ranking) (hl : LooksAt s collection docs)
    (paging : Paging) (rows : List Fields) (total : Option Int) (cache : PageCache) :
    Learned ((s.querying c).showing c paging rows total cache)
      ((s.informed.showing c paging rows total cache).discover collection rows) := by
  refine Learned.trans ?_ (discover_learned _ _ _)
  obtain ⟨r, k, sent, yielded, answered, journal, hsame⟩ := informed_learned hl
  rw [hf.query] at hsame
  rw [hsame]
  exact ⟨r, k, sent, yielded, answered, journal, rfl⟩

/-- The page of a fingerprint is shown as it was kept, unless the load is forced. -/
theorem ask_kept (client : Nat) {kept : CachedPage} (hq : Quiet s)
    (hl : LooksAt s collection docs) (hf : Finds s c ranking) (he : Enters s page move)
    (haggregates : c.aggregates = false) (hforced : forced = false)
    (hkept : s.browser.cache.get? (s.fingerprint collection c move.page) s.clock = some kept)
    (hid : ∀ d ∈ kept.rows, d.get "id" = (Collection.rowKey d).toValue) :
    Learned ((s.querying c).showing c (s.browser.paging.advance move kept.rows) kept.rows
      kept.total s.browser.cache) (s.ask client (.load (.int page) forced)) := by
  let load : Load := ⟨collection, s.browser.generation, .int page, forced⟩
  have hover := (beginLoad_strides s (.int page) forced).keeps
    (I := fun t leg => DecidesOn s load t leg ∨ ShowsOn (HasShown s load c
      (s.browser.paging.advance move kept.rows) kept.rows kept.total s.browser.cache) load t leg)
    (fun {t u leg next} hstride h => by
      rcases h with hdecides | hshows
      · by_cases hdue : ∃ begun, leg = .due begun
        · obtain ⟨begun, rfl⟩ := hdue
          exact .inr (hdecides.recalls hl hf he haggregates rfl hforced hkept hid hstride)
        · exact .inl (hdecides.stride hq hl rfl hstride fun begun h => hdue ⟨begun, h⟩)
      · exact .inr (hshows.stride hstride)) (.inl ⟨rfl, rfl, rfl⟩)
  have hnoted := ask_of_load client hq hl rfl (hover.resolve_left id)
  exact (hf.showing_learned hl _ _ _ _).trans hnoted.learned

/-- Otherwise the page is fetched, shown and kept, and attributes are looked for in its rows. -/
theorem ask_fetches (client : Nat) {all : List Fields} (hq : Quiet s)
    (hl : LooksAt s collection docs) (hf : Finds s c ranking) (he : Enters s page move)
    (haggregates : c.aggregates = false)
    (hkept : forced = true ∨
      s.browser.cache.get? (s.fingerprint collection c move.page) s.clock = none)
    (hkeys : ∀ d ∈ docs, d.get "id" = (Collection.rowKey d).toValue)
    (hmatching : Collection.select (Query.compileFilters c) docs = .ok matching)
    (hall : Collection.ranked docs (Query.compileFilters c) ranking
      (if move.page > 1 then move.cursor else none) = .ok all)
    (hid : ∀ d ∈ all, d.get "id" = (Collection.rowKey d).toValue) :
    let rows := all.take s.browser.paging.pageSize.toNat
    let total : Option Int := some ((s.browser.knownTotal? c forced).getD matching.length)
    Noted ((s.informed.showing c (s.browser.paging.advance move rows) rows total
      (s.browser.cache.put ⟨s.fingerprint collection c move.page, rows, total, s.clock⟩)).discover
        collection rows) (s.ask client (.load (.int page) forced)) := by
  intro rows total
  let load : Load := ⟨collection, s.browser.generation, .int page, forced⟩
  obtain ⟨number, b, hexecutor, hb, ha⟩ := hl.answering
  have hrows : ∀ d ∈ rows, d.get "id" = (Collection.rowKey d).toValue :=
    fun d hd => hid d (List.mem_of_mem_take hd)
  have hover := (beginLoad_strides s (.int page) forced).keeps
    (I := fun t leg => DecidesOn s load t leg ∨
      FetchesOn s load docs c move rows number matching.length t leg ∨
      ShowsOn (HasShown s load c (s.browser.paging.advance move rows) rows total
        (s.browser.cache.put ⟨s.fingerprint collection c move.page, rows, total, s.clock⟩)) load t leg)
    (fun {t u leg next} hstride h => by
      rcases h with hdecides | hfetches | hshows
      · by_cases hdue : ∃ begun, leg = .due begun
        · obtain ⟨begun, rfl⟩ := hdue
          exact .inr (.inl (hdecides.fetches hl hf he haggregates rfl hkept hall hstride))
        · exact .inl (hdecides.stride hq hl rfl hstride fun begun h => hdue ⟨begun, h⟩)
      · exact .inr (hfetches.stride hl hf he haggregates rfl hexecutor hb ha hkeys hmatching hrows
          hstride)
      · exact .inr (.inr (hshows.stride hstride))) (.inl ⟨rfl, rfl, rfl⟩)
  exact ask_of_load client hq hl rfl ((hover.resolve_left id).resolve_left id)

theorem ask_fetched (client : Nat) {all : List Fields} (hq : Quiet s)
    (hl : LooksAt s collection docs) (hf : Finds s c ranking) (he : Enters s page move)
    (haggregates : c.aggregates = false)
    (hkept : forced = true ∨
      s.browser.cache.get? (s.fingerprint collection c move.page) s.clock = none)
    (hkeys : ∀ d ∈ docs, d.get "id" = (Collection.rowKey d).toValue)
    (hmatching : Collection.select (Query.compileFilters c) docs = .ok matching)
    (hall : Collection.ranked docs (Query.compileFilters c) ranking
      (if move.page > 1 then move.cursor else none) = .ok all)
    (hid : ∀ d ∈ all, d.get "id" = (Collection.rowKey d).toValue) :
    Learned ((s.querying c).showing c
      (s.browser.paging.advance move (all.take s.browser.paging.pageSize.toNat))
      (all.take s.browser.paging.pageSize.toNat)
      (some ((s.browser.knownTotal? c forced).getD matching.length))
      (s.browser.cache.put ⟨s.fingerprint collection c move.page,
        all.take s.browser.paging.pageSize.toNat,
        some ((s.browser.knownTotal? c forced).getD matching.length), s.clock⟩))
      (s.ask client (.load (.int page) forced)) :=
  (hf.showing_learned hl _ _ _ _).trans
    (ask_fetches client hq hl hf he haggregates hkept hkeys hmatching hall hid).learned

end

end Session

end Folio
