-- How a load goes on, said once. From the wish for a page to the end that is noted, a load makes a
-- few strides, each of which does one thing to the session. What is to hold of every load is proved
-- stride by stride.
import Folio.Session.Load
import Folio.Session.Remember
import Mathlib.Data.List.Basic
import Mathlib.Logic.Relation

open Relation (ReflTransGen)

namespace Folio

/-! ## Legs of a load -/

/-- What a load is about to do. -/
inductive Leg where
  /-- A page is wished for. -/
  | wanted (page : Value) (forced : Bool)
  /-- The load has begun, and gets to know the attributes. -/
  | begun (load : Load)
  /-- It takes over the schema that it has waited for. -/
  | taught (query : SchemaQuery) (load : Load)
  /-- It makes the filters anew. -/
  | ready (load : Load)
  /-- It decides on its page. -/
  | due (load : Load)
  /-- It gets to know the number of documents. -/
  | planned (load : Load) (plan : PagePlan)
  | counting (sent : Sent) (load : Load) (plan : PagePlan)
  | counted (load : Load) (plan : PagePlan) (answer : Except Fault Value)
  /-- It asks for its page. -/
  | told (load : Load) (plan : PagePlan) (total : Int)
  | asking (sent : Sent) (load : Load) (plan : PagePlan) (total : Int)
  | answered (sent : Sent) (load : Load) (plan : PagePlan) (total : Int) (answer : Except Fault Value)
  /-- It shows its page. -/
  | turned (sent : Sent) (load : Load) (plan : PagePlan) (total : Int) (rows : List Value)
    (response : Value)
  /-- It comes to an end, or has to wait. -/
  | stops (load : Load) (outcome : Outcome LoadPause Bool)
  | over (outcome : Outcome LoadPause Bool)

/-- The load that is on its way. -/
def Leg.load? : Leg → Option Load
  | begun load | taught _ load | ready load | due load | planned load _ | counting _ load _
  | counted load _ _ | told load _ _ | asking _ load _ _ | answered _ load _ _ _
  | turned _ load _ _ _ _ => some load
  | wanted _ _ | stops _ _ | .over _ => none

/-- Where a load goes on that has waited. -/
def LoadPause.leg : LoadPause → Leg
  | schema query load => .taught query load
  | count sent load plan => .counting sent load plan
  | page sent load plan total => .asking sent load plan total

theorem LoadPause.leg_load? (p : LoadPause) : p.leg.load? = some p.load := by
  cases p <;> rfl

namespace Session

/-- The page that a load decides on is one of the query as it is. -/
structure Planned (b : Browser) (load : Load) (plan : PagePlan) : Prop where
  generation : b.generation = load.generation
  config : plan.config = b.config
  move : ∃ page, plan.move = b.paging.plan page
  fingerprint : plan.fingerprint = Cache.fingerprint b.connection load.collection b.config
    plan.move.page b.paging.pageSize
  request : Query.compilePage b.config ⟨plan.move.page, b.paging.pageSize, plan.move.cursor⟩
    b.registry = .ok plan.request

/-- The page that a load shows again is one that was kept for the query as it is. -/
structure Recalled (b : Browser) (load : Load) (step : PageMove) (page : CachedPage) : Prop where
  generation : b.generation = load.generation
  move : ∃ target, step = b.paging.plan target
  kept : page ∈ b.cache.pages
  fingerprint : page.fingerprint = Cache.fingerprint b.connection load.collection b.config step.page
    b.paging.pageSize

/-- The page that is asked for, and how the walk comes to it. -/
def Targets (b : Browser) (load : Load) (move : PageMove) : Prop :=
  ∃ page, b.targetPage load.page = .ok page ∧ move = b.paging.plan page

/-! ## How a load may stop -/

/-- A load is out of date: the query has changed since it began. -/
inductive Late (s : Session) : Leg → Load → Prop where
  | ready {load : Load} (late : s.browser.generation ≠ load.generation) : Late s (.ready load) load
  | answered {sent : Sent} {load : Load} {plan : PagePlan} {total : Int} {response : Value}
      (late : s.browser.generation ≠ load.generation) :
      Late s (.answered sent load plan total (.ok response)) load

/-- A load ends with a failure that is shown. -/
inductive FailsAt (s : Session) : Leg → Load → Fault → Prop where
  /-- There is no request for the page. -/
  | query {load : Load} {move : PageMove} {f : QueryFault} (target : Targets s.browser load move)
      (request : Query.compilePage s.browser.config ⟨move.page, s.browser.paging.pageSize, move.cursor⟩
        s.browser.registry = .error f) : FailsAt s (.due load) load (.query f)
  | count (load : Load) (plan : PagePlan) (f : Fault) :
      FailsAt s (.counted load plan (.error f)) load (.browser (classify f))
  /-- The answer holds no number. -/
  | number {load : Load} {plan : PagePlan} {response : Value} {f : Failure}
      (unread : View.countIn Query.countLabel response = .error f) :
      FailsAt s (.counted load plan (.ok response)) load (.browser (classify (.failure f)))
  | page (sent : Sent) (load : Load) (plan : PagePlan) (total : Int) (f : Fault) :
      FailsAt s (.answered sent load plan total (.error f)) load (.browser (classify f))

/-- A fault breaks a load off. -/
inductive BreaksAt (s : Session) : Leg → Load → Fault → Prop where
  /-- A schema cannot be taken over. -/
  | schema {load : Load} {query : SchemaQuery} {f : Fault}
      (executor : s.browser.executor = some query.backend) (taken : (s.takeSchema query).2 = .error f) :
      BreaksAt s (.begun load) load f
  | taught {load : Load} {query : SchemaQuery} {f : Fault} (taken : (s.takeSchema query).2 = .error f) :
      BreaksAt s (.taught query load) load f
  /-- What is asked for is no page. -/
  | target {load : Load} {f : Failure} (target : s.browser.targetPage load.page = .error f) :
      BreaksAt s (.due load) load (.failure f)
  /-- The walk cannot go on from the page that was kept. -/
  | showAgain {load : Load} {move : PageMove} {page : CachedPage} {f : Fault}
      (recalled : Recalled s.browser load move page) (target : Targets s.browser load move)
      (found : s.kept? load page.fingerprint = some page)
      (commit : s.browser.paging.commit move (page.rows.map .object) = .error f) :
      BreaksAt s (.due load) load f
  | rows {sent : Sent} {load : Load} {plan : PagePlan} {total : Int} {response : Value} {f : Failure}
      (unread : View.rowsIn response = .error f) :
      BreaksAt s (.answered sent load plan total (.ok response)) load (.failure f)
  | commit {sent : Sent} {load : Load} {plan : PagePlan} {total : Int} {response : Value}
      {rows : List Value} {f : Fault} (read : View.rowsIn response = .ok rows)
      (commit : s.browser.paging.commit plan.move rows = .error f) :
      BreaksAt s (.answered sent load plan total (.ok response)) load f
  | view {sent : Sent} {load : Load} {plan : PagePlan} {total : Int} {rows : List Value}
      {response : Value} {f : Fault}
      (unread : (View.read rows total plan.config.aggregates response).orFault = .error f) :
      BreaksAt s (.turned sent load plan total rows response) load f

/-- The backend that a load turns to. -/
def turnsTo? (s : Session) : Leg → Option Nat
  | .begun _ => s.browser.executor
  | .taught query _ => some query.backend
  | .counting sent _ _ | .asking sent _ _ _ => some sent.backend
  | _ => none

/-- A load has to wait. -/
inductive WaitsAt (s : Session) : Leg → LoadPause → Prop where
  | schema {load : Load} {query : SchemaQuery} (held : s.ensureAttributes = (s, .paused query)) :
      WaitsAt s (.begun load) (.schema query load)
  | count {sent : Sent} {load : Load} {plan : PagePlan} (held : s.isHeld sent.backend = true) :
      WaitsAt s (.counting sent load plan) (.count sent load plan)
  | page {sent : Sent} {load : Load} {plan : PagePlan} {total : Int}
      (held : s.isHeld sent.backend = true) :
      WaitsAt s (.asking sent load plan total) (.page sent load plan total)

/-! ## Strides -/

/-- What a load does at once. -/
inductive Stride : Session × Leg → Session × Leg → Prop where
  /-- There is nothing to load from, or another load is under way. -/
  | idle {s : Session} {page : Value} {forced : Bool}
      (idle : s.browser.current? = none ∨ s.browser.isLoading = true) :
      Stride (s, .wanted page forced) (s, .over (.done false))
  | refuse {s : Session} {page : Value} {forced : Bool} (loading : s.browser.isLoading = false)
      (executor : s.browser.executor = none) :
      Stride (s, .wanted page forced)
        (s.update (·.fail (.browser (.notInitialized "Client not initialized"))), .over (.done false))
  | begin {s : Session} {page : Value} {forced : Bool} {collection : String} {executor : Nat}
      (current : s.browser.current? = some collection) (loading : s.browser.isLoading = false)
      (executor : s.browser.executor = some executor) :
      Stride (s, .wanted page forced)
        ((s.update (·.begin)).note (.begun ⟨collection, s.browser.generation, page, forced⟩),
          .begun ⟨collection, s.browser.generation, page, forced⟩)
  | learn {s t : Session} {load : Load} (known : s.ensureAttributes = (t, .done ())) :
      Stride (s, .begun load) (t, .ready load)
  | take {s t : Session} {query : SchemaQuery} {load : Load}
      (taken : s.takeSchema query = (t, .ok ())) :
      Stride (s, .taught query load) (t, .ready load)
  | retype {s : Session} {load : Load} (current : s.browser.generation = load.generation) :
      Stride (s, .ready load) (s.update (·.retype), .due load)
  | decide {s : Session} {load : Load} {plan : PagePlan} (planned : Planned s.browser load plan)
      (target : Targets s.browser load plan.move) (unkept : s.kept? load plan.fingerprint = none) :
      Stride (s, .due load) (s, .planned load plan)
  /-- A page that was kept is shown again. -/
  | showAgain {s : Session} {load : Load} {move : PageMove} {page : CachedPage} {paging : Paging}
      (recalled : Recalled s.browser load move page) (target : Targets s.browser load move)
      (found : s.kept? load page.fingerprint = some page)
      (commit : s.browser.paging.commit move (page.rows.map .object) = .ok paging) :
      Stride (s, .due load)
        ((s.showKept load s.browser.config move page).1, .stops load (.done true))
  | know {s : Session} {load : Load} {plan : PagePlan} {total : Int}
      (known : s.browser.knownTotal? plan.config load.forced = some total) :
      Stride (s, .planned load plan) (s, .told load plan total)
  | count {s t : Session} {load : Load} {plan : PagePlan} {sent : Sent}
      (unknown : s.browser.knownTotal? plan.config load.forced = none)
      (request : s.request load.collection (Query.compileCount plan.config) = (t, sent)) :
      Stride (s, .planned load plan) (t, .counting sent load plan)
  | hear {s t : Session} {sent : Sent} {load : Load} {plan : PagePlan} {answer : Except Fault Value}
      (respond : s.respond sent = (t, answer)) :
      Stride (s, .counting sent load plan) (t, .counted load plan answer)
  | tell {s : Session} {load : Load} {plan : PagePlan} {response : Value} {total : Int}
      (read : View.countIn Query.countLabel response = .ok total) :
      Stride (s, .counted load plan (.ok response)) (s, .told load plan total)
  | ask {s t : Session} {load : Load} {plan : PagePlan} {total : Int} {sent : Sent}
      (request : s.request load.collection plan.request = (t, sent)) :
      Stride (s, .told load plan total) (t.note (.asked sent load plan), .asking sent load plan total)
  | receive {s t : Session} {sent : Sent} {load : Load} {plan : PagePlan} {total : Int}
      {answer : Except Fault Value} (respond : s.respond sent = (t, answer)) :
      Stride (s, .asking sent load plan total) (t, .answered sent load plan total answer)
  /-- The walk goes on from the page that was asked for. -/
  | turn {s : Session} {sent : Sent} {load : Load} {plan : PagePlan} {total : Int} {response : Value}
      {rows : List Value} {paging : Paging} (current : s.browser.generation = load.generation)
      (read : View.rowsIn response = .ok rows)
      (commit : s.browser.paging.commit plan.move rows = .ok paging) :
      Stride (s, .answered sent load plan total (.ok response))
        ((s.update ({ · with paging := paging })).note (.fetched sent load plan rows),
          .turned sent load plan total rows response)
  | display {s : Session} {sent : Sent} {load : Load} {plan : PagePlan} {total : Int}
      {rows : List Value} {response : Value} {view : View}
      (current : s.browser.generation = load.generation)
      (read : View.read rows total plan.config.aggregates response = .sound view) :
      Stride (s, .turned sent load plan total rows response)
        ((s.showFetched load plan view).1, .stops load (.done true))
  | rest {s : Session} {leg : Leg} {load : Load} (late : Late s leg load) :
      Stride (s, leg) (s.update (·.rest), .stops load (.done false))
  | fail {s : Session} {leg : Leg} {load : Load} {f : Fault} (fails : FailsAt s leg load f) :
      Stride (s, leg) (s.update (·.fail f), .stops load (.done false))
  | broken {s : Session} {leg : Leg} {load : Load} {f : Fault} (breaks : BreaksAt s leg load f) :
      Stride (s, leg) (s, .stops load (.raised f))
  | wait {s : Session} {leg : Leg} {pause : LoadPause} (waits : WaitsAt s leg pause) :
      Stride (s, leg) (s, .stops pause.load (.paused pause))
  /-- It is noted how the load has come to its end, if it has. -/
  | close (s : Session) (load : Load) (outcome : Outcome LoadPause Bool) :
      Stride (s, .stops load outcome) ((closing load (s, outcome)).1, .over outcome)

/-- A load goes on until it is over or has to wait. -/
def Strides (s : Session) (leg : Leg) (r : Session × Outcome LoadPause Bool) : Prop :=
  ReflTransGen Stride (s, leg) (r.1, .over r.2)

/-- What a load does before it stops. -/
def StridesTo (s : Session) (leg : Leg) (load : Load) (r : Session × Outcome LoadPause Bool) : Prop :=
  ReflTransGen Stride (s, leg) (r.1, .stops load r.2)

variable {s t : Session} {leg next : Leg} {load : Load} {plan : PagePlan}
  {r : Session × Outcome LoadPause Bool}

namespace StridesTo

theorem last (h : Stride (s, leg) (r.1, .stops load r.2)) : StridesTo s leg load r := .single h

theorem after (h : Stride (s, leg) (t, next)) (hr : StridesTo t next load r) :
    StridesTo s leg load r := .head h hr

theorem orRaise {α : Type} {result : Except Fault α} {next : α → Session × Outcome LoadPause Bool}
    (hbreaks : ∀ f, result = .error f → BreaksAt s leg load f)
    (hnext : ∀ a, result = .ok a → StridesTo s leg load (next a)) :
    StridesTo s leg load (s.orRaise result next) := by
  cases hresult : result with
  | ok a => exact hnext a hresult
  | error f => exact .last (.broken (hbreaks f hresult))

/-- Once the end is noted a load is over. -/
theorem closes (h : StridesTo s leg load r) : Strides s leg (closing load r) := by
  have hsame : (closing load r).2 = r.2 := by
    obtain ⟨u, outcome⟩ := r
    cases outcome <;> rfl
  unfold Strides
  rw [hsame]
  exact .tail h (.close r.1 load r.2)

end StridesTo

/-! ## Where a load may stop -/

/-- Only a load comes to rest that is on its way, and is out of date. -/
theorem Late.goes (h : Late s leg load) :
    leg.load? = some load ∧ s.browser.generation ≠ load.generation := by
  cases h with
  | ready late => exact ⟨rfl, late⟩
  | answered late => exact ⟨rfl, late⟩

theorem FailsAt.goes {f : Fault} (h : FailsAt s leg load f) : leg.load? = some load := by
  cases h <;> rfl

theorem BreaksAt.goes {f : Fault} (h : BreaksAt s leg load f) : leg.load? = some load := by
  cases h <;> rfl

theorem WaitsAt.goes {pause : LoadPause} (h : WaitsAt s leg pause) : leg.load? = some pause.load := by
  cases h <;> rfl

/-! ## Answers -/

/-- A request fails if there is no such backend. Else the backend answers it, and the answer is
recorded. -/
theorem respond_cases (s : Session) (sent : Sent) :
    (s.backend? sent.backend = none ∧
      s.respond sent = (s, .error (.failure .unimplemented))) ∨
    ∃ b, s.backend? sent.backend = some b ∧ s.respond sent =
      ({ s.setBackend sent.backend (b.respond sent.collection sent.request).1 with
          yielded := s.yielded ++ ((b.respond sent.collection sent.request).2.toOption.map
            (.answer sent)).toList },
        (b.respond sent.collection sent.request).2) := by
  unfold respond onBackend
  cases hb : s.backend? sent.backend with
  | none =>
    refine .inl ⟨rfl, ?_⟩
    simp [Except.toOption]
  | some b => exact .inr ⟨b, rfl, rfl⟩

/-- What is answered comes from a backend. -/
theorem backend_of_respond {sent : Sent} {response : Value}
    (h : (s.respond sent).2 = .ok response) : ∃ b, s.backend? sent.backend = some b ∧
      (b.respond sent.collection sent.request).2 = .ok response := by
  rcases s.respond_cases sent with ⟨-, hnone⟩ | ⟨b, hb, hsome⟩
  · rw [hnone] at h
    cases h
  · rw [hsome] at h
    exact ⟨b, hb, h⟩

/-- An answer leaves the browser as it is. -/
theorem respond_browser {sent : Sent} {answer : Except Fault Value}
    (h : s.respond sent = (t, answer)) : t.browser = s.browser := by
  rcases s.respond_cases sent with ⟨-, hnone⟩ | ⟨b, -, hsome⟩
  · cases hnone.symm.trans h
    rfl
  · cases hsome.symm.trans h
    rfl

/-! ## Attributes -/

/-- Sessions between which nothing has changed but what is known of attributes. -/
def Apprised (s t : Session) : Prop :=
  ∃ registry known, t = s.update ({ · with registry := registry, known := known })

theorem Apprised.refl (s : Session) : Apprised s s := ⟨s.browser.registry, s.browser.known, rfl⟩

theorem takeSchema_apprised (s : Session) (query : SchemaQuery) :
    Apprised s (s.takeSchema query).1 := by
  unfold takeSchema
  cases s.schemaShown? query with
  | none => exact .refl s
  | some schema =>
    dsimp only
    cases Discovery.ofSchema schema with
    | ok declared => exact ⟨_, _, rfl⟩
    | error f => exact .refl s

theorem loadSchema_apprised (s : Session) (forced : Bool) :
    Apprised s (s.loadSchema forced).1 := by
  unfold loadSchema
  split
  · dsimp only
    split
    · exact ⟨_, s.browser.known, rfl⟩
    · split
      · exact .refl s
      · split
        · exact .refl s
        · have htaken := takeSchema_apprised s
          unfold orRaise
          split <;> exact htaken _
    · exact .refl s
  · exact .refl s

theorem ensureAttributes_apprised (s : Session) : Apprised s s.ensureAttributes.1 := by
  unfold ensureAttributes
  split
  · exact loadSchema_apprised s false
  · exact .refl s

theorem apprised_of_ensure {outcome : Outcome SchemaQuery Unit}
    (h : s.ensureAttributes = (t, outcome)) : Apprised s t := by
  have happrised := ensureAttributes_apprised s
  rwa [h] at happrised

theorem apprised_of_take {query : SchemaQuery} {taken : Except Fault Unit}
    (h : s.takeSchema query = (t, taken)) : Apprised s t := by
  have happrised := takeSchema_apprised s query
  rwa [h] at happrised

theorem discover_apprised (s : Session) (collection : String) (rows : List Fields) :
    Apprised s (s.discover collection rows) := by
  unfold discover
  split
  · exact .refl s
  · split
    · exact ⟨_, _, rfl⟩
    · exact .refl s

/-- Where a schema cannot be taken over nothing is changed. -/
theorem takeSchema_error {query : SchemaQuery} {f : Fault} (h : s.takeSchema query = (t, .error f)) :
    t = s := by
  unfold takeSchema at h
  split at h
  · cases h
  · split at h
    · cases h
    · cases h
      rfl

/-- An action waits for a schema only if the backend that is used holds its schemas back. -/
theorem loadSchema_paused {forced : Bool} {query : SchemaQuery}
    (h : s.loadSchema forced = (t, .paused query)) :
    t = s ∧ s.browser.executor = some query.backend ∧
      ∃ b, s.backend? query.backend = some b ∧ b.schemaHeld = true := by
  unfold loadSchema at h
  split at h
  · rename_i hexecutor
    dsimp only at h
    split at h
    · cases h
    · rename_i b _ hbackend
      split at h
      · cases h
      · split at h
        · rename_i hheld
          cases h
          exact ⟨rfl, hexecutor, b, hbackend, hheld⟩
        · unfold orRaise at h
          split at h <;> cases h
    · cases h
  · cases h

/-- Getting to know the attributes fails just if a schema cannot be taken over. -/
theorem loadSchema_raised {forced : Bool} {f : Fault} (h : s.loadSchema forced = (t, .raised f)) :
    t = s ∧ ∃ query : SchemaQuery, s.browser.executor = some query.backend ∧
      (s.takeSchema query).2 = .error f := by
  unfold loadSchema at h
  split at h
  · rename_i collection executor _ hexecutor
    dsimp only at h
    split at h
    · cases h
    · split at h
      · cases h
      · split at h
        · cases h
        · cases htaken : s.takeSchema ⟨executor, collection, s.browser.attributeKey collection⟩ with
          | mk u taken =>
            rw [htaken] at h
            cases taken with
            | ok known => cases h
            | error g =>
              cases h
              exact ⟨takeSchema_error htaken, _, hexecutor, congrArg Prod.snd htaken⟩
    · cases h
  · cases h

theorem ensureAttributes_paused {query : SchemaQuery} (h : s.ensureAttributes = (t, .paused query)) :
    t = s ∧ s.browser.executor = some query.backend ∧
      ∃ b, s.backend? query.backend = some b ∧ b.schemaHeld = true := by
  unfold ensureAttributes at h
  split at h
  · exact loadSchema_paused h
  · cases h

theorem ensureAttributes_raised {f : Fault} (h : s.ensureAttributes = (t, .raised f)) :
    t = s ∧ ∃ query : SchemaQuery, s.browser.executor = some query.backend ∧
      (s.takeSchema query).2 = .error f := by
  unfold ensureAttributes at h
  split at h
  · exact loadSchema_raised h
  · cases h

/-- A load has to wait only if the backend that it turns to holds something back. -/
theorem WaitsAt.holder {pause : LoadPause} (h : WaitsAt s leg pause) : ∃ number b,
    s.turnsTo? leg = some number ∧ s.backend? number = some b ∧
      (b.held = true ∨ b.schemaHeld = true) := by
  have hbackend : ∀ {number}, s.isHeld number = true →
      ∃ b, s.backend? number = some b ∧ (b.held = true ∨ b.schemaHeld = true) := by
    intro number hheld
    unfold isHeld at hheld
    cases hb : s.backend? number with
    | none =>
      rw [hb] at hheld
      cases hheld
    | some b =>
      rw [hb] at hheld
      exact ⟨b, rfl, .inl hheld⟩
  cases h with
  | schema held =>
    obtain ⟨-, hexecutor, b, hb, hheld⟩ := ensureAttributes_paused held
    exact ⟨_, b, hexecutor, hb, .inr hheld⟩
  | count held => exact ⟨_, (hbackend held).imp fun b hb => ⟨rfl, hb⟩⟩
  | page held => exact ⟨_, (hbackend held).imp fun b hb => ⟨rfl, hb⟩⟩

/-! ## Pages that were kept -/

/-- What is taken for a page that was kept is one of this fingerprint, and still holds. -/
theorem kept?_facts {fingerprint : String} {page : CachedPage}
    (h : s.kept? load fingerprint = some page) :
    page ∈ s.browser.cache.pages ∧ page.fingerprint = fingerprint ∧
      s.browser.cache.holds page.fetchedAt s.clock = true ∧ load.forced = false ∧
      s.browser.config.aggregates = false := by
  unfold kept? at h
  split at h
  · cases h
  · rename_i hplain
    unfold PageCache.get? at h
    obtain ⟨hfound, hholds⟩ := Option.filter_eq_some_iff.mp h
    rw [Bool.or_eq_true, not_or] at hplain
    exact ⟨List.mem_of_find?_eq_some hfound, by simpa using List.find?_some hfound, hholds,
      by simpa using hplain⟩

/-- A page that was kept is shown once the walk can go on from it. -/
theorem showKept_committed {config : QueryConfig} {move : PageMove} {kept : CachedPage}
    {paging : Paging} (hcommit : s.browser.paging.commit move (kept.rows.map .object) = .ok paging) :
    s.showKept load config move kept =
      ((((s.update fun b =>
        { b with paging := paging }.present config (.ofRows kept.rows kept.total)).note
          (.recalled load config move kept)).note
            (.shown ⟨load, config, .ofRows kept.rows kept.total⟩)).spawn
              (.discover load.collection kept.rows), .done true) := by
  unfold showKept
  rw [hcommit]
  rfl

/-- A page that was fetched is shown, and is kept at most. -/
theorem showFetched_browser (s : Session) (load : Load) (plan : PagePlan) (view : View) :
    ∃ cache, (s.showFetched load plan view).1.browser =
        { s.browser.present plan.config view with cache := cache } ∧
      ∀ page ∈ cache.pages, page ∈ s.browser.cache.pages ∨
        page = ⟨plan.fingerprint, view.rows, view.total, s.clock⟩ := by
  unfold showFetched update note spawn
  dsimp only
  split
  · exact ⟨s.browser.cache, rfl, fun _ => Or.inl⟩
  · refine ⟨_, rfl, fun page hpage => ?_⟩
    rcases List.mem_cons.mp hpage with hnew | hold
    · exact Or.inr hnew
    · exact Or.inl (List.mem_of_mem_filter hold)

/-! ## What is read of an answer -/

/-- Two checks side by side pass just if both do. -/
theorem seq_sound {α β : Type} {f : Checked (α → β)} {a : Checked α} {b : β}
    (h : f <*> a = .sound b) : ∃ g x, f = .sound g ∧ a = .sound x ∧ g x = b := by
  cases f with
  | flawed flaws => cases a <;> cases h
  | sound g =>
    cases a with
    | flawed flaws => cases h
    | sound x =>
      cases h
      exact ⟨g, x, rfl, rfl, rfl⟩

theorem objects_of_read {rows : List Value} {found : List Fields}
    (h : Reader.listOf Reader.fields (.list rows) = .sound found) : found.map .object = rows := by
  induction rows generalizing found with
  | nil =>
    cases h
    rfl
  | cons row rest ih =>
    have hcons : (Reader.fields row).map List.cons <*> Reader.listOf Reader.fields (.list rest) =
      .sound found := h
    obtain ⟨g, others, hrow, hrest, rfl⟩ := seq_sound hcons
    cases row with
    | object fields =>
      cases hrow
      rw [List.map_cons, ih hrest]
    | _ => cases hrow

/-- The rows of a view are those of the answer. -/
theorem rows_of_read {rows : List Value} {total : Int} {aggregates : Bool} {response : Value}
    {view : View} (h : View.read rows total aggregates response = .sound view) :
    view.rows.map .object = rows := by
  obtain ⟨g₁, groups, hfirst, -, rfl⟩ := seq_sound h
  obtain ⟨g₂, aggregations, hsecond, -, rfl⟩ := seq_sound hfirst
  obtain ⟨g₃, n, hthird, hn, rfl⟩ := seq_sound hsecond
  cases hr : Reader.listOf Reader.fields (.list rows) with
  | flawed flaws =>
    rw [hr] at hthird
    cases hthird
  | sound found =>
    rw [hr] at hthird
    cases hthird
    exact objects_of_read hr

/-- The number of documents that a view tells is the one that it was read with. -/
theorem total_of_read {rows : List Value} {total : Int} {aggregates : Bool} {response : Value}
    {view : View} (h : View.read rows total aggregates response = .sound view) :
    view.total = some total := by
  obtain ⟨g₁, groups, hfirst, -, rfl⟩ := seq_sound h
  obtain ⟨g₂, aggregations, hsecond, -, rfl⟩ := seq_sound hfirst
  obtain ⟨g₃, n, hthird, hn, rfl⟩ := seq_sound hsecond
  cases hn
  cases hr : Reader.listOf Reader.fields (.list rows) with
  | flawed flaws =>
    rw [hr] at hthird
    cases hthird
  | sound found =>
    rw [hr] at hthird
    cases hthird
    rfl

/-! ## The parts of a load -/

theorem answered_strides (s : Session) (sent : Sent) (load : Load) (plan : PagePlan) (total : Int)
    (response : Value) : StridesTo s (.answered sent load plan total (.ok response)) load
      (s.receive sent load plan total response) := by
  unfold receive
  by_cases hlate : s.browser.generation = load.generation
  · rw [if_neg (by simpa using hlate)]
    apply StridesTo.orRaise
    · intro f hrows
      cases hr : View.rowsIn response with
      | ok rows =>
        rw [hr] at hrows
        cases hrows
      | error g =>
        rw [hr] at hrows
        cases hrows
        exact .rows hr
    · intro rows hrows
      have hread : View.rowsIn response = .ok rows := by
        cases hr : View.rowsIn response <;> rw [hr] at hrows <;> cases hrows
        rfl
      apply StridesTo.orRaise
      · exact fun f hcommit => .commit hread hcommit
      · intro paging hcommit
        refine .after (.turn hlate hread hcommit) ?_
        apply StridesTo.orRaise
        · exact fun f hview => .view hview
        · intro view hview
          cases hr : View.read rows total plan.config.aggregates response with
          | flawed flaws =>
            rw [hr] at hview
            cases hview
          | sound found =>
            rw [hr] at hview
            cases hview
            exact .last (.display hlate hr)
  · rw [if_pos (by simpa using hlate)]
    exact .last (.rest (.answered hlate))

theorem fetched_strides (s : Session) (sent : Sent) (load : Load) (plan : PagePlan) (total : Int) :
    StridesTo s (.asking sent load plan total) load (s.fetched sent load plan total) := by
  unfold fetched
  cases hr : s.respond sent with
  | mk t answer =>
    refine .after (.receive hr) ?_
    cases answer with
    | ok response => exact answered_strides t sent load plan total response
    | error f => exact .last (.fail (.page sent load plan total f))

theorem fetch_strides (s : Session) (load : Load) (plan : PagePlan) (total : Int) :
    StridesTo s (.told load plan total) load (s.fetch load plan total) := by
  unfold fetch
  cases hr : s.request load.collection plan.request with
  | mk t sent =>
    refine .after (.ask hr) ?_
    dsimp only
    split
    · rename_i hheld
      exact .last (.wait (.page hheld))
    · exact fetched_strides _ sent load plan total

theorem counted_strides (s : Session) (sent : Sent) (load : Load) (plan : PagePlan) :
    StridesTo s (.counting sent load plan) load (s.counted sent load plan) := by
  unfold counted
  cases hr : s.respond sent with
  | mk t answer =>
    refine .after (.hear hr) ?_
    cases answer with
    | error f => exact .last (.fail (.count load plan f))
    | ok response =>
      dsimp only
      cases hread : View.countIn Query.countLabel response with
      | ok total => exact .after (.tell hread) (fetch_strides t load plan total)
      | error f => exact .last (.fail (.number hread))

theorem count_strides (s : Session) (load : Load) (plan : PagePlan) :
    StridesTo s (.planned load plan) load (s.count load plan) := by
  unfold count
  cases hknown : s.browser.knownTotal? plan.config load.forced with
  | some total => exact .after (.know hknown) (fetch_strides s load plan total)
  | none =>
    cases hr : s.request load.collection (Query.compileCount plan.config) with
    | mk t sent =>
      refine .after (.count hknown hr) ?_
      dsimp only
      split
      · rename_i hheld
        exact .last (.wait (.count hheld))
      · exact counted_strides _ sent load plan

theorem showKept_strides {move : PageMove} {page : CachedPage}
    (recalled : Recalled s.browser load move page) (target : Targets s.browser load move)
    (found : s.kept? load page.fingerprint = some page) :
    StridesTo s (.due load) load (s.showKept load s.browser.config move page) := by
  cases hcommit : s.browser.paging.commit move (page.rows.map .object) with
  | error f =>
    unfold showKept
    rw [hcommit]
    exact .last (.broken (.showAgain recalled target found hcommit))
  | ok paging =>
    have hshown : (s.showKept load s.browser.config move page).2 = .done true := by
      rw [showKept_committed hcommit]
    apply StridesTo.last
    rw [hshown]
    exact .showAgain recalled target found hcommit

theorem prepare_strides (s : Session) (load : Load) :
    StridesTo s (.ready load) load (s.prepare load) := by
  unfold prepare
  by_cases hlate : s.browser.generation = load.generation
  · rw [if_neg (by simpa using hlate)]
    refine .after (.retype hlate) ?_
    have hcurrent : (s.update (·.retype)).browser.generation = load.generation := hlate
    generalize s.update (·.retype) = t at hcurrent ⊢
    apply StridesTo.orRaise
    · intro f htarget
      cases ht : t.browser.targetPage load.page with
      | ok page =>
        rw [ht] at htarget
        cases htarget
      | error g =>
        rw [ht] at htarget
        cases htarget
        exact .target ht
    · intro page htarget
      have htargets : Targets t.browser load (t.browser.paging.plan page) := by
        refine ⟨page, ?_, rfl⟩
        cases ht : t.browser.targetPage load.page <;> rw [ht] at htarget <;> cases htarget
        rfl
      dsimp only
      split
      · rename_i kept hkept
        obtain ⟨hmem, hfingerprint, -⟩ := kept?_facts hkept
        refine showKept_strides ⟨hcurrent, ⟨page, rfl⟩, hmem, hfingerprint⟩ htargets ?_
        rw [hfingerprint]
        exact hkept
      · rename_i hunkept
        split
        · rename_i request hrequest
          have hplanned : Planned t.browser load ⟨t.browser.config, t.browser.paging.plan page,
              Cache.fingerprint t.browser.connection load.collection t.browser.config
                (t.browser.paging.plan page).page t.browser.paging.pageSize, request⟩ :=
            ⟨hcurrent, rfl, ⟨page, rfl⟩, rfl, hrequest⟩
          exact .after (.decide hplanned htargets hunkept) (count_strides t load _)
        · rename_i f hrequest
          exact .last (.fail (.query htargets hrequest))
  · rw [if_pos (by simpa using hlate)]
    exact .last (.rest (.ready hlate))

theorem begun_strides (s : Session) (load : Load) : StridesTo s (.begun load) load
    (andThen s.ensureAttributes (.schema · load) fun s _ => s.prepare load) := by
  cases hr : s.ensureAttributes with
  | mk t outcome =>
    cases outcome with
    | done known => exact .after (.learn hr) (prepare_strides t load)
    | raised f =>
      obtain ⟨rfl, query, hexecutor, hquery⟩ := ensureAttributes_raised hr
      exact .last (.broken (.schema hexecutor hquery))
    | paused query =>
      obtain ⟨rfl, -⟩ := ensureAttributes_paused hr
      exact .last (.wait (.schema hr))

theorem proceed_strides (s : Session) (p : LoadPause) :
    StridesTo s p.leg p.load (s.proceed p) := by
  cases p with
  | schema query load =>
    change StridesTo s (.taught query load) load
      ((s.takeSchema query).1.orRaise (s.takeSchema query).2 fun _ =>
        (s.takeSchema query).1.prepare load)
    cases hr : s.takeSchema query with
    | mk t taken =>
      cases taken with
      | ok known => exact .after (.take hr) (prepare_strides t load)
      | error f =>
        obtain rfl := takeSchema_error hr
        exact .last (.broken (.taught (congrArg Prod.snd hr)))
  | count sent load plan => exact counted_strides s sent load plan
  | page sent load plan total => exact fetched_strides s sent load plan total

/-! ## Whole loads -/

theorem beginLoad_of_none {page : Value} {forced : Bool} (h : s.browser.current? = none) :
    s.beginLoad page forced = (s, .done false) := by
  unfold beginLoad
  rw [h]

/-- Where there is nothing to load from, or another load is under way, nothing comes of the wish for a
page. -/
theorem beginLoad_cases (s : Session) (page : Value) (forced : Bool) :
    ((s.browser.current? = none ∨ s.browser.isLoading = true) ∧
      s.beginLoad page forced = (s, .done false)) ∨
    (s.browser.isLoading = false ∧ s.browser.executor = none ∧ s.beginLoad page forced =
      (s.update (·.fail (.browser (.notInitialized "Client not initialized"))), .done false)) ∨
    ∃ collection executor, s.browser.current? = some collection ∧ s.browser.isLoading = false ∧
      s.browser.executor = some executor ∧
      Strides ((s.update (·.begin)).note (.begun ⟨collection, s.browser.generation, page, forced⟩))
        (.begun ⟨collection, s.browser.generation, page, forced⟩) (s.beginLoad page forced) := by
  cases hcurrent : s.browser.current? with
  | none => exact .inl ⟨.inl rfl, beginLoad_of_none hcurrent⟩
  | some collection =>
    unfold beginLoad
    rw [hcurrent]
    dsimp only
    cases hloading : s.browser.isLoading with
    | true => exact .inl ⟨.inr rfl, rfl⟩
    | false =>
      cases hexecutor : s.browser.executor with
      | none => exact .inr (.inl ⟨rfl, rfl, rfl⟩)
      | some executor =>
        exact .inr (.inr ⟨collection, executor, rfl, rfl, rfl, (begun_strides _ _).closes⟩)

theorem beginLoad_strides (s : Session) (page : Value) (forced : Bool) :
    Strides s (.wanted page forced) (s.beginLoad page forced) := by
  rcases beginLoad_cases s page forced with ⟨hidle, hsame⟩ | ⟨hloading, hnone, hfails⟩ |
    ⟨collection, executor, hcurrent, hloading, hexecutor, hstrides⟩
  · rw [hsame]
    exact .single (.idle hidle)
  · rw [hfails]
    exact .single (.refuse hloading hnone)
  · exact .head (.begin hcurrent hloading hexecutor) hstrides

theorem continueLoad_strides (s : Session) (p : LoadPause) :
    Strides s p.leg (s.continueLoad p) := (proceed_strides s p).closes

/-- What was put off is taken up when a load is over that was in its way. -/
theorem drain_cases (r : Session × Outcome LoadPause Bool) :
    (∃ s shown, r = (s, .done shown) ∧ s.browser.reloadPending = true ∧
      s.browser.isLoading = false ∧
      drain r = ((s.update ({ · with reloadPending := false })).note .takenUp).beginLoad (.int 1) true) ∨
    drain r = r ∧ ∀ shown, r.2 = .done shown → r.1.browser.reloadPending = true →
      r.1.browser.isLoading = true := by
  obtain ⟨s, outcome⟩ := r
  cases outcome with
  | done shown =>
    unfold drain
    dsimp only
    split
    · rename_i hpending
      rw [Bool.and_eq_true, Bool.not_eq_true'] at hpending
      exact .inl ⟨s, shown, rfl, hpending.1, hpending.2, rfl⟩
    · rename_i hsettled
      rw [Bool.and_eq_true, Bool.not_eq_true', not_and, Bool.not_eq_false] at hsettled
      exact .inr ⟨rfl, fun _ _ => hsettled⟩
  | raised f => exact .inr ⟨rfl, fun _ h => nomatch h⟩
  | paused p => exact .inr ⟨rfl, fun _ h => nomatch h⟩

/-- What every stride keeps holds when a load is over or has to wait. -/
theorem Strides.keeps {I : Session → Leg → Prop}
    (hstride : ∀ {s t leg next}, Stride (s, leg) (t, next) → I s leg → I t next)
    (h : Strides s leg r) (hs : I s leg) : I r.1 (.over r.2) := by
  have hall : ∀ {c : Session × Leg}, ReflTransGen Stride (s, leg) c → I c.1 c.2 := by
    intro c hpath
    induction hpath with
    | refl => exact hs
    | tail _ hlast ih => exact hstride hlast ih
  exact hall h

/-- What holds of every load on its way: every stride keeps it, and so does a load that was put off when
it is taken up. -/
structure LoadInvariant (I : Session → Leg → Prop) : Prop where
  stride : ∀ {s t leg next}, Stride (s, leg) (t, next) → I s leg → I t next
  takeUp : ∀ {s shown}, s.browser.reloadPending = true → s.browser.isLoading = false →
    I s (.over (.done shown)) →
    I ((s.update ({ · with reloadPending := false })).note .takenUp) (.wanted (.int 1) true)

namespace LoadInvariant

variable {I : Session → Leg → Prop} (hI : LoadInvariant I)

include hI

theorem beginLoad {page : Value} {forced : Bool} (hs : I s (.wanted page forced)) :
    I (s.beginLoad page forced).1 (.over (s.beginLoad page forced).2) :=
  (beginLoad_strides s page forced).keeps hI.stride hs

theorem drain (hr : I r.1 (.over r.2)) : I (drain r).1 (.over (drain r).2) := by
  rcases drain_cases r with ⟨t, shown, rfl, hpending, hidle, htaken⟩ | ⟨hsame, -⟩
  · rw [htaken]
    exact hI.beginLoad (hI.takeUp hpending hidle hr)
  · rw [hsame]
    exact hr

theorem loadDocuments (page : Value) (forced : Bool) (hs : I s (.wanted page forced)) :
    I (s.loadDocuments page forced).1 (.over (s.loadDocuments page forced).2) :=
  hI.drain (hI.beginLoad hs)

theorem continueLoad {p : LoadPause} (hs : I s p.leg) :
    I (s.continueLoad p).1 (.over (s.continueLoad p).2) :=
  (continueLoad_strides s p).keeps hI.stride hs

theorem resumeLoad {p : LoadPause} (hs : I s p.leg) :
    I (s.resumeLoad p).1 (.over (s.resumeLoad p).2) := hI.drain (hI.continueLoad hs)

end LoadInvariant

end Session

end Folio
