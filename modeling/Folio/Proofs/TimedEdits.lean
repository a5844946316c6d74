-- Edits of the query, made one at a time. An edit of the search text waits for its delay, and every
-- other edit is loaded at once; whatever waited before is dropped by either. What an edit leads to
-- is one load of the first page, which is seen by the number that it asks for.
import Folio.Proofs.CountedLoads
import Folio.Proofs.FailedLoads

namespace Folio

/-- Whether an intent edits the query: its filters, its order or its search text. -/
def Intent.isEdit : Intent → Bool
  | .addFilter _ _ _ | .updateFilter _ _ _ _ | .removeFilter _ | .clearFilters
  | .setSearchText _ | .setSort _ _ => true
  | _ => false

namespace Session

variable {s t u : Session} {number : Nat} {collection : String}

/-! ## Sessions at rest -/

/-- Nothing is done or waits, but for one run of the debouncer that may be asleep. -/
structure AtRest (s : Session) (number : Nat) (collection : String) : Prop
    extends Quiet s, Attends s number collection where
  run : s.debouncer.latest = s.asleep.map (·.2)

/-- The first page can be loaded, and little else is to be done. -/
structure Poised (s : Session) (number : Nat) (collection : String) : Prop
    extends Attends s number collection where
  waiting : s.waiting = []
  idle : s.browser.isLoading = false
  settled : s.browser.reloadPending = false
  asleep : s.asleep = none
  light : ∀ job ∈ s.ready, job.isLight = true
  few : s.ready.length ≤ 1

/-- The first page was loaded by the query of the first session, and everything is at rest again. -/
structure Loads (s t : Session) (number : Nat) (collection : String) : Prop where
  rest : t.AtRest number collection
  asleep : t.asleep = none
  delay : t.debouncer.delay = s.debouncer.delay
  config : s.browser.config.RetypedTo t.browser.config
  counted : ∃ c, s.browser.config.RetypedTo c ∧
    t.counts = s.counts ++ [.ofCount number collection c]

/-- Once the first page is loaded and what is ready is done, everything is at rest. -/
theorem Poised.loads (h : s.Poised number collection) (after : AfterLoad) :
    (∃ reply, (s.reloadFirst after).2 = .done reply) ∧
      (s.reloadFirst after).1.debouncer = s.debouncer ∧
      ∀ (debouncer : Debouncer) (answered : List (Nat × Answer)) (n : Nat),
        debouncer.delay = s.debouncer.delay → debouncer.latest = none → 2 ≤ n →
        Loads s (doJobs n
          { (s.reloadFirst after).1 with debouncer := debouncer, answered := answered })
          number collection := by
  obtain ⟨c, hc, haside, hdone, hidle, hcounts, jobs, hready, hone, hlight⟩ :=
    reloadFirst_over h.toAttends h.idle h.settled after
  refine ⟨hdone, haside.debouncer, fun debouncer answered n hdelay hlatest hn => ?_⟩
  generalize (s.reloadFirst after).1 = t at *
  let u : Session := { t with debouncer := debouncer, answered := answered }
  have hlights : ∀ job ∈ s.ready ++ jobs, job.isLight = true := fun job hjob =>
    (List.mem_append.mp hjob).elim (h.light job) (hlight job)
  have hfew := h.few
  obtain ⟨m, hm⟩ : ∃ m, n = m + (s.ready ++ jobs).length :=
    Nat.exists_eq_add_of_le' (by rw [List.length_append]; omega)
  obtain ⟨v, hstays, hstate, hsent, -, hjobs⟩ := doJobs_light (s := u)
    (show u.ready = (s.ready ++ jobs) ++ [] by rw [List.append_nil]; exact hready) hlights m
  have hdone : doJobs n u = v := by
    rw [hm, hjobs]
    exact doJobs_nothing m hstays.ready (hstays.waiting.trans (haside.waiting.trans h.waiting))
  have hattends := haside.attends h.toAttends
  have hasleep : v.asleep = none := hstays.asleep.trans (haside.asleep.trans h.asleep)
  rw [hdone]
  refine ⟨⟨⟨hstays.ready, ?_, ?_, ?_⟩, ?_, ?_⟩, hasleep, ?_, ?_, c, hc, ?_⟩
  · exact hstays.waiting.trans (haside.waiting.trans h.waiting)
  · exact (isLoading_of_state hstate).trans hidle
  · exact hstays.browser.pending.trans (haside.query.pending.trans h.settled)
  · exact hstays.aside.attends ⟨hattends.current, hattends.executor, hattends.willing,
      hattends.mode, hattends.plain⟩
  · rw [hstays.debouncer, hasleep]
    exact hlatest
  · exact (congrArg Debouncer.delay hstays.debouncer).trans hdelay
  · exact Relation.ReflTransGen.trans haside.config hstays.browser.config
  · exact (congrArg (List.filter Sent.counts) hsent).trans hcounts

/-- So it is when no run is left. -/
theorem Poised.settle (h : s.Poised number collection) (hlatest : s.debouncer.latest = none)
    (after : AfterLoad) (answered : List (Nat × Answer)) :
    Loads s ({ (s.reloadFirst after).1 with answered := answered } : Session).settle
      number collection := by
  obtain ⟨-, hdebouncer, hloads⟩ := h.loads after
  refine hloads (s.reloadFirst after).1.debouncer answered _ ?_ ?_
    (le_trans (by omega) (eight_le_jobLimit _))
  · rw [hdebouncer]
  · rw [hdebouncer, hlatest]

/-- A run whose delay is over loads the first page. -/
theorem Poised.due (h : s.Poised number collection) {run n : Nat}
    (hlatest : s.debouncer.latest = some run) (hn : 2 ≤ n) :
    Loads s (doJobs n (s.doJob (.due run))) number collection := by
  obtain ⟨⟨reply, hdone⟩, hdebouncer, hloads⟩ := h.loads .verdict
  have hjob : s.doJob (.due run) =
      { (s.reloadFirst .verdict).1 with
        debouncer := (s.reloadFirst .verdict).1.debouncer.settled run } := by
    change (s.reloadFirst .verdict).1.runAfter run (s.reloadFirst .verdict).2 = _
    rw [hdone]
    rfl
  rw [hjob]
  refine hloads _ _ n ?_ ?_ hn
  · rw [hdebouncer]
    unfold Debouncer.settled
    split <;> rfl
  · rw [hdebouncer]
    unfold Debouncer.settled
    rw [hlatest, if_pos (beq_self_eq_true _)]

/-! ## Time -/

/-- Lets time pass up to a point, as sleeping does; runs of the debouncer that are due by then come
first. -/
def waitUntil (s : Session) (time : Float) : Session := passUntil time (s.demand + 1) s

/-- Nothing happens when no run is due. -/
theorem waitUntil_still {time : Float} (h : ∀ entry, s.asleep = some entry → ¬ entry.1 ≤ time) :
    s.waitUntil time = { s with clock := time } := by
  unfold waitUntil passUntil
  split
  · rename_i due run hasleep
    rw [if_neg (h _ hasleep)]
  · rfl

theorem AtRest.at_clock (h : s.AtRest number collection) (time : Float) :
    ({ s with clock := time } : Session).AtRest number collection :=
  ⟨⟨h.ready, h.waiting, h.idle, h.settled⟩, ⟨h.current, h.executor, h.willing, h.mode, h.plain⟩,
    h.run⟩

/-- The first page is loaded when the delay of the run that is asleep is over. -/
theorem waitUntil_due (h : s.AtRest number collection) {due time : Float} {run : Nat}
    (hasleep : s.asleep = some (due, run)) (hdue : due ≤ time) :
    ∃ t, Loads s t number collection ∧ s.waitUntil time = { t with clock := time } := by
  let awake : Session := { s with clock := due, asleep := none }
  have hpoised : awake.Poised number collection :=
    ⟨⟨h.current, h.executor, h.willing, h.mode, h.plain⟩, h.waiting, h.idle, h.settled, rfl,
      (by rw [show awake.ready = [] from h.ready]; exact fun job hjob => by cases hjob),
      (by rw [show awake.ready = [] from h.ready]; exact Nat.zero_le 1)⟩
  have hlatest : awake.debouncer.latest = some run := by
    rw [show awake.debouncer = s.debouncer from rfl, h.run, hasleep]
    rfl
  have hspawned : (awake.spawn (.due run)).ready = [.due run] := by
    unfold spawn
    rw [show awake.ready = [] from h.ready]
    rfl
  have hback : ({ awake.spawn (.due run) with ready := [] } : Session) = awake := by
    unfold spawn
    rw [show awake = { awake with ready := [] } by
      rw [← show awake.ready = [] from h.ready]]
  obtain ⟨n, hn⟩ := Nat.exists_eq_add_of_le' (eight_le_jobLimit (awake.spawn (.due run)))
  have hwake : s.wake due run = doJobs (n + 7) (awake.doJob (.due run)) := by
    change doJobs (awake.spawn (.due run)).jobLimit (awake.spawn (.due run)) = _
    rw [hn, doJobs_cons (n + 7) hspawned, hback]
  have hloads := hpoised.due hlatest (show 2 ≤ n + 7 by omega)
  rw [← hwake] at hloads
  refine ⟨s.wake due run, ⟨hloads.rest, hloads.asleep, hloads.delay, hloads.config,
    hloads.counted⟩, ?_⟩
  unfold waitUntil passUntil
  simp only [hasleep, hdue, if_true]
  cases s.demand with
  | zero => rfl
  | succ m => simp only [passUntil, hloads.asleep]

/-- Time leaves the session at rest. -/
theorem AtRest.waitUntil (h : s.AtRest number collection) (time : Float) :
    (s.waitUntil time).AtRest number collection ∧ (s.waitUntil time).clock = time ∧
      (s.waitUntil time).debouncer.delay = s.debouncer.delay ∧
      s.browser.config.RetypedTo (s.waitUntil time).browser.config := by
  by_cases hdue : ∀ entry, s.asleep = some entry → ¬ entry.1 ≤ time
  · rw [waitUntil_still hdue]
    exact ⟨h.at_clock time, rfl, rfl, .refl _⟩
  · simp only [not_forall, not_not] at hdue
    obtain ⟨⟨due, run⟩, hasleep, hle⟩ := hdue
    obtain ⟨t, hloads, ht⟩ := waitUntil_due h hasleep hle
    rw [ht]
    exact ⟨hloads.rest.at_clock time, rfl, hloads.delay, hloads.config⟩

/-! ## Queries that are edited -/

/-- What an edit makes of a query; a filter is made with the attributes that are known then. -/
inductive Revises (s : Session) (c : QueryConfig) : Intent → QueryConfig → Prop
  | added {attr operator : String} {value : Value} {p : Predicate}
      (made : Predicate.make s.ensureAttributes.1.newId.2 attr operator value
        s.ensureAttributes.1.browser.registry = .ok p) :
      Revises s c (.addFilter attr operator value) { c with predicates := c.predicates ++ [p] }
  | updated {filter attr operator : String} {value : Value} {existing p : Predicate}
      (found : c.predicates.find? (·.id == filter) = some existing)
      (made : existing.replace attr operator value s.ensureAttributes.1.browser.registry = .ok p) :
      Revises s c (.updateFilter filter attr operator value)
        { c with predicates := c.predicates.map fun q => if q.id == existing.id then p else q }
  | removed {filter : String} {existing : Predicate}
      (found : c.predicates.find? (·.id == filter) = some existing) :
      Revises s c (.removeFilter filter)
        { c with predicates := c.predicates.filter (·.id != existing.id) }
  | cleared : Revises s c .clearFilters { c with predicates := [], searchText := "" }
  | searched (text : String) : Revises s c (.setSearchText text) { c with searchText := text }
  | sorted (attr : Option String) (direction : SortDirection) :
      Revises s c (.setSort attr direction) { c with sortAttr := attr, sortDirection := direction }

theorem Revises.kind_eq {c d : QueryConfig} {intent : Intent} (h : Revises s c intent d) :
    d.queryMode = c.queryMode ∧ d.aggregates = c.aggregates := by
  cases h <;> exact ⟨rfl, rfl⟩

/-- The run that is asleep is cancelled. -/
theorem cancelRun_eq (hwaiting : s.waiting = []) (hlight : ∀ job ∈ s.ready, job.isLight = true)
    (hrun : s.debouncer.latest = s.asleep.map (·.2)) :
    ∃ journal, s.cancelRun = { s with
      debouncer := { s.debouncer with latest := none }
      asleep := none
      journal := journal } := by
  cases hasleep : s.asleep with
  | none =>
    have hlatest : s.debouncer.latest = none := by
      rw [hrun, hasleep]
      rfl
    refine ⟨s.journal, (cancelRun_none hlatest).trans ?_⟩
    rw [← hasleep, ← hlatest]
  | some entry =>
    have hlatest : s.debouncer.latest = some entry.2 := by
      rw [hrun, hasleep]
      rfl
    have hready : s.ready.filter (abort.keeps entry.2 ·) = s.ready := by
      refine List.filter_eq_self.mpr fun job hjob => ?_
      have hjoblight := hlight job hjob
      cases job with
      | logRecent | discover => rfl
      | _ => cases hjoblight
    have hforgotten : s.asleep.filter (·.2 != entry.2) = none := by
      rw [hasleep, Option.filter_some, bne_self_eq_false, if_neg Bool.false_ne_true]
    refine ⟨(s.abort entry.2).journal, (cancelRun_some hlatest).trans ?_⟩
    unfold abort
    simp only [hready, hforgotten, hwaiting, List.filter_nil]

/-- A new query takes the place of the old one, and what waited is dropped. Then the first page can
be loaded. -/
theorem AtRest.turn (h : s.AtRest number collection) {d : QueryConfig}
    (hmode : d.queryMode = .browse) (hplain : d.aggregates = false) (filters : Bool) :
    let u := (s.reconfigure d filters).cancelRun
    u.Poised number collection ∧ u.browser.config = d ∧ u.counts = s.counts ∧ u.clock = s.clock ∧
      u.debouncer = { s.debouncer with latest := none } := by
  have hready : (s.reconfigure d filters).ready = if filters then [.logRecent] else [] := by
    unfold reconfigure renew update note spawn
    cases filters with
    | true => exact congrArg (· ++ [Job.logRecent]) h.ready
    | false => exact h.ready
  have hlight : ∀ job ∈ (s.reconfigure d filters).ready, job.isLight = true := by
    rw [hready]
    cases filters with
    | true => exact fun job hjob => by rw [List.mem_singleton.mp hjob]; rfl
    | false => exact fun job hjob => by cases hjob
  have hfew : (s.reconfigure d filters).ready.length ≤ 1 := by
    rw [hready]
    cases filters <;> simp
  have hrest : ∃ ready journal, s.reconfigure d filters = { s with
      browser := s.browser.reconfigure d, ready := ready, journal := journal } := by
    cases filters <;> exact ⟨_, _, rfl⟩
  generalize s.reconfigure d filters = t at *
  obtain ⟨ready, journal, ht⟩ := hrest
  obtain ⟨after, hcancelled⟩ := cancelRun_eq (s := t) (by rw [ht]; exact h.waiting) hlight
    (by rw [ht]; exact h.run)
  dsimp only
  rw [hcancelled]
  subst ht
  exact ⟨⟨⟨h.current, h.executor, h.willing, hmode, hplain⟩, h.waiting, h.idle, h.settled, rfl,
    hlight, hfew⟩, rfl, rfl, rfl, rfl⟩

/-- The first page is loaded by the query that an edit leads to. -/
structure Turns (s : Session) (number : Nat) (collection : String) (intent : Intent)
    (r : Session × Outcome Pause Reply) (d : QueryConfig) : Prop where
  revises : Revises s s.browser.config intent d
  loads : ∃ t : Session, t.Poised number collection ∧ t.browser.config = d ∧
    t.counts = s.counts ∧ t.debouncer = { s.debouncer with latest := none } ∧
    r = t.reloadFirst silently

/-- The query changes, perhaps after something was learned about attributes. -/
theorem AtRest.turns (hu : u.AtRest number collection)
    (hconfig : u.browser.config = s.browser.config) (hcounts : u.counts = s.counts)
    (hdebouncer : u.debouncer = s.debouncer) {d : QueryConfig} {intent : Intent}
    (hrevises : Revises s s.browser.config intent d) (filters : Bool) :
    Turns s number collection intent (u.change d filters silently) d := by
  obtain ⟨hmode, hplain⟩ := hrevises.kind_eq
  rw [← hconfig] at hmode hplain
  obtain ⟨hpoised, hnew, hsame, -, hdropped⟩ :=
    hu.turn (hmode.trans hu.mode) (hplain.trans hu.plain) filters
  exact ⟨hrevises, _, hpoised, hnew, hsame.trans hcounts, hdebouncer ▸ hdropped, rfl⟩

/-- So it is with other filters. -/
theorem AtRest.turnsFilters (hu : u.AtRest number collection)
    (hconfig : u.browser.config = s.browser.config) (hcounts : u.counts = s.counts)
    (hdebouncer : u.debouncer = s.debouncer) {f : List Predicate → List Predicate} {intent : Intent}
    (hrevises : Revises s s.browser.config intent
      { s.browser.config with predicates := f s.browser.config.predicates }) :
    Turns s number collection intent (u.changeFilters f)
      { s.browser.config with predicates := f s.browser.config.predicates } := by
  unfold changeFilters
  rw [hconfig]
  exact hu.turns hconfig hcounts hdebouncer hrevises true

/-- Getting to know the attributes leaves the session at rest. -/
theorem AtRest.ensured (h : s.AtRest number collection) :
    s.ensureAttributes.1.AtRest number collection ∧
      s.ensureAttributes.1.browser.config = s.browser.config ∧
      s.ensureAttributes.1.counts = s.counts ∧
      s.ensureAttributes.1.debouncer = s.debouncer := by
  have happrised := ensureAttributes_apprised s
  have hunmoved := happrised.unmoved
  refine ⟨⟨⟨hunmoved.ready.trans h.ready, hunmoved.waiting.trans h.waiting, ?_, ?_⟩,
    hunmoved.aside.attends h.toAttends, ?_⟩, happrised.unchanged.config, ?_,
    hunmoved.debouncer⟩
  · exact (isLoading_of_state hunmoved.state).trans h.idle
  · exact hunmoved.browser.pending.trans h.settled
  · rw [hunmoved.debouncer, hunmoved.asleep]
    exact h.run
  · exact congrArg (List.filter Sent.counts) happrised.sent

theorem AtRest.andThen_ensured {α : Type} (h : s.AtRest number collection)
    (left : SchemaQuery → α) (next : Session → Unit → Session × Outcome α Reply) :
    andThen s.ensureAttributes left next = next s.ensureAttributes.1 () := by
  rw [show s.ensureAttributes = (s.ensureAttributes.1, .done ()) from
    Prod.ext rfl (ensureAttributes_done h.toAttends)]
  rfl

/-- Every edit that does not wait is loaded at once, if it succeeds. -/
theorem AtRest.dispatch (h : s.AtRest number collection) {intent : Intent}
    (hedit : intent.isEdit = true) (hprompt : Intent.prompt intent = true) {reply : Reply}
    (hdone : (s.dispatch intent).2 = .done reply) :
    ∃ d, Turns s number collection intent (s.dispatch intent) d := by
  obtain ⟨hrest, hconfig, hcounts, hdebouncer⟩ := h.ensured
  cases intent with
  | addFilter attr operator value =>
    have hdispatch : s.dispatch (.addFilter attr operator value) =
        s.ensureAttributes.1.withAttributes (.addFilter attr operator value) :=
      h.andThen_ensured _ _
    rw [hdispatch] at hdone ⊢
    unfold withAttributes at hdone ⊢
    dsimp only at hdone ⊢
    split at hdone
    · rename_i p hmade
      have hnamed : s.ensureAttributes.1.newId.1.AtRest number collection :=
        ⟨⟨hrest.ready, hrest.waiting, hrest.idle, hrest.settled⟩,
          ⟨hrest.current, hrest.executor, hrest.willing, hrest.mode, hrest.plain⟩, hrest.run⟩
      exact ⟨_, hnamed.turnsFilters hconfig hcounts hdebouncer (.added hmade)⟩
    · cases hdone
  | updateFilter filter attr operator value =>
    have hdispatch : s.dispatch (.updateFilter filter attr operator value) =
        s.withFilter filter fun existing => Session.andThen s.ensureAttributes
          (.schema · (.replaceFilter existing attr operator value))
          fun s _ => s.withAttributes (.replaceFilter existing attr operator value) := rfl
    rw [hdispatch] at hdone ⊢
    unfold withFilter at hdone ⊢
    cases hfound : s.browser.findFilter? filter with
    | none =>
      rw [hfound] at hdone
      cases hdone
    | some existing =>
      rw [hfound] at hdone
      dsimp only at hdone ⊢
      rw [h.andThen_ensured] at hdone ⊢
      unfold withAttributes at hdone ⊢
      dsimp only at hdone ⊢
      split at hdone
      · rename_i p hmade
        exact ⟨_, hrest.turnsFilters hconfig hcounts hdebouncer (.updated hfound hmade)⟩
      · cases hdone
  | removeFilter filter =>
    have hdispatch : s.dispatch (.removeFilter filter) = s.withFilter filter fun existing =>
        s.changeFilters (·.filter (·.id != existing.id)) := rfl
    rw [hdispatch] at hdone ⊢
    unfold withFilter at hdone ⊢
    cases hfound : s.browser.findFilter? filter with
    | none =>
      rw [hfound] at hdone
      cases hdone
    | some existing => exact ⟨_, h.turnsFilters rfl rfl rfl (.removed hfound)⟩
  | clearFilters => exact ⟨_, h.turns rfl rfl rfl .cleared true⟩
  | setSort attr direction => exact ⟨_, h.turns rfl rfl rfl (.sorted attr direction) false⟩
  | setSearchText text => cases hprompt
  | _ => cases hedit

/-! ## One edit after another -/

/-- An edit of the query that a client asks for at a time. -/
structure Edit where
  time : Float
  client : Nat
  given : Value
  intent : Intent
  read : Intent.read given = .ok intent
  isEdit : intent.isEdit = true

namespace Edit

/-- Whether the edit waits for the next one. -/
def waits (e : Edit) : Bool := !Intent.prompt e.intent

/-- Only the search text is waited for. -/
theorem searches_of_waits {e : Edit} (h : e.waits = true) :
    ∃ text, e.intent = .setSearchText text := by
  unfold waits at h
  cases hintent : e.intent with
  | setSearchText text => exact ⟨text, rfl⟩
  | _ =>
    rw [hintent] at h
    cases h

/-- When the first page is loaded for an edit, if no other one comes before: at once, unless it has
to wait. -/
def due (e : Edit) (delay : Float) : Float :=
  if e.waits && !(delay ≤ 0.0) then e.time + delay else e.time

theorem due_of_prompt {e : Edit} (h : e.waits = false) (delay : Float) : e.due delay = e.time := by
  unfold due
  rw [h, Bool.false_and, if_neg Bool.false_ne_true]

end Edit

/-- Time passes until an edit is asked for, which is made then. -/
def edit (s : Session) (e : Edit) : Session :=
  (s.waitUntil e.time).ask e.client (.dispatch e.given)

/-- The edit does not fail. -/
def Accepts (s : Session) (e : Edit) : Prop :=
  ∃ reply, ((s.waitUntil e.time).perform (.dispatch e.given)).2 = .done reply

/-- An edit has been made that is loaded once, when it is due. -/
structure Takes (s t : Session) (number : Nat) (collection : String) (e : Edit) (d : QueryConfig) :
    Prop where
  revises : Revises s s.browser.config e.intent d
  rest : t.AtRest number collection
  delay : t.debouncer.delay = s.debouncer.delay
  config : d.RetypedTo t.browser.config
  counted : ∀ time, e.time ≤ time → ∃ c, d.RetypedTo c ∧ (t.waitUntil time).counts =
    s.counts ++ if e.due s.debouncer.delay ≤ time then [.ofCount number collection c] else []

theorem ask_eq (client : Nat) {command : Command} {reply : Reply}
    (h : (s.perform command).2 = .done reply) :
    ∃ answered, s.ask client command =
      ({ (s.perform command).1 with answered := answered } : Session).settle := by
  have hperform : s.perform command = ((s.perform command).1, .done reply) := Prod.ext rfl h
  refine ⟨(s.perform command).1.answered ++ [(client, .ok reply)], ?_⟩
  unfold ask run serve
  rw [hperform]
  rfl

theorem perform_edit (s : Session) (e : Edit) :
    s.perform (.dispatch e.given) = s.dispatch e.intent := by
  change s.orRaise (Intent.read e.given) s.dispatch = _
  rw [e.read]
  rfl

/-- The first page has been loaded for an edit that was made. -/
theorem Takes.of_loads {e : Edit} {d : QueryConfig}
    (hrevises : Revises s s.browser.config e.intent d) (hloads : Loads t u number collection)
    (hcounts : t.counts = s.counts) (hdelay : t.debouncer.delay = s.debouncer.delay)
    (hconfig : d.RetypedTo t.browser.config) (hdue : e.due s.debouncer.delay = e.time) :
    Takes s u number collection e d := by
  obtain ⟨hrest, hasleep, hkept, hfinal, c, hc, hnew⟩ := hloads
  refine ⟨hrevises, hrest, hkept.trans hdelay, Relation.ReflTransGen.trans hconfig hfinal,
    fun time htime => ⟨c, Relation.ReflTransGen.trans hconfig hc, ?_⟩⟩
  have hstill : u.waitUntil time = { u with clock := time } := by
    refine waitUntil_still fun entry hentry => ?_
    rw [hasleep] at hentry
    cases hentry
  rw [hdue, if_pos htime, ← hcounts, hstill]
  exact hnew

/-- The first page will be loaded when the delay of an edit is over. -/
theorem Takes.of_asleep {e : Edit} {d : QueryConfig} {run : Nat}
    (hrevises : Revises s s.browser.config e.intent d) (hrest : t.AtRest number collection)
    (hcounts : t.counts = s.counts) (hdelay : t.debouncer.delay = s.debouncer.delay)
    (hconfig : d.RetypedTo t.browser.config)
    (hasleep : t.asleep = some (e.due s.debouncer.delay, run)) :
    Takes s t number collection e d := by
  refine ⟨hrevises, hrest, hdelay, hconfig, fun time htime => ?_⟩
  by_cases hdue : e.due s.debouncer.delay ≤ time
  · obtain ⟨u, hloads, hwait⟩ := waitUntil_due hrest hasleep hdue
    obtain ⟨c, hc, hnew⟩ := hloads.counted
    refine ⟨c, Relation.ReflTransGen.trans hconfig hc, ?_⟩
    rw [hwait, if_pos hdue, ← hcounts]
    exact hnew
  · have hstill : t.waitUntil time = { t with clock := time } := by
      refine waitUntil_still fun entry hentry => ?_
      rw [hasleep] at hentry
      rwa [← Option.some.inj hentry]
    refine ⟨d, .refl d, ?_⟩
    rw [hstill, if_neg hdue, List.append_nil]
    exact hcounts

/-- An edit that does not wait is loaded when it is made. -/
theorem AtRest.takes_prompt (h : s.AtRest number collection) {e : Edit} (hwaits : e.waits = false)
    {reply : Reply} (hdone : (s.dispatch e.intent).2 = .done reply) :
    ∃ d, Takes s (s.ask e.client (.dispatch e.given)) number collection e d := by
  have hprompt : Intent.prompt e.intent = true := by
    unfold Edit.waits at hwaits
    rwa [Bool.not_eq_false'] at hwaits
  obtain ⟨d, hrevises, t, hpoised, hconfig, hcounts, hdebouncer, hturned⟩ :=
    h.dispatch e.isEdit hprompt hdone
  rw [← perform_edit] at hdone
  obtain ⟨answered, hask⟩ := ask_eq e.client hdone
  rw [perform_edit, hturned] at hask
  have hloads := hpoised.settle (congrArg Debouncer.latest hdebouncer) silently answered
  rw [← hask] at hloads
  exact ⟨d, .of_loads hrevises hloads hcounts (by rw [hdebouncer]) (hconfig ▸ .refl _)
    (Edit.due_of_prompt hwaits _)⟩

/-- A run that is scheduled sleeps until its delay is over, or loads the first page at once if it
has none. -/
theorem Poised.schedule (h : s.Poised number collection) (hready : s.ready = []) {run n : Nat}
    (hlatest : s.debouncer.latest = some run) (hn : 3 ≤ n) :
    if s.debouncer.sleeps then
      doJobs n (s.doJob (.scheduled run)) =
        { s with asleep := some (s.debouncer.due s.clock, run) }
    else Loads s (doJobs n (s.doJob (.scheduled run))) number collection := by
  have hjob : s.doJob (.scheduled run) =
      if s.debouncer.sleeps then { s with asleep := some (s.debouncer.due s.clock, run) }
      else s.spawn (.due run) := rfl
  rw [hjob]
  split
  · exact doJobs_nothing n hready h.waiting
  · obtain ⟨m, rfl⟩ := Nat.exists_eq_add_of_le' hn
    have hspawned : (s.spawn (.due run)).ready = [.due run] := by
      unfold spawn
      rw [hready]
      rfl
    have hback : ({ s.spawn (.due run) with ready := [] } : Session) = s := by
      unfold spawn
      rw [← hready]
    rw [doJobs_cons (m + 2) hspawned, hback]
    exact h.due hlatest (Nat.le_add_left 2 m)

/-- What is ready is done before a run that is scheduled then. -/
theorem Poised.settle_scheduled (h : s.Poised number collection) (debouncer : Debouncer) (run : Nat)
    (answered : List (Nat × Answer)) :
    ∃ (t : Session) (n : Nat), ({ s with
        debouncer := debouncer
        ready := s.ready ++ [.scheduled run]
        answered := answered } : Session).settle = doJobs n (t.doJob (.scheduled run)) ∧ 3 ≤ n ∧
      t.Poised number collection ∧ t.ready = [] ∧ t.debouncer = debouncer ∧ t.clock = s.clock ∧
      t.counts = s.counts ∧ s.browser.config.RetypedTo t.browser.config := by
  let u : Session := { s with
    debouncer := debouncer
    ready := s.ready ++ [.scheduled run]
    answered := answered }
  have hfew := h.few
  have hlimit := eight_le_jobLimit u
  obtain ⟨n, hn⟩ : ∃ n, u.jobLimit = (n + 4) + s.ready.length :=
    ⟨u.jobLimit - 4 - s.ready.length, by omega⟩
  obtain ⟨t, hstays, hstate, hsent, hclock, hjobs⟩ :=
    doJobs_light (s := u) (show u.ready = s.ready ++ [.scheduled run] from rfl) h.light (n + 4)
  have hsettle : u.settle = doJobs (n + 3) (({ t with ready := [] } : Session).doJob
      (.scheduled run)) := by
    change doJobs u.jobLimit u = _
    rw [hn, hjobs]
    exact doJobs_cons (n + 3) hstays.ready
  have hattends : t.Attends number collection :=
    hstays.aside.attends ⟨h.current, h.executor, h.willing, h.mode, h.plain⟩
  refine ⟨{ t with ready := [] }, n + 3, hsettle, Nat.le_add_left 3 n, ⟨⟨hattends.current,
    hattends.executor, hattends.willing, hattends.mode, hattends.plain⟩,
    hstays.waiting.trans h.waiting, (isLoading_of_state hstate).trans h.idle,
    hstays.browser.pending.trans h.settled, hstays.asleep.trans h.asleep,
    (fun job hjob => by cases hjob), Nat.zero_le 1⟩, rfl, hstays.debouncer, hclock, ?_,
    hstays.browser.config⟩
  exact congrArg (List.filter Sent.counts) hsent

/-- A run is about to be scheduled, and nothing else is left to be done before the first page can be
loaded by a query. -/
structure Schedules (s u : Session) (number : Nat) (collection : String) (d : QueryConfig)
    (run : Nat) : Prop extends Poised u number collection where
  ready : u.ready = []
  latest : u.debouncer.latest = some run
  delay : u.debouncer.delay = s.debouncer.delay
  clock : u.clock = s.clock
  counts : u.counts = s.counts
  config : d.RetypedTo u.browser.config

/-- Whoever edits the search text schedules a run. -/
theorem AtRest.schedules (h : s.AtRest number collection) {given : Value} {text : String}
    (hread : Intent.read given = .ok (.setSearchText text)) (client : Nat) :
    ∃ u run n, s.ask client (.dispatch given) = doJobs n (u.doJob (.scheduled run)) ∧ 3 ≤ n ∧
      Schedules s u number collection { s.browser.config with searchText := text } run := by
  let d : QueryConfig := { s.browser.config with searchText := text }
  obtain ⟨hpoised, hconfig, hcounts, hclock, hdebouncer⟩ := h.turn (d := d) h.mode h.plain true
  generalize ht : (s.reconfigure d true).cancelRun = t at *
  have hperform : s.perform (.dispatch given) =
      (({ t with debouncer := t.debouncer.schedule } : Session).spawn
        (.scheduled t.debouncer.issued), .done .nothing) := by
    change s.orRaise (Intent.read given) s.dispatch = _
    rw [hread, ← ht]
    rfl
  obtain ⟨answered, hask⟩ := ask_eq client (congrArg Prod.snd hperform)
  rw [hperform] at hask
  obtain ⟨u, n, hsettle, hn, hready, hempty, hscheduled, huclock, hucounts, huconfig⟩ :=
    hpoised.settle_scheduled t.debouncer.schedule t.debouncer.issued answered
  have hdelay : t.debouncer.schedule.delay = s.debouncer.delay := by
    rw [hdebouncer]
    rfl
  rw [hconfig] at huconfig
  exact ⟨u, t.debouncer.issued, n, hask.trans hsettle, hn, hready, hempty, hscheduled ▸ rfl,
    hscheduled ▸ hdelay, huclock.trans hclock, hucounts.trans hcounts, huconfig⟩

/-- An edit of the search text is loaded when its delay is over. -/
theorem AtRest.takes_search (h : s.AtRest number collection) {e : Edit} (hclock : s.clock = e.time)
    (hwaits : e.waits = true) :
    ∃ d, Takes s (s.ask e.client (.dispatch e.given)) number collection e d := by
  obtain ⟨text, htext⟩ := Edit.searches_of_waits hwaits
  obtain ⟨u, run, n, hask, hn, hu⟩ := h.schedules (htext ▸ e.read) e.client
  have hdue : e.due s.debouncer.delay =
      if u.debouncer.sleeps then u.debouncer.due u.clock else e.time := by
    unfold Edit.due Debouncer.sleeps Debouncer.due
    rw [hwaits, Bool.true_and, hu.delay, hu.clock, hclock]
  have hrevises : Revises s s.browser.config e.intent
      { s.browser.config with searchText := text } := htext ▸ .searched text
  have hloaded := hu.schedule hu.ready hu.latest hn
  rw [← hask] at hloaded
  refine ⟨{ s.browser.config with searchText := text }, ?_⟩
  split at hloaded
  · rename_i hsleeps
    rw [if_pos hsleeps] at hdue
    rw [hloaded]
    have hrest : ({ u with asleep := some (u.debouncer.due u.clock, run) } : Session).AtRest
        number collection :=
      ⟨⟨hu.ready, hu.waiting, hu.idle, hu.settled⟩, ⟨hu.current, hu.executor, hu.willing, hu.mode,
        hu.plain⟩, hu.latest⟩
    exact .of_asleep hrevises hrest hu.counts hu.delay hu.config (by rw [hdue])
  · rename_i hawake
    rw [if_neg hawake] at hdue
    exact .of_loads hrevises hloaded hu.counts hu.delay hu.config hdue

/-- Whatever an edit is, it is loaded once. -/
theorem AtRest.takes (h : s.AtRest number collection) {e : Edit} (haccepts : s.Accepts e) :
    ∃ d, Takes (s.waitUntil e.time) (s.edit e) number collection e d := by
  obtain ⟨hrest, hclock, -, -⟩ := h.waitUntil e.time
  obtain ⟨reply, hdone⟩ := haccepts
  cases hwaits : e.waits with
  | true => exact hrest.takes_search hclock hwaits
  | false =>
    rw [perform_edit] at hdone
    exact hrest.takes_prompt hwaits hdone

end Session

end Folio
