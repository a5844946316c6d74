-- What a load leaves behind that is out of date when its answer comes. The page that is shown, the
-- walk and the pages that were kept stay as they are. Only a failure is shown all the same.
import Folio.Proofs.Course

open Relation (ReflTransGen)

namespace Folio.Session

variable {s t : Session} {load : Load} {plan : PagePlan} {r : Session × Outcome LoadPause Bool}

/-! ## The failure that a load meets -/

/-- The failure that the answer to a request is. -/
def answerFault (s : Session) (sent : Sent) : Option Fault :=
  match (s.respond sent).2 with
  | .ok _ => none
  | .error f => some f

/-- The failure that a load meets when it asks for the page, if the answer does not have to wait. -/
def fetchFault (s : Session) (load : Load) (plan : PagePlan) : Option Fault :=
  let (s, sent) := s.request load.collection plan.request
  if s.isHeld sent.backend then none else s.answerFault sent

/-- The failure that a load meets when its documents are counted, or when it asks for the page
then. -/
def countFault (s : Session) (sent : Sent) (load : Load) (plan : PagePlan) : Option Fault :=
  match s.respond sent with
  | (_, .error f) => some f
  | (s, .ok response) =>
    match View.countIn Query.countLabel response with
    | .error f => some (.failure f)
    | .ok _ => s.fetchFault load plan

/-- The failure that a load meets when it is gone on with. -/
def faultMet (s : Session) : LoadPause → Option Fault
  | .schema _ _ => none
  | .count sent load plan => s.countFault sent load plan
  | .page sent _ _ _ => s.answerFault sent

/-! ## What stays -/

/-- Browsers that show the same page, stand at the same place and have kept the same pages. -/
structure SamePage (b c : Browser) : Prop where
  view : c.view = b.view
  unfiltered : c.unfiltered = b.unfiltered
  paging : c.paging = b.paging
  cache : c.cache = b.cache

/-- The problem that is shown when a load has met a failure, or none. -/
def problemAfter (b : Browser) (fault : Option Fault) : Option Problem :=
  fault.elim b.problem fun f => some ⟨b.problems, (Fault.browser (classify f)).info⟩

/-- A load has shown no rows, and no more than the failure it has met. -/
structure ShowsAtMost (b : Browser) (fault : Option Fault)
    (r : Session × Outcome LoadPause Bool) : Prop where
  page : SamePage b r.1.browser
  problem : r.1.browser.problem = problemAfter b fault
  unshown : r.2 ≠ .done true

theorem ShowsAtMost.resting (s : Session) :
    ShowsAtMost s.browser none (s.update (·.rest), .done false) :=
  ⟨⟨rfl, rfl, rfl, rfl⟩, rfl, by simp⟩

theorem ShowsAtMost.failing (s : Session) (f : Fault) :
    ShowsAtMost s.browser (some f) (s.failLoad f) := ⟨⟨rfl, rfl, rfl, rfl⟩, rfl, by simp [failLoad]⟩

/-- A load that has to wait has shown nothing. -/
theorem ShowsAtMost.pausing (s : Session) (p : LoadPause) :
    ShowsAtMost s.browser none (s, .paused p) := ⟨⟨rfl, rfl, rfl, rfl⟩, rfl, by simp⟩

/-! ## The parts of a load that is out of date -/

-- A load that goes on does not wait again where it has waited, whatever is held by then. Strides leave
-- that open, so the parts of the load are followed here one by one.

/-- The generation has changed since a load began. -/
def OutOfDate (s : Session) (load : Load) : Prop := load.generation ≠ s.browser.generation

theorem OutOfDate.ne (h : s.OutOfDate load) : (s.browser.generation != load.generation) = true :=
  bne_iff_ne.mpr (Ne.symm h)

theorem prepare_outOfDate (h : s.OutOfDate load) : s.prepare load = (s.update (·.rest), .done false) := by
  unfold prepare
  rw [if_pos h.ne]

theorem receive_outOfDate (h : s.OutOfDate load) (sent : Sent) (total : Int) (response : Value) :
    s.receive sent load plan total response = (s.update (·.rest), .done false) := by
  unfold receive
  rw [if_pos h.ne]

theorem fetched_shows (h : s.OutOfDate load) (sent : Sent) (total : Int) :
    ShowsAtMost s.browser (s.answerFault sent) (s.fetched sent load plan total) := by
  unfold fetched answerFault
  cases hr : s.respond sent with
  | mk t answer =>
    have hbrowser := respond_browser hr
    rw [← hbrowser]
    cases answer with
    | error f => exact .failing t f
    | ok response =>
      have hout : t.OutOfDate load := by
        unfold OutOfDate
        rwa [hbrowser]
      dsimp only
      rw [receive_outOfDate hout]
      exact .resting t

theorem answerFault_note (s : Session) (event : LoadEvent) (sent : Sent) :
    (s.note event).answerFault sent = s.answerFault sent := by
  have hbackend : (s.note event).backend? sent.backend = s.backend? sent.backend := rfl
  unfold answerFault respond onBackend
  rw [hbackend]
  cases s.backend? sent.backend <;> rfl

/-- The page is asked for even though the load is out of date. -/
theorem fetch_shows (h : s.OutOfDate load) (plan : PagePlan) (total : Int) :
    ShowsAtMost s.browser (s.fetchFault load plan) (s.fetch load plan total) := by
  have hbrowser : (s.request load.collection plan.request).1.browser = s.browser := rfl
  unfold fetch fetchFault
  cases hr : s.request load.collection plan.request with
  | mk t sent =>
    rw [hr] at hbrowser
    dsimp only at hbrowser ⊢
    rw [← hbrowser]
    have hheld : (t.note (.asked sent load plan)).isHeld sent.backend = t.isHeld sent.backend := rfl
    rw [hheld]
    by_cases hwait : t.isHeld sent.backend = true
    · rw [if_pos hwait, if_pos hwait]
      exact .pausing (t.note (.asked sent load plan)) _
    · rw [if_neg hwait, if_neg hwait, ← answerFault_note t (.asked sent load plan)]
      apply fetched_shows (s := t.note (.asked sent load plan))
      unfold OutOfDate note
      rwa [hbrowser]

theorem counted_shows (h : s.OutOfDate load) (sent : Sent) (plan : PagePlan) :
    ShowsAtMost s.browser (s.countFault sent load plan) (s.counted sent load plan) := by
  unfold counted countFault
  cases hr : s.respond sent with
  | mk t answer =>
    have hbrowser := respond_browser hr
    rw [← hbrowser]
    cases answer with
    | error f => exact .failing t f
    | ok response =>
      dsimp only
      cases View.countIn Query.countLabel response with
      | error f => exact .failing t (.failure f)
      | ok total =>
        apply fetch_shows
        unfold OutOfDate
        rwa [hbrowser]

theorem proceed_shows {p : LoadPause} (h : s.OutOfDate p.load) :
    ShowsAtMost s.browser (s.faultMet p) (s.proceed p) := by
  cases p with
  | schema query load =>
    -- What is learned from a schema is neither shown nor kept.
    obtain ⟨registry, known, happrised⟩ := takeSchema_apprised s query
    have hproceed : s.proceed (.schema query load) = (s.takeSchema query).1.orRaise
      (s.takeSchema query).2 fun _ => (s.takeSchema query).1.prepare load := rfl
    rw [hproceed]
    cases (s.takeSchema query).2 with
    | error f =>
      rw [happrised]
      exact ⟨⟨rfl, rfl, rfl, rfl⟩, rfl, by simp [orRaise]⟩
    | ok known =>
      have hout : (s.takeSchema query).1.OutOfDate load := by
        rw [happrised]
        exact h
      dsimp only [orRaise]
      rw [prepare_outOfDate hout, happrised]
      exact ⟨⟨rfl, rfl, rfl, rfl⟩, rfl, by simp⟩
  | count sent load plan => exact counted_shows h sent plan
  | page sent load plan total => exact fetched_shows h sent total

theorem continueLoad_shows {p : LoadPause} (h : s.OutOfDate p.load) :
    ShowsAtMost s.browser (s.faultMet p) (s.continueLoad p) := by
  obtain ⟨hpage, hproblem, hunshown⟩ := proceed_shows h
  unfold continueLoad
  cases hr : s.proceed p with
  | mk t outcome =>
    rw [hr] at hpage hproblem hunshown
    cases outcome <;> exact ⟨hpage, hproblem, hunshown⟩

/-! ## The law -/

/-- Whatever the query has become since a load began, and whatever its backend answers: a load that
is out of date shows no rows, and leaves the page that is shown, the walk and the pages that were
kept as they are. It leaves the problem that is shown unless it has met a failure, which is shown
then. -/
theorem stale_load_shows_its_failure_only (s : Session) (p : LoadPause) (h : s.OutOfDate p.load) :
    SamePage s.browser (s.continueLoad p).1.browser ∧
      (s.continueLoad p).1.browser.problem = problemAfter s.browser (s.faultMet p) ∧
      (s.continueLoad p).2 ≠ .done true := by
  have hshows := continueLoad_shows h
  exact ⟨hshows.page, hshows.problem, hshows.unshown⟩

/-! ## A failure that is shown too late -/

/-- A browser of two collections in one store. -/
def twoCollections : Session :=
  .start (.start .default (some "main") (some "docs") (some 0) none)
    [.ofSource (.store ⟨[("docs", [⟨.int 1, [("id", .int 1)]⟩]), ("other", [])], []⟩ true)] none

/-- While a load is out its backend is told to fail, and another collection is selected. -/
def leftCollection : Session :=
  [.backend 0 .hold, .load .null false, .backend 0 (.failNext (.failure (.unreachable "main"))),
    .dispatch (.object [("kind", .text "set_namespace"), ("namespace_id", .text "other")])].foldl
    (fun s command => s.ask 1 command) twoCollections

theorem leftCollection_eq :
    leftCollection.pauses.map (·.load.generation) = [0] ∧ leftCollection.browser.generation = 1 ∧
      leftCollection.browser.problem.isNone ∧
      leftCollection.pauses.map (fun p => (leftCollection.faultMet p).isSome) = [true] := by
  decide +kernel

/-- The load that is out is the only one, and out of date. -/
theorem leftCollection_load : ∃ p, leftCollection.pauses = [p] ∧ leftCollection.OutOfDate p.load ∧
    (leftCollection.faultMet p).isSome := by
  obtain ⟨hgenerations, hgeneration, -, hfaults⟩ := leftCollection_eq
  obtain ⟨p, hp, hzero⟩ := List.map_eq_singleton_iff.mp hgenerations
  refine ⟨p, hp, ?_, ?_⟩
  · unfold OutOfDate
    rw [hzero, hgeneration]
    decide
  · rw [hp] at hfaults
    simpa using hfaults

/-- A failure of the collection that was left is shown with the one that was selected. -/
theorem failure_is_shown_too_late :
    ReflTransGen (Step fun _ => True) twoCollections leftCollection ∧
      ∃ p ∈ leftCollection.pauses, leftCollection.OutOfDate p.load ∧
        (leftCollection.continueLoad p).1.browser.problem ≠ leftCollection.browser.problem := by
  obtain ⟨p, hp, hout, hfault⟩ := leftCollection_load
  obtain ⟨-, -, hnone, -⟩ := leftCollection_eq
  refine ⟨course_foldl_ask (fun _ _ => trivial) twoCollections, p, by simp [hp], hout, ?_⟩
  obtain ⟨f, hf⟩ := Option.isSome_iff_exists.mp hfault
  rw [(continueLoad_shows hout).problem, hf, Option.isNone_iff_eq_none.mp hnone]
  simp [problemAfter]

/-- Nothing but this failure is shown of it. -/
theorem left_collection_shows_nothing_else : ∃ p ∈ leftCollection.pauses,
    leftCollection.OutOfDate p.load ∧
    SamePage leftCollection.browser (leftCollection.continueLoad p).1.browser ∧
    (leftCollection.continueLoad p).1.browser.problem =
      problemAfter leftCollection.browser (leftCollection.faultMet p) ∧
    (leftCollection.faultMet p).isSome := by
  obtain ⟨p, hp, hout, hfault⟩ := leftCollection_load
  obtain ⟨hpage, hproblem, -⟩ := stale_load_shows_its_failure_only leftCollection p hout
  exact ⟨p, by simp [hp], hout, hpage, hproblem, hfault⟩

end Folio.Session
