-- Failures that are shown. A failure stands beside the state of the latest load, and the two go
-- together until something touches only one of them. Two things do: a connection that is made takes a
-- failure away and leaves the state, and a load that is out of date takes the state away and leaves
-- the failure of something else.
import Mathlib.Data.List.Induction
import Folio.Proofs.OneOperation
import Folio.Proofs.Strides

namespace Folio

/-- What may be said of a state and the failure beside it, whatever has been loaded or has failed. -/
structure Fair (P : LoadState → Option Problem → Prop) : Prop where
  calm : ∀ state, state ≠ .failed → P state none
  failed : ∀ problem, P .failed (some problem)

/-- What is said of the failure that a browser shows. -/
def Browser.Shows (P : LoadState → Option Problem → Prop) (b : Browser) : Prop :=
  P b.state b.problem

namespace Leg

/-- Whether a load has stopped, at its end or to wait. -/
def hasStopped : Leg → Bool
  | stops _ _ | .over _ => true
  | _ => false

/-- Whether a load has come to its end. -/
def isDone : Leg → Bool
  | stops _ (.done _) | .over (.done _) => true
  | _ => false

theorem goes_on {leg : Leg} {load : Load} (h : leg.load? = some load) :
    leg.hasStopped = false ∧ leg.isDone = false := by
  cases leg <;> first | exact ⟨rfl, rfl⟩ | cases h

end Leg

namespace Session

variable {P : LoadState → Option Problem → Prop} {s t : Session} {load : Load} {leg : Leg}
  {allowed : Command → Prop}

theorem SameBearings.shows (h : SameBearings s t) (hs : s.browser.Shows P) : t.browser.Shows P := by
  have hstate : t.browser.state = s.browser.state := congrArg Bearings.state h.bearings
  have hproblem : t.browser.problem = s.browser.problem := congrArg Bearings.problem h.bearings
  rwa [Browser.Shows, hstate, hproblem]

/-! ## What is done apart from loads -/

theorem useBackend_shown (s : Session) (connection : String) (backend : Nat) :
    (s.useBackend connection backend).browser.state = s.browser.state ∧
      (s.useBackend connection backend).browser.problem = none := by
  obtain ⟨cache, unfiltered, hbrowser, -⟩ := useBackend_browser s connection backend
  rw [hbrowser]
  exact ⟨rfl, rfl⟩

/-- Only connecting takes a failure away and leaves the state. -/
theorem Doing.shows (hP : Fair P) (hconnect : ∀ connection, allowed (.connect connection) →
    ∀ state problem, P state problem → P state none) (hdoing : Doing allowed s t)
    (hs : s.browser.Shows P) : t.browser.Shows P := by
  cases hdoing with
  | beside same => exact same.shows hs
  | send ask => exact hs
  | trouble f => exact hP.failed _
  | @renew f starts =>
    change (f s.browser).Shows P
    rwa [Browser.Shows, starts.state, starts.problem]
  | select collection =>
    obtain ⟨history, hbrowser⟩ := selectCollection_browser s collection
    rw [hbrowser]
    exact hP.calm .idle (by decide)
  | @connect connection ask backend =>
    obtain ⟨hstate, hproblem⟩ := useBackend_shown s connection backend
    rw [Browser.Shows, hstate, hproblem]
    exact hconnect connection ask _ _ hs
  | putOff loading => exact hs

theorem Doings.shows (hP : Fair P) (hconnect : ∀ connection, allowed (.connect connection) →
    ∀ state problem, P state problem → P state none) (hdoings : Doings allowed s t)
    (hs : s.browser.Shows P) : t.browser.Shows P := by
  induction hdoings with
  | refl => exact hs
  | tail _ hlast ih => exact hlast.shows hP hconnect ih

/-! ## Loads on their way -/

/-- What a load has made of the state and of the failure that were shown. -/
inductive Made (b c : Browser) (load : Load) : Leg → Prop where
  /-- Nothing so far. -/
  | nothing {leg : Leg} (state : c.state = b.state) (problem : c.problem = b.problem) :
      Made b c load leg
  | page {leg : Leg} (done : leg.isDone = true) (state : c.state = .success)
      (problem : c.problem = none) : Made b c load leg
  | failure {leg : Leg} (done : leg.isDone = true) (state : c.state = .failed)
      (problem : c.problem.isSome) : Made b c load leg
  | rest {leg : Leg} (done : leg.isDone = true) (late : b.generation ≠ load.generation)
      (state : c.state = .idle) (problem : c.problem = b.problem) : Made b c load leg

theorem closing_still (load : Load) (r : Session × Outcome LoadPause Bool) :
    (closing load r).1.browser = r.1.browser ∧ (closing load r).2 = r.2 := by
  obtain ⟨t, outcome⟩ := r
  cases outcome <;> exact ⟨rfl, rfl⟩

/-- A load that is on its way, or has stopped. -/
structure OnItsWay (b : Browser) (load : Load) (s : Session) (leg : Leg) : Prop where
  pending : s.browser.reloadPending = b.reloadPending
  collection : s.browser.collection = b.collection
  generation : s.browser.generation = b.generation
  own : leg.load? = some load ∨ leg.hasStopped = true
  made : Made b s.browser load leg

namespace OnItsWay

variable {b : Browser}

theorem refl (s : Session) (hload : leg.load? = some load) : OnItsWay s.browser load s leg where
  pending := rfl
  collection := rfl
  generation := rfl
  own := .inl hload
  made := .nothing rfl rfl

/-- As long as a load goes on it is this one, and makes nothing of what is shown. -/
theorem unmade {own : Load} (h : OnItsWay b load s leg) (goes : leg.load? = some own) :
    own = load ∧ s.browser.state = b.state ∧ s.browser.problem = b.problem := by
  obtain ⟨hstopped, hdone⟩ := Leg.goes_on goes
  refine ⟨?_, ?_⟩
  · rcases h.own with hown | hover
    · exact Option.some.inj (goes.symm.trans hown)
    · rw [hstopped] at hover
      cases hover
  · cases h.made with
    | nothing state problem => exact ⟨state, problem⟩
    | page done | failure done | rest done =>
      rw [hdone] at done
      cases done

/-- A load comes to its end. -/
theorem ends {own : Load} {next : Leg} {config : QueryConfig}
    {paging : Paging} {state : LoadState} {problem : Option Problem} (h : OnItsWay b load s leg)
    (goes : leg.load? = some own) (stopped : next.hasStopped = true)
    (same : t.browser.bearings = { s.browser.bearings with
      config := config, paging := paging, state := state, problem := problem })
    (made : own = load → s.browser.problem = b.problem → Made b t.browser load next) :
    OnItsWay b load t next where
  pending := (congrArg Bearings.reloadPending same).trans h.pending
  collection := (congrArg Bearings.collection same).trans h.collection
  generation := (congrArg Bearings.generation same).trans h.generation
  own := .inr stopped
  made := made (h.unmade goes).1 (h.unmade goes).2.2

/-- All but the query and the walk is as it was. -/
theorem still {own : Load} {next : Leg} {config : QueryConfig} {paging : Paging}
    (h : OnItsWay b load s leg) (goes : leg.load? = some own)
    (same : t.browser.bearings = { s.browser.bearings with config := config, paging := paging })
    (hnext : next.load? = some own ∨ next.hasStopped = true) : OnItsWay b load t next where
  pending := (congrArg Bearings.reloadPending same).trans h.pending
  collection := (congrArg Bearings.collection same).trans h.collection
  generation := (congrArg Bearings.generation same).trans h.generation
  own := by rwa [(h.unmade goes).1] at hnext
  made := .nothing ((congrArg Bearings.state same).trans (h.unmade goes).2.1)
    ((congrArg Bearings.problem same).trans (h.unmade goes).2.2)

/-- Every stride of a load keeps it so. -/
theorem stride {next : Leg} (hstride : Stride (s, leg) (t, next)) (h : OnItsWay b load s leg) :
    OnItsWay b load t next := by
  cases hstride with
  | idle => rcases h.own with hown | hover <;> contradiction
  | refuse => rcases h.own with hown | hover <;> contradiction
  | begin => rcases h.own with hown | hover <;> contradiction
  | learn known =>
    exact h.still rfl (apprised_of_ensure known).bearings.bearings (.inl rfl)
  | take taken => exact h.still rfl (apprised_of_take taken).bearings.bearings (.inl rfl)
  | retype => exact h.still rfl rfl (.inl rfl)
  | decide => exact h.still rfl rfl (.inl rfl)
  | know => exact h.still rfl rfl (.inl rfl)
  | count unknown request =>
    cases request
    exact h.still rfl rfl (.inl rfl)
  | hear respond => exact h.still rfl (bearings_of_respond respond).bearings (.inl rfl)
  | tell => exact h.still rfl rfl (.inl rfl)
  | ask request =>
    cases request
    exact h.still rfl rfl (.inl rfl)
  | receive respond => exact h.still rfl (bearings_of_respond respond).bearings (.inl rfl)
  | @turn _ _ _ _ _ _ _ paging =>
    refine h.still rfl (?_ : _ = { s.browser.bearings with
      config := s.browser.config, paging := paging }) (.inl rfl)
    rfl
  | @showAgain _ _ _ page paging recalled target found commit =>
    rw [showKept_committed commit]
    refine h.ends rfl rfl (?_ : _ = { s.browser.bearings with
      config := s.browser.config, paging := paging, state := .success, problem := none }) fun _ _ => ?_
    · rfl
    · exact .page rfl rfl rfl
  | @display _ _ own plan _ _ _ view =>
    obtain ⟨cache, hbrowser, -⟩ := showFetched_browser s own plan view
    refine h.ends rfl rfl (?_ : _ = { s.browser.bearings with
      config := s.browser.config, paging := s.browser.paging, state := .success,
      problem := none }) fun _ _ => ?_
    · rw [hbrowser]
      rfl
    · rw [hbrowser]
      exact .page rfl rfl rfl
  | rest late =>
    obtain ⟨hgoes, hlate⟩ := late.goes
    refine h.ends hgoes rfl (?_ : _ = { s.browser.bearings with
      config := s.browser.config, paging := s.browser.paging, state := .idle,
      problem := s.browser.problem }) fun hown hproblem => ?_
    · rfl
    · refine .rest rfl ?_ rfl hproblem
      rwa [← h.generation, ← hown]
  | @fail _ _ _ f fails =>
    refine h.ends fails.goes rfl (?_ : _ = { s.browser.bearings with
      config := s.browser.config, paging := s.browser.paging, state := .failed,
      problem := (s.browser.fail f).problem }) fun _ _ => ?_
    · rfl
    · exact .failure rfl rfl rfl
  | broken breaks => exact h.still breaks.goes rfl (.inr rfl)
  | wait waits => exact h.still waits.goes rfl (.inr rfl)
  | close _ ending outcome =>
    obtain ⟨hbrowser, -⟩ := closing_still ending (s, outcome)
    have hdone : (Leg.stops ending outcome).isDone = (Leg.over outcome).isDone := by
      cases outcome <;> rfl
    refine ⟨hbrowser ▸ h.pending, hbrowser ▸ h.collection, hbrowser ▸ h.generation, .inr rfl, ?_⟩
    rw [hbrowser]
    cases h.made with
    | nothing state problem => exact .nothing state problem
    | page done state problem => exact .page (hdone ▸ done) state problem
    | failure done state problem => exact .failure (hdone ▸ done) state problem
    | rest done late state problem => exact .rest (hdone ▸ done) late state problem

/-- What may be said of what a load has made of it. -/
theorem shows (hP : Fair P) (h : OnItsWay b load s leg) (hb : b.Shows P)
    (hrest : b.generation ≠ load.generation → P .idle b.problem) : s.browser.Shows P := by
  unfold Browser.Shows at hb ⊢
  cases h.made with
  | nothing state problem => rwa [state, problem]
  | page _ state problem =>
    rw [problem]
    exact hP.calm _ (by simp [state])
  | failure _ state problem =>
    obtain ⟨shown, hshown⟩ := Option.isSome_iff_exists.mp problem
    rw [state, hshown]
    exact hP.failed shown
  | rest _ late state problem =>
    rw [state, problem]
    exact hrest late

end OnItsWay

theorem continueLoad_onItsWay (s : Session) (p : LoadPause) :
    OnItsWay s.browser p.load (s.continueLoad p).1 (.over (s.continueLoad p).2) :=
  (continueLoad_strides s p).keeps OnItsWay.stride (.refl s p.leg_load?)

/-! ## Whole loads -/

/-- Whatever was shown, a load that begins starts anew. -/
theorem beginLoad_shows (hP : Fair P) (page : Value) (forced : Bool)
    (hs : s.browser.current? = none ∨ s.browser.isLoading = true → s.browser.Shows P) :
    (s.beginLoad page forced).1.browser.Shows P := by
  rcases beginLoad_cases s page forced with ⟨hidle, hsame⟩ | ⟨-, -, hfails⟩ |
    ⟨collection, executor, -, -, -, hstrides⟩
  · rw [hsame]
    exact hs hidle
  · rw [hfails]
    exact hP.failed _
  · have hway := hstrides.keeps OnItsWay.stride (.refl _ rfl)
    exact hway.shows hP (hP.calm .loading (by decide)) fun _ => hP.calm .idle (by decide)

/-- What is taken up after a load. -/
theorem drain_shows (hP : Fair P) {r : Session × Outcome LoadPause Bool}
    (hr : (r.1.browser.reloadPending = true ∧ r.1.browser.isLoading = false ∧
      r.1.browser.current? ≠ none ∧ ∃ shown, r.2 = .done shown) ∨ r.1.browser.Shows P) :
    (drain r).1.browser.Shows P := by
  rcases drain_cases r with ⟨t, shown, rfl, -, -, htaken⟩ | ⟨hsame, hleft⟩
  · rw [htaken]
    refine beginLoad_shows hP _ _ fun hnot => ?_
    rcases hr with ⟨-, hloading, hcurrent, -⟩ | h
    · rcases hnot with hnone | hloads
      · exact absurd hnone hcurrent
      · exact absurd (hloads.symm.trans hloading) (by decide)
    · exact h
  · rw [hsame]
    rcases hr with ⟨hpending, hloading, -, shown, hdone⟩ | h
    · cases hloading.symm.trans (hleft shown hdone hpending)
    · exact h

theorem loadDocuments_shows (hP : Fair P) (page : Value) (forced : Bool)
    (hs : s.browser.Shows P) : (s.loadDocuments page forced).1.browser.Shows P :=
  drain_shows hP (.inr (beginLoad_shows hP page forced fun _ => hs))

theorem ComesTo.shows (hP : Fair P) (hconnect : ∀ connection, allowed (.connect connection) →
    ∀ state problem, P state problem → P state none) {r : Session × Outcome Pause Reply}
    (h : ComesTo allowed s r) (hs : s.browser.Shows P) : r.1.browser.Shows P := by
  cases h with
  | unloaded doings waits => exact doings.shows hP hconnect hs
  | loaded doings load waits =>
    rw [load]
    exact loadDocuments_shows hP _ _ (doings.shows hP hconnect hs)

/-! ## Failed states and failures -/

/-- A failure is shown just in a failed state. -/
def Together (state : LoadState) (problem : Option Problem) : Prop :=
  state = .failed ↔ problem.isSome = true

theorem together_fair : Fair Together where
  calm := fun _ hstate => ⟨fun h => absurd h hstate, fun h => by cases h⟩
  failed := fun _ => ⟨fun _ => rfl, fun _ => rfl⟩

/-- No failure is shown while a page is loaded, nor beside one that has been loaded. -/
def Untroubled (state : LoadState) (problem : Option Problem) : Prop :=
  state = .loading ∨ state = .success → problem = none

theorem untroubled_fair : Fair Untroubled where
  calm := fun _ _ _ => rfl
  failed := fun _ h => by rcases h with h | h <;> cases h

/-! ## What parts them -/

/-- A load that waits is out of date and will come to rest, which leaves the failure that is shown; and
nothing will be taken up after it. -/
structure Abandons (s : Session) (p : LoadPause) : Prop where
  late : s.browser.generation ≠ p.load.generation
  shown : s.browser.problem ≠ none
  rests : (s.continueLoad p).1.browser.state = .idle
  last : s.browser.reloadPending = false ∨ s.browser.current? = none

/-- Where nothing is taken up a load leaves what it shows. -/
theorem drain_last {r : Session × Outcome LoadPause Bool}
    (hlast : r.1.browser.reloadPending = false ∨ r.1.browser.current? = none) :
    (drain r).1.browser.state = r.1.browser.state ∧
      (drain r).1.browser.problem = r.1.browser.problem := by
  rcases drain_cases r with ⟨t, shown, rfl, hpending, -, htaken⟩ | ⟨hsame, -⟩
  · have hnone : t.browser.current? = none := by
      refine hlast.resolve_left fun hsettled => ?_
      rw [hpending] at hsettled
      cases hsettled
    rw [htaken, beginLoad_of_none (s := (t.update ({ · with reloadPending := false })).note .takenUp)
      hnone]
    exact ⟨rfl, rfl⟩
  · rw [hsame]
    exact ⟨rfl, rfl⟩

/-- A load that comes to rest leaves the failure that is shown. -/
theorem OnItsWay.rested {b : Browser} {r : Session × Outcome LoadPause Bool}
    (h : OnItsWay b load r.1 (.over r.2)) (hidle : r.1.browser.state = .idle) :
    r.1.browser.problem = b.problem := by
  cases h.made with
  | nothing _ problem | rest _ _ _ problem => exact problem
  | page _ state | failure _ state =>
    rw [hidle] at state
    cases state

/-- Only a load that comes to rest parts a failure from its state. -/
theorem OnItsWay.together {b : Browser} {r : Session × Outcome LoadPause Bool}
    (h : OnItsWay b load r.1 (.over r.2)) (hb : b.Shows Together) :
    r.1.browser.Shows Together ∨ (b.generation ≠ load.generation ∧ r.1.browser.state = .idle ∧
      b.problem ≠ none ∧ ∃ shown, r.2 = .done shown) := by
  obtain ⟨t, outcome⟩ := r
  cases h.made with
  | nothing state problem => exact .inl (by rwa [Browser.Shows, state, problem])
  | page _ state problem =>
    left
    rw [Browser.Shows, state, problem]
    exact together_fair.calm .success nofun
  | failure _ state problem => exact .inl ⟨fun _ => problem, fun _ => state⟩
  | rest done late state problem =>
    by_cases hnone : b.problem = none
    · exact .inl (h.shows together_fair hb fun _ => hnone ▸ together_fair.calm .idle nofun)
    · cases outcome with
      | done shown => exact .inr ⟨late, state, hnone, shown, rfl⟩
      | _ => cases done

/-- A load that goes on parts a failure from its state just if it is one of those. -/
theorem resumeLoad_together (p : LoadPause) (hs : s.browser.Shows Together) :
    (s.resumeLoad p).1.browser.Shows Together ↔ ¬ Abandons s p := by
  have hway := continueLoad_onItsWay s p
  have hcurrent : (s.continueLoad p).1.browser.current? = s.browser.current? :=
    congrArg (Option.filter (· != "")) hway.collection
  constructor
  · intro htogether habandons
    obtain ⟨hstate, hproblem⟩ := drain_last (r := s.continueLoad p) (by
      rw [hway.pending, hcurrent]
      exact habandons.last)
    have hfailed : (s.resumeLoad p).1.browser.state = .failed := by
      refine htogether.mpr (Option.isSome_iff_ne_none.mpr ?_)
      unfold resumeLoad
      rw [hproblem, hway.rested habandons.rests]
      exact habandons.shown
    unfold resumeLoad at hfailed
    rw [hstate, habandons.rests] at hfailed
    cases hfailed
  · intro hnot
    refine drain_shows together_fair ?_
    refine (hway.together hs).symm.imp_left fun ⟨hlate, hidle, hshown, hdone⟩ => ?_
    have htaken : s.browser.reloadPending ≠ false ∧ s.browser.current? ≠ none :=
      not_or.mp fun hlast => hnot ⟨hlate, hshown, hidle, hlast⟩
    refine ⟨hway.pending.trans (Bool.of_not_eq_false htaken.1), ?_, hcurrent ▸ htaken.2, hdone⟩
    unfold Browser.isLoading
    rw [hidle]
    rfl

/-- A connection that is made takes away the failure that is shown, and nothing else does but shows one
instead. -/
theorem connect_shown (s : Session) (connection : String) :
    (s.Connects connection ∧ (s.connect connection).1.browser.state = s.browser.state ∧
      (s.connect connection).1.browser.problem = none) ∨
    (¬ s.Connects connection ∧ ((s.connect connection).1.browser = s.browser ∨
      ∃ (b : Browser) (f : Fault), (s.connect connection).1.browser = b.fail f)) := by
  rcases connect_cases s connection with
    ⟨hnot, -, h⟩ | ⟨hnot, t, message, htried, h⟩ | ⟨hmade, -, handed, backend, -, -, h⟩
  · rw [h]
    exact .inr ⟨hnot, .inl rfl⟩
  · rw [h]
    refine .inr ⟨hnot, .inr ?_⟩
    rcases htried with rfl | ⟨handed, rfl⟩ <;> exact ⟨_, _, rfl⟩
  · rw [h]
    exact .inl ⟨hmade, useBackend_shown _ connection backend⟩

theorem connect_together (connection : String) (hs : s.browser.Shows Together) :
    (s.connect connection).1.browser.Shows Together ↔
      ¬ (s.browser.state = .failed ∧ s.Connects connection) := by
  rcases connect_shown s connection with ⟨hmade, hstate, hproblem⟩ | ⟨hnot, hsame | ⟨b, f, hfails⟩⟩
  · rw [Browser.Shows, hstate, hproblem]
    constructor
    · rintro htogether ⟨hfailed, -⟩
      cases htogether.mp hfailed
    · exact fun hnot => together_fair.calm _ fun hfailed => hnot ⟨hfailed, hmade⟩
  · rw [hsame]
    exact iff_of_true hs fun h => hnot h.2
  · rw [hfails]
    exact iff_of_true (together_fair.failed _) fun h => hnot h.2

/-! ## One thing after another -/

/-- Something is done that touches only one of state and failure. -/
inductive Parts (s : Session) : Operation → Prop where
  | connects {number : Nat} {connection : String} (failed : s.browser.state = .failed)
      (connects : s.Connects connection) : Parts s (.ask number (.connect connection))
  | abandons {w : Waiting} {rest : List Job} {p : LoadPause} (ready : s.ready = .resume w :: rest)
      (load : w.pause.loadPause? = some p)
      (abandons : Abandons ({ s with ready := rest } : Session) p) : Parts s .job

/-- It parts them, and nothing else does. -/
theorem operate_together (hsingle : s.Single) (hs : s.browser.Shows Together)
    (operation : Operation) :
    (s.operate operation).browser.Shows Together ↔ ¬ s.Parts operation := by
  by_cases hconnects : ∃ number connection, operation = .ask number (.connect connection)
  · obtain ⟨number, connection, rfl⟩ := hconnects
    have hleaves : (s.operate (.ask number (.connect connection))).browser =
        (s.connect connection).1.browser := (serve_leaves s _ _).browser
    rw [hleaves, connect_together connection hs]
    exact not_congr ⟨fun ⟨hfailed, hmade⟩ => .connects hfailed hmade, fun h => by
      cases h with
      | connects failed connects => exact ⟨failed, connects⟩⟩
  -- A load that goes on has to be told from all other jobs before anything is said of them.
  by_cases hresumes : ∃ w rest p, operation = .job ∧ s.ready = .resume w :: rest ∧
      w.pause.loadPause? = some p
  · obtain ⟨w, rest, p, rfl, hready, hp⟩ := hresumes
    rw [(operate_resumeLoad hsingle hready hp).browser,
      resumeLoad_together (s := { s with ready := rest }) p hs]
    refine not_congr ⟨fun h => .abandons hready hp h, fun h => ?_⟩
    cases h with
    | abandons ready load abandons =>
      cases hready.symm.trans ready
      cases hp.symm.trans load
      exact abandons
  · have hnot : ¬ s.Parts operation := fun h => by
      cases h with
      | connects => exact hconnects ⟨_, _, rfl⟩
      | abandons ready load => exact hresumes ⟨_, _, _, rfl, ready, load⟩
    refine iff_of_true ?_ hnot
    cases operate_does hsingle operation with
    | resumes job ready load => exact absurd ⟨_, _, _, job, ready, load⟩ hresumes
    | acts comes leaves =>
      rw [leaves.browser]
      refine comes.shows together_fair (fun connection hask => ?_) hs
      cases operation with
      | ask number command =>
        cases hask
        exact absurd ⟨number, connection, rfl⟩ hconnects
      | _ => cases hask

/-- Nothing that is done shows a failure beside a page. -/
theorem operate_untroubled (hsingle : s.Single) (hs : s.browser.Shows Untroubled)
    (operation : Operation) : (s.operate operation).browser.Shows Untroubled := by
  cases operate_does hsingle operation with
  | acts comes leaves =>
    rw [leaves.browser]
    exact comes.shows untroubled_fair (fun _ _ _ _ _ _ => rfl) hs
  | @resumes w rest p job ready load leaves =>
    rw [leaves.browser]
    refine drain_shows untroubled_fair (.inr ?_)
    refine (continueLoad_onItsWay ({ s with ready := rest } : Session) p).shows untroubled_fair hs ?_
    exact fun _ h => by rcases h with h | h <;> cases h

/-! ## The law -/

variable {o : Session}

theorem together_run (hsingle : ∀ operations, (o.after operations).Single)
    (ho : o.browser.Shows Together) (operations : List Operation) :
    (∀ before, before <+: operations → (o.after before).browser.Shows Together) ↔
      ∀ before operation, before ++ [operation] <+: operations →
        ¬ (o.after before).Parts operation := by
  have hstep : ∀ before operation, (o.after before).browser.Shows Together →
      ((o.after (before ++ [operation])).browser.Shows Together ↔
        ¬ (o.after before).Parts operation) := by
    intro before operation hbefore
    rw [after_snoc]
    exact operate_together (hsingle before) hbefore operation
  constructor
  · intro htogether before operation hprefix
    have hbefore := htogether before ((List.prefix_append _ _).trans hprefix)
    exact (hstep before operation hbefore).mp (htogether _ hprefix)
  · intro hnot before hprefix
    induction before using List.reverseRecOn with
    | nil => exact ho
    | append_singleton before operation ih =>
      have hbefore := ih ((List.prefix_append _ _).trans hprefix)
      exact (hstep before operation hbefore).mpr (hnot before operation hprefix)

theorem untroubled_run (hsingle : ∀ operations, (o.after operations).Single)
    (ho : o.browser.Shows Untroubled) (operations : List Operation) :
    (o.after operations).browser.Shows Untroubled := by
  induction operations using List.reverseRecOn with
  | nil => exact ho
  | append_singleton before operation ih =>
    rw [after_snoc]
    exact operate_untroubled (hsingle before) ih operation

/-- In every run a failure is shown just in a failed state, at every time of it, if and only if nothing
that is done in it parts them: no connection is made in a failed state, and no load that is out of date
comes to rest beside a failure. In any case no failure is shown while a page is loaded, nor beside one
that has been loaded. -/
theorem failures_and_failed_states_go_together (settings : Settings)
    (connection collection : Option String) (executor : Option Nat) (archive : Option Archive)
    (backends : List Backend) (provider : Option Provider) (operations : List Operation) :
    let o := start (.start settings connection collection executor archive) backends provider
    ((∀ before, before <+: operations →
        ((o.after before).browser.state = .failed ↔ (o.after before).browser.problem.isSome)) ↔
      ∀ before operation, before ++ [operation] <+: operations →
        ¬ (o.after before).Parts operation) ∧
    ((o.after operations).browser.state = .loading ∨ (o.after operations).browser.state = .success →
      (o.after operations).browser.problem = none) := by
  intro o
  have hsingle : ∀ operations, (o.after operations).Single := single_after _ backends provider
  exact ⟨together_run hsingle (together_fair.calm .idle nofun) operations,
    untroubled_run hsingle (untroubled_fair.calm .idle nofun) operations⟩

/-- The first attempt to connect fails, and the next one succeeds. -/
def secondAttempt : Session :=
  (start (.start .default (some "main") (some "docs") (some 0) none)
    [.ofSource (.store ⟨[("docs", [⟨.int 1, [("id", .int 1)]⟩])], []⟩ false),
      .ofSource (.store ⟨[], []⟩ false)]
    (some (.ofBackends [("other", 1)] 1))).after
      [.ask 1 (.connect "other"), .ask 2 (.connect "other")]

/-- A page is asked for and has to wait; another collection is selected; a connection is not made; then
the load goes on. -/
def loadPassedOver : Session :=
  twoConnections.after (heldStaleLoad ++ [.ask 4 (.connect "third")] ++ goingOn)

/-- A failed state without a failure, and a failure without a failed state. -/
theorem failures_and_failed_states_part :
    (secondAttempt.browser.state = .failed ∧ secondAttempt.browser.problem.isSome = false) ∧
      loadPassedOver.browser.state = .idle ∧ loadPassedOver.browser.problem.isSome = true := by
  decide +kernel

end Session

end Folio
