-- What can happen to loads in the course of a session, said once. A moment is a session together
-- with what the action has in hand that is being done: nothing, a reload that is owed after a
-- change, or a load. Whatever is done comes down to a few moves from moment to moment; what is to
-- hold at all times is proved move by move.
import Folio.Proofs.Strides
import Folio.Session.Run
import Mathlib.Data.List.Basic

namespace Folio

/-! ## Loads on their way -/

/-- How far a load has come. -/
inductive Stage where
  | begun
  | planned (plan : PagePlan)
  | asked (plan : PagePlan) (sent : Sent)
  /-- The walk goes on from the rows of the answer. -/
  | answered (plan : PagePlan) (sent : Sent) (rows : List Value)

/-- The page that has been decided on. -/
def Stage.plan? : Stage → Option PagePlan
  | begun => none
  | planned plan | asked plan _ | answered plan _ _ => some plan

/-- How far a load has come that waits. -/
def LoadPause.stage : LoadPause → Stage
  | schema _ _ => .begun
  | count _ _ plan => .planned plan
  | page sent _ plan _ => .asked plan sent

/-- How far a load has come on a leg. -/
def Leg.stage : Leg → Stage
  | planned _ plan | counting _ _ plan | counted _ plan _ | told _ plan _ => .planned plan
  | asking sent _ plan _ | answered sent _ plan _ _ => .asked plan sent
  | turned sent _ plan _ rows _ => .answered plan sent rows
  | _ => .begun

theorem LoadPause.leg_stage (p : LoadPause) : p.leg.stage = p.stage := by
  cases p <;> rfl

/-! ## Actions that wait -/

/-- What a load waits for, if it is one that waits. -/
def Pause.loadPause? : Pause → Option LoadPause
  | load pause _ => some pause
  | web _ _ pause => pause.loadPause?
  | _ => none

theorem Pause.load?_eq (p : Pause) : p.load? = p.loadPause?.map (·.load) := by
  induction p with
  | web before waits pause ih => exact ih
  | _ => rfl

/-- Whether an action waits that is going to load the first page. -/
def Pause.owes : Pause → Bool
  | schema _ .reload => true
  | web _ _ pause => pause.owes
  | _ => false

theorem Pause.loadPause?_of_owes {p : Pause} (h : p.owes = true) : p.loadPause? = none := by
  induction p with
  | load pause after => cases h
  | web before waits pause ih => exact ih h
  | _ => rfl

/-- The action that a job goes on with. -/
def Job.action? : Job → Option Waiting
  | .resume w => some w
  | _ => none

/-- The run of the debouncer that a job is part of. -/
def Job.run? : Job → Option Nat
  | .scheduled run | .due run => some run
  | _ => none

namespace Session

/-- The runs of the debouncer that have not begun to load. -/
def runsAhead (s : Session) : List Nat :=
  (s.asleep.map (·.2)).toList ++ s.ready.filterMap Job.run?

/-- The actions that wait, or have been let go on. -/
def actions (s : Session) : List Waiting := s.ready.filterMap Job.action? ++ s.waiting

/-- An action waits that is going to load the first page. -/
def InDebt (s : Session) : Prop := ∃ w ∈ s.actions, w.pause.owes = true

/-- What the loads under way wait for. -/
def pauses (s : Session) : List LoadPause := s.actions.filterMap (·.pause.loadPause?)

theorem underWay_eq (s : Session) : s.underWay = s.pauses.map (·.load) := by
  have hready : s.ready.filterMap Job.load? =
      ((s.ready.filterMap Job.action?).filterMap (·.pause.loadPause?)).map (·.load) := by
    rw [List.filterMap_filterMap, List.map_filterMap]
    refine List.filterMap_congr fun job _ => ?_
    cases job with
    | resume w => exact Pause.load?_eq w.pause
    | _ => rfl
  have hwaiting : s.waiting.filterMap (·.pause.load?) =
      (s.waiting.filterMap (·.pause.loadPause?)).map (·.load) := by
    rw [List.map_filterMap]
    exact List.filterMap_congr fun w _ => Pause.load?_eq w.pause
  unfold underWay pauses actions
  rw [List.filterMap_append, List.map_append, hready, hwaiting]

/-- A job that goes on with an action is taken out of what is ready. -/
theorem actions_take {s : Session} {before after : List Job} {w : Waiting}
    (h : s.ready = before ++ .resume w :: after) :
    s.actions.Perm (w :: ({ s with ready := before ++ after } : Session).actions) := by
  unfold actions
  dsimp only
  rw [h, List.filterMap_append (f := Job.action?), List.filterMap_append (f := Job.action?),
    List.filterMap_cons_some (show Job.action? (.resume w) = some w from rfl), List.append_assoc,
    List.append_assoc, List.cons_append]
  exact List.perm_middle

theorem underWay_take {s : Session} {before after : List Job} {w : Waiting} {p : LoadPause}
    (h : s.ready = before ++ .resume w :: after) (hp : w.pause.loadPause? = some p) :
    s.underWay.Perm (p.load :: ({ s with ready := before ++ after } : Session).underWay) := by
  have hpauses := (actions_take h).filterMap (·.pause.loadPause?)
  rw [List.filterMap_cons_some (f := fun w : Waiting => w.pause.loadPause?) hp] at hpauses
  rw [underWay_eq, underWay_eq]
  exact hpauses.map (·.load)

/-! ## What is taken for granted -/

/-- What is taken for granted in a session. -/
structure Realm where
  /-- What holds of every backend. -/
  backend : Backend → Prop
  /-- What loads may wait for. -/
  pause : LoadPause → Prop
  /-- Which loads a fault may break off. -/
  breaks : Load → Prop
  /-- What may be asked for. -/
  command : Command → Prop
  /-- Whether runs of the debouncer are scheduled, and other backends used. -/
  wide : Prop
  /-- Whether a reload is left undone when a schema cannot be taken over. -/
  flawed : Prop
  /-- Whether a reload waits for a schema. -/
  holds : Prop

/-- The runs of the debouncer are in order: only the latest is still to begin, and none whose action
waits. -/
structure Orderly (s : Session) : Prop where
  ahead : s.runsAhead.Sublist s.debouncer.latest.toList
  issued : ∀ run, s.debouncer.latest = some run → run < s.debouncer.issued
  owners : ∀ w ∈ s.actions, ∀ run, w.owner = .run run →
    run < s.debouncer.issued ∧ run ∉ s.runsAhead

/-- A session in which everything is as it is taken for granted. -/
structure Within (R : Realm) (s : Session) : Prop where
  backends : ∀ b ∈ s.backends, R.backend b
  pauses : ∀ p ∈ s.pauses, R.pause p
  todo : ∀ w ∈ s.actions, ∀ c, w.owner = .client c → ∀ command ∈ c.todo, R.command command
  prompt : R.wide ∨ s.debouncer.latest = none
  orderly : s.Orderly

theorem within_start {R : Realm} (browser : Browser) {backends : List Backend}
    (provider : Option Provider) (hbackends : ∀ b ∈ backends, R.backend b) :
    Within R (.start browser backends provider) where
  backends := hbackends
  pauses := fun _ hp => absurd hp List.not_mem_nil
  todo := fun _ hw => absurd hw List.not_mem_nil
  prompt := Or.inr rfl
  orderly := ⟨.refl _, (fun _ h => nomatch h), fun _ hw => absurd hw List.not_mem_nil⟩

/-- Where no run has been scheduled none is ahead. -/
theorem Orderly.runsAhead_of_none {s : Session} (h : s.Orderly) (hnone : s.debouncer.latest = none) :
    s.runsAhead = [] := by
  have hahead := h.ahead
  rw [hnone] at hahead
  exact List.sublist_nil.mp hahead

/-- At most the latest run is ahead. -/
theorem Orderly.runsAhead_cases {s : Session} (h : s.Orderly) :
    s.runsAhead = [] ∨ ∃ run, s.debouncer.latest = some run ∧ s.runsAhead = [run] := by
  cases hl : s.debouncer.latest with
  | none => exact Or.inl (h.runsAhead_of_none hl)
  | some run =>
    have hahead := h.ahead
    rw [hl] at hahead
    exact (List.sublist_singleton.mp hahead).imp_right fun hone => ⟨run, rfl, hone⟩

/-! ## Queries and views that only grow older -/

end Session

/-- The filters are made anew for attributes that have become known. -/
def QueryConfig.Retypes (c d : QueryConfig) : Prop :=
  ∃ registry, d = { c with predicates := c.predicates.map (·.retype registry) }

/-- The second query is the first, but for filters that were made anew. -/
def QueryConfig.RetypedTo : QueryConfig → QueryConfig → Prop := Relation.ReflTransGen Retypes

/-- What a change of documents does to the rows that are shown. -/
inductive View.Edits : View → View → Prop where
  /-- Documents were deleted. -/
  | deleted {keys : List Value} {v : View} {kept : List Fields}
      (left : Session.rowsWithout keys v.rows = .ok kept) : Edits v (v.without kept)
  /-- Fields of a document were changed. -/
  | changed (key : Value) (fields : Fields) (v : View) : Edits v { v with
      rows := v.rows.map fun row => if (row.get "id").same key then row.putAll fields else row }

/-- The second view is the first, but for documents that were deleted or changed. -/
def View.EditedTo : View → View → Prop := Relation.ReflTransGen Edits

theorem QueryConfig.RetypedTo.refl (c : QueryConfig) : c.RetypedTo c := Relation.ReflTransGen.refl

theorem View.EditedTo.refl (v : View) : v.EditedTo v := Relation.ReflTransGen.refl

namespace Session

/-! ## Moments -/

/-- What the action that is being done has in hand. -/
inductive Hand where
  | free
  /-- The first page is to be loaded anew. -/
  | owing
  | loading (load : Load) (stage : Stage)
  /-- A load that has shown what has come of it. -/
  | settled (load : Load)
  /-- A load that has to wait. -/
  | waiting (pause : LoadPause)

/-- A session with what is in hand. -/
structure Moment where
  hand : Hand
  session : Session

/-! ## Moves -/

/-- All of a browser that a load depends on, but for whether one is shown. -/
structure Basis where
  pending : Bool
  generation : Nat
  current : Option String
  executor : Option Nat
  paging : Paging
  config : QueryConfig
  view : View
  pages : List CachedPage

def basis (b : Browser) : Basis :=
  ⟨b.reloadPending, b.generation, b.current?, b.executor, b.paging, b.config, b.view, b.cache.pages⟩

/-- Browsers of the same query, of which both or none owe a reload. -/
structure SameQuery (b c : Browser) : Prop where
  pending : c.reloadPending = b.reloadPending
  generation : c.generation = b.generation
  current : c.current? = b.current?
  executor : c.executor = b.executor

/-- Browsers between which no load can tell a difference, but for whether one is shown. -/
structure AlikeBrowsers (b c : Browser) : Prop extends SameQuery b c where
  paging : c.paging = b.paging
  config : b.config.RetypedTo c.config
  view : b.view.EditedTo c.view
  pages : ∀ page ∈ c.cache.pages, page ∈ b.cache.pages

/-- Sessions between which no load can tell a difference, but for whether one is shown. -/
structure Alike (s t : Session) : Prop where
  browser : AlikeBrowsers s.browser t.browser
  pauses : t.pauses.Perm s.pauses
  debt : s.InDebt → t.InDebt
  ahead : t.runsAhead.Perm s.runsAhead
  debouncer : t.debouncer = s.debouncer
  journal : t.journal = s.journal

/-- The second browser is the first with a new query. -/
structure Renewed (b c : Browser) : Prop where
  pending : c.reloadPending = b.reloadPending
  state : c.state = b.state
  current : c.current? = b.current?
  executor : c.executor = b.executor
  generation : c.generation = b.generation + 1
  next : c.paging.next = none
  previous : c.paging.previous = []
  view : c.view = b.view
  pages : ∀ page ∈ c.cache.pages, page ∈ b.cache.pages

/-- What can happen from one moment to the next. -/
inductive Move (R : Realm) : Moment → Moment → Prop where
  | calm {h : Hand} {s t : Session} (like : Alike s t)
      (state : t.browser.state = s.browser.state) : Move R ⟨h, s⟩ ⟨h, t⟩
  | trouble (s : Session) (f : Fault) : Move R ⟨.free, s⟩ ⟨.free, s.trouble f⟩
  /-- A load cannot begin. -/
  | refuse {s t : Session} (like : Alike s t) (idle : s.browser.isLoading = false)
      (state : t.browser.state = .failed) : Move R ⟨.free, s⟩ ⟨.free, t⟩
  /-- The query changes. -/
  | bump (s : Session) {f : Browser → Browser} (renewed : Renewed s.browser (f s.browser)) :
      Move R ⟨.free, s⟩ ⟨.owing, s.renew f⟩
  /-- A reload is left undone. -/
  | leave (flawed : R.flawed) (s : Session) : Move R ⟨.owing, s⟩ ⟨.free, s⟩
  /-- A reload waits with an action that is going to make it. -/
  | defer {w : Waiting} (holds : R.holds) (s : Session) (owes : w.pause.owes = true) :
      Move R ⟨.owing, s⟩ ⟨.free, { s with waiting := s.waiting ++ [w] }⟩
  | goOn {w : Waiting} {s : Session} {before after : List Job}
      (ready : s.ready = before ++ .resume w :: after) (owes : w.pause.owes = true) :
      Move R ⟨.free, s⟩ ⟨.owing, { s with ready := before ++ after }⟩
  /-- A reload is left to a run of the debouncer. -/
  | postpone (wide : R.wide) (s : Session) : Move R ⟨.owing, s⟩ ⟨.free, s.scheduleRun⟩
  | due {run : Nat} {s : Session} {before after : List Job} (wide : R.wide)
      (ready : s.ready = before ++ .due run :: after) :
      Move R ⟨.free, s⟩ ⟨.owing, { s with ready := before ++ after }⟩
  /-- The run that is pending is forgotten, since the first page is loaded anyhow. -/
  | cancel (wide : R.wide) (s : Session) : Move R ⟨.owing, s⟩ ⟨.owing, s.cancelRun⟩
  /-- A run of the debouncer is over. -/
  | runOver {run : Nat} {s : Session} (begun : run ∉ s.runsAhead) :
      Move R ⟨.free, s⟩ ⟨.free, { s with debouncer := s.debouncer.settled run }⟩
  | putOff {s : Session} (loading : s.browser.isLoading = true) : Move R ⟨.owing, s⟩
      ⟨.free, (s.update ({ · with reloadPending := true })).note (.putOff s.underWay)⟩
  /-- There is nothing to load from. -/
  | giveUp {s t : Session} (like : Alike s t) (idle : s.browser.isLoading = false)
      (state : t.browser.state = s.browser.state ∨ t.browser.state = .failed)
      (nothing : s.browser.current? = none ∨ s.browser.executor = none) :
      Move R ⟨.owing, s⟩ ⟨.free, t⟩
  | begin {h : Hand} {s : Session} {load : Load} (idle : s.browser.isLoading = false)
      (current : s.browser.current? = some load.collection)
      (executor : s.browser.executor.isSome) (generation : load.generation = s.browser.generation)
      (hand : h = .free ∨ h = .owing ∧ load.page = .int 1 ∧ load.forced = true) :
      Move R ⟨h, s⟩ ⟨.loading load .begun, (s.update (·.begin)).note (.begun load)⟩
  | decide {load : Load} {plan : PagePlan} {s : Session} (planned : Planned s.browser load plan) :
      Move R ⟨.loading load .begun, s⟩ ⟨.loading load (.planned plan), s⟩
  | ask {load : Load} {plan : PagePlan} {sent : Sent} {s t : Session}
      (request : s.request load.collection plan.request = (t, sent)) :
      Move R ⟨.loading load (.planned plan), s⟩
        ⟨.loading load (.asked plan sent), t.note (.asked sent load plan)⟩
  /-- The walk goes on from the page that was asked for. -/
  | turn {load : Load} {plan : PagePlan} {sent : Sent} {rows : List Value} {paging : Paging}
      {s : Session} (generation : s.browser.generation = load.generation)
      (commit : s.browser.paging.commit plan.move rows = .ok paging) :
      Move R ⟨.loading load (.asked plan sent), s⟩ ⟨.loading load (.answered plan sent rows),
        (s.update ({ · with paging := paging })).note (.fetched sent load plan rows)⟩
  | display {load : Load} {plan : PagePlan} {sent : Sent} {view : View} {s : Session}
      (generation : s.browser.generation = load.generation) :
      Move R ⟨.loading load (.answered plan sent (view.rows.map .object)), s⟩
        ⟨.settled load, (s.showFetched load plan view).1⟩
  | showAgain {load : Load} {move : PageMove} {kept : CachedPage} {paging : Paging} {s : Session}
      (recalled : Recalled s.browser load move kept)
      (commit : s.browser.paging.commit move (kept.rows.map .object) = .ok paging) :
      Move R ⟨.loading load .begun, s⟩
        ⟨.settled load, (s.showKept load s.browser.config move kept).1⟩
  /-- A load has failed, or is out of date. -/
  | settle {load : Load} {stage : Stage} {s t : Session} (like : Alike s t)
      (state : t.browser.state = .idle ∨ t.browser.state = .failed) :
      Move R ⟨.loading load stage, s⟩ ⟨.settled load, t⟩
  | finish {load : Load} {s : Session} (idle : s.browser.isLoading = false)
      (settled : s.browser.reloadPending = false) :
      Move R ⟨.settled load, s⟩ ⟨.free, s.note (.ended load)⟩
  /-- A load that is over is followed by the one that was put off. -/
  | relay {load : Load} {s : Session} (idle : s.browser.isLoading = false) :
      Move R ⟨.settled load, s⟩ ⟨.owing, ((s.note (.ended load)).update
        ({ · with reloadPending := false })).note .takenUp⟩
  | takeUp {s : Session} (idle : s.browser.isLoading = false) : Move R ⟨.free, s⟩
      ⟨.owing, (s.update ({ · with reloadPending := false })).note .takenUp⟩
  | broken {load : Load} {stage : Stage} {s : Session} (breaks : R.breaks load) :
      Move R ⟨.loading load stage, s⟩ ⟨.free, s.note (.broken load)⟩
  | pause {p : LoadPause} (s : Session) : Move R ⟨.loading p.load p.stage, s⟩ ⟨.waiting p, s⟩
  | park {p : LoadPause} {w : Waiting} (s : Session) (waits : w.pause.loadPause? = some p) :
      Move R ⟨.waiting p, s⟩ ⟨.free, { s with waiting := s.waiting ++ [w] }⟩
  | pick {p : LoadPause} {w : Waiting} {s : Session} {before after : List Job}
      (ready : s.ready = before ++ .resume w :: after) (waits : w.pause.loadPause? = some p) :
      Move R ⟨.free, s⟩ ⟨.loading p.load p.stage, { s with ready := before ++ after }⟩
  | connect (wide : R.wide) (s : Session) (connection : String) (backend : Nat) :
      Move R ⟨.free, s⟩ ⟨.free, s.useBackend connection backend⟩
  | select (s : Session) (collection : Option String) :
      Move R ⟨.free, s⟩ ⟨.free, s.selectCollection collection⟩

/-- From one moment another one is come to, and what was taken for granted still holds. -/
def Leads (R : Realm) (m n : Moment) : Prop :=
  Within R m.session → Relation.ReflTransGen (Move R) m n ∧ Within R n.session

namespace Leads

variable {R : Realm} {l m n : Moment}

theorem refl (m : Moment) : Leads R m m := fun h => ⟨.refl, h⟩

theorem trans (hlm : Leads R l m) (hmn : Leads R m n) : Leads R l n := by
  intro h
  obtain ⟨hpath, hwithin⟩ := hlm h
  obtain ⟨hrest, hend⟩ := hmn hwithin
  exact ⟨hpath.trans hrest, hend⟩

theorem move (hmove : Move R m n) (hwithin : Within R m.session → Within R n.session) :
    Leads R m n := fun h => ⟨.single hmove, hwithin h⟩

/-- What is taken for granted may be used on the way. -/
theorem given (h : Within R m.session → Leads R m n) : Leads R m n := fun hw => h hw hw

/-- What every move keeps holds wherever moves lead. -/
theorem keeps {I : Moment → Prop} (hstep : ∀ {m n}, Move R m n → I m → I n)
    (h : Relation.ReflTransGen (Move R) m n) (hm : I m) : I n := by
  induction h with
  | refl => exact hm
  | tail _ hmove ih => exact hstep hmove ih

/-- So does what every move keeps as long as something else holds that it keeps. -/
theorem keeps_beside {I J : Moment → Prop} (hbase : ∀ {m n}, Move R m n → I m → I n)
    (hstep : ∀ {m n}, Move R m n → I m → J m → J n)
    (h : Relation.ReflTransGen (Move R) m n) (hi : I m) (hj : J m) : J n := by
  induction h with
  | refl => exact hj
  | tail hpath hmove ih => exact hstep hmove (keeps hbase hpath hi) ih

end Leads

/-! ## Where the way leads without a load noticing -/

theorem AlikeBrowsers.of_basis {b c : Browser} (h : basis c = basis b) : AlikeBrowsers b c where
  pending := congrArg Basis.pending h
  generation := congrArg Basis.generation h
  current := congrArg Basis.current h
  executor := congrArg Basis.executor h
  paging := congrArg Basis.paging h
  config := by
    rw [show c.config = b.config from congrArg Basis.config h]
    exact .refl _
  view := by
    rw [show c.view = b.view from congrArg Basis.view h]
    exact .refl _
  pages := fun page hpage => by
    rwa [show c.cache.pages = b.cache.pages from congrArg Basis.pages h] at hpage

theorem AlikeBrowsers.refl (b : Browser) : AlikeBrowsers b b := .of_basis rfl

theorem AlikeBrowsers.trans {a b c : Browser} (hab : AlikeBrowsers a b) (hbc : AlikeBrowsers b c) :
    AlikeBrowsers a c where
  pending := hbc.pending.trans hab.pending
  generation := hbc.generation.trans hab.generation
  current := hbc.current.trans hab.current
  executor := hbc.executor.trans hab.executor
  paging := hbc.paging.trans hab.paging
  config := Relation.ReflTransGen.trans hab.config hbc.config
  view := Relation.ReflTransGen.trans hab.view hbc.view
  pages := fun page hpage => hab.pages page (hbc.pages page hpage)

/-- Where the same actions wait, the same loads do, and the same is owed. -/
theorem Alike.of_actions {s t : Session} (browser : AlikeBrowsers s.browser t.browser)
    (actions : t.actions.Perm s.actions) (ahead : t.runsAhead.Perm s.runsAhead)
    (debouncer : t.debouncer = s.debouncer) (journal : t.journal = s.journal) : Alike s t where
  browser := browser
  pauses := actions.filterMap _
  debt := fun ⟨w, hw, howes⟩ => ⟨w, actions.mem_iff.mpr hw, howes⟩
  ahead := ahead
  debouncer := debouncer
  journal := journal

/-- Order does not depend on who of those that wait or are ready comes first. -/
theorem Orderly.of_perm {s t : Session} (h : s.Orderly) (actions : t.actions.Perm s.actions)
    (ahead : t.runsAhead.Perm s.runsAhead) (debouncer : t.debouncer = s.debouncer) : t.Orderly where
  ahead := by
    have hsame : t.runsAhead = s.runsAhead := by
      rcases h.runsAhead_cases with hnone | ⟨run, -, hone⟩
      · rw [hnone] at ahead ⊢
        exact ahead.eq_nil
      · rw [hone] at ahead ⊢
        exact List.perm_singleton.mp ahead
    rw [hsame, debouncer]
    exact h.ahead
  issued := debouncer ▸ h.issued
  owners := fun w hw run howner => by
    obtain ⟨hlt, hno⟩ := h.owners w (actions.mem_iff.mp hw) run howner
    exact ⟨debouncer ▸ hlt, fun hmem => hno (ahead.mem_iff.mp hmem)⟩

theorem isLoading_of_state {b c : Browser} (h : c.state = b.state) : c.isLoading = b.isLoading := by
  unfold Browser.isLoading
  rw [h]

theorem not_loading {b : Browser} (h : b.state = .idle ∨ b.state = .failed) : b.isLoading = false := by
  unfold Browser.isLoading
  rcases h with h | h <;> rw [h] <;> rfl

/-- Sessions that differ in nothing but what no load depends on. -/
structure Stays (s t : Session) : Prop where
  browser : AlikeBrowsers s.browser t.browser
  ready : t.ready = s.ready
  waiting : t.waiting = s.waiting
  backends : t.backends = s.backends
  debouncer : t.debouncer = s.debouncer
  asleep : t.asleep = s.asleep
  journal : t.journal = s.journal

namespace Stays

variable {R : Realm} {h : Hand} {s t u : Session}

theorem refl (s : Session) : Stays s s := ⟨.refl _, rfl, rfl, rfl, rfl, rfl, rfl⟩

theorem trans (hst : Stays s t) (htu : Stays t u) : Stays s u where
  browser := hst.browser.trans htu.browser
  ready := htu.ready.trans hst.ready
  waiting := htu.waiting.trans hst.waiting
  backends := htu.backends.trans hst.backends
  debouncer := htu.debouncer.trans hst.debouncer
  asleep := htu.asleep.trans hst.asleep
  journal := htu.journal.trans hst.journal

theorem actions_eq (hst : Stays s t) : t.actions = s.actions := by
  unfold actions
  rw [hst.ready, hst.waiting]

theorem pauses_eq (hst : Stays s t) : t.pauses = s.pauses := by
  unfold pauses
  rw [hst.actions_eq]

theorem runsAhead_eq (hst : Stays s t) : t.runsAhead = s.runsAhead := by
  unfold runsAhead
  rw [hst.ready, hst.asleep]

theorem alike (hst : Stays s t) : Alike s t :=
  .of_actions hst.browser (.of_eq hst.actions_eq) (.of_eq hst.runsAhead_eq) hst.debouncer hst.journal

theorem within (hst : Stays s t) (hs : Within R s) : Within R t where
  backends := hst.backends ▸ hs.backends
  pauses := hst.pauses_eq ▸ hs.pauses
  todo := hst.actions_eq ▸ hs.todo
  prompt := hst.debouncer ▸ hs.prompt
  orderly := hs.orderly.of_perm (.of_eq hst.actions_eq) (.of_eq hst.runsAhead_eq) hst.debouncer

theorem leads (hst : Stays s t) (hstate : t.browser.state = s.browser.state) :
    Leads R ⟨h, s⟩ ⟨h, t⟩ := .move (.calm hst.alike hstate) hst.within

theorem settles {load : Load} {stage : Stage} (hst : Stays s t)
    (hstate : t.browser.state = .idle ∨ t.browser.state = .failed) :
    Leads R ⟨.loading load stage, s⟩ ⟨.settled load, t⟩ :=
  .move (.settle hst.alike hstate) hst.within

/-- A change of the browser alone. -/
theorem update {f : Browser → Browser} (hf : AlikeBrowsers s.browser (f s.browser)) :
    Stays s (s.update f) := ⟨hf, rfl, rfl, rfl, rfl, rfl, rfl⟩

end Stays

/-- Sessions that differ in nothing but what no load depends on, nor shows. -/
structure Unmoved (s t : Session) : Prop extends Stays s t where
  state : t.browser.state = s.browser.state

namespace Unmoved

variable {R : Realm} {h : Hand} {s t : Session}

theorem leads (hst : Unmoved s t) : Leads R ⟨h, s⟩ ⟨h, t⟩ := hst.toStays.leads hst.state

/-- A change of the browser alone. -/
theorem update {f : Browser → Browser} (hf : AlikeBrowsers s.browser (f s.browser))
    (hstate : (f s.browser).state = s.browser.state) : Unmoved s (s.update f) :=
  ⟨.update hf, hstate⟩

end Unmoved

end Session

end Folio
