-- The course of a session. Whatever is asked, in whatever order jobs are done and waiting actions
-- are let go on, everything that happens is made of the moves from moment to moment.
import Folio.Proofs.ActionCourse

open Relation (ReflTransGen)

namespace Folio.Session

variable {R : Realm} {h : Hand} {s t : Session} {m : Moment}

/-! ## Commands -/

/-- What is in hand when a waiting action is gone on with. -/
def Hand.ofPause (pause : Pause) : Hand :=
  match pause.loadPause? with
  | some p => .loading p.load p.stage
  | none => if pause.owes then .owing else .free

theorem handOf_phase (pause : Pause) :
    handOf pause.phase = if pause.owes then .owing else .free := by
  induction pause with
  | schema query after => cases after <;> rfl
  | web before waits pause ih => exact ih
  | _ => rfl

section

variable (hR : R.Laws)

include hR

/-- Whatever is asked for is made of moves. -/
theorem perform_acts (s : Session) {command : Command} (hc : R.command command) :
    Acts R ⟨.free, s⟩ (s.perform command) := (perform_ensues s hc).acts hR

/-- A load that has waited is gone on with. -/
theorem resumeLoad_acts (s : Session) {pause : Pause} {p : LoadPause}
    (hpause : pause.loadPause? = some p) (hadmits : R.pause p) :
    Acts R ⟨.loading p.load p.stage, s⟩ (s.resume pause) := by
  induction pause with
  | load own after =>
    cases hpause
    exact .thenReply (resumeLoad_ends hR s hadmits) after
  | web before waits pause ih => exact onWeb_acts (ih hpause) before waits
  | _ => cases hpause

theorem resume_acts (s : Session) {pause : Pause}
    (hadmits : ∀ p, pause.loadPause? = some p → R.pause p) :
    Acts R ⟨Hand.ofPause pause, s⟩ (s.resume pause) := by
  unfold Hand.ofPause
  cases hp : pause.loadPause? with
  | some p => exact resumeLoad_acts hR s hp (hadmits p hp)
  | none =>
    rw [← handOf_phase]
    exact .after (taught_apprised s pause).unmoved.leads ((resume_ensues s hp).acts hR)

omit hR in
/-- An action is put among those that wait. -/
theorem wait_leads (t : Session) {w : Waiting} (hadmits : R.Admits w.pause)
    (htodo : ∀ c, w.owner = .client c → ∀ command ∈ c.todo, R.command command)
    (hpast : ∀ run, w.owner = .run run → Past run t) :
    Leads R ⟨Hand.ofAction (.paused w.pause), t⟩ ⟨.free, { t with waiting := t.waiting ++ [w] }⟩ := by
  have hactions := actions_park t w
  have hpauses := pauses_park t w
  have hwithin : Within R t → Within R { t with waiting := t.waiting ++ [w] } := by
    refine fun hw => ⟨hw.backends, fun p hp => ?_, fun v hv => ?_, hw.prompt,
      hw.orderly.ahead, hw.orderly.issued, fun v hv => ?_⟩
    · rw [hpauses] at hp
      rcases List.mem_append.mp hp with hmem | hmem
      · exact hw.pauses p hmem
      · exact hadmits.load p (Option.mem_toList.mp hmem)
    · rw [hactions] at hv
      rcases List.mem_append.mp hv with hmem | hmem
      · exact hw.todo v hmem
      · exact List.mem_singleton.mp hmem ▸ htodo
    · rw [hactions] at hv
      rcases List.mem_append.mp hv with hmem | hmem
      · exact hw.orderly.owners v hmem
      · exact List.mem_singleton.mp hmem ▸ hpast
  unfold Hand.ofAction
  dsimp only
  cases hp : w.pause.loadPause? with
  | some p => exact .move (.park t hp) hwithin
  | none =>
    dsimp only
    split
    · rename_i howes
      exact .move (.defer (hadmits.owes howes) t howes) hwithin
    · rw [hp, Option.toList_none, List.append_nil] at hpauses
      refine .move (.calm ⟨.refl _, .of_eq hpauses, fun ⟨v, hv, howes⟩ => ?_, .refl _, rfl, rfl⟩ rfl)
        hwithin
      exact ⟨v, hactions ▸ List.mem_append_left _ hv, howes⟩

/-! ## Clients and jobs -/

theorem serve_leads {commands : List Command} (hc : ∀ command ∈ commands, R.command command)
    (s : Session) (c : Client) : Leads R ⟨.free, s⟩ ⟨.free, s.serve c commands⟩ := by
  induction commands generalizing s c with
  | nil => exact Unmoved.leads ⟨⟨.refl _, rfl, rfl, rfl, rfl, rfl, rfl⟩, rfl⟩
  | cons command rest ih =>
    have hrest : ∀ command ∈ rest, R.command command :=
      fun other hmem => hc other (List.mem_cons_of_mem _ hmem)
    have hacts := perform_acts hR s (hc command List.mem_cons_self)
    refine .given fun hw => ?_
    unfold serve
    cases hp : s.perform command with
    | mk t outcome =>
      rw [hp] at hacts
      refine hacts.leads.trans ?_
      cases outcome with
      | done reply => exact ih hrest t _
      | raised f => exact ih hrest t _
      | paused pause =>
        refine wait_leads t (w := ⟨.client { c with todo := rest }, pause⟩)
          (hacts.paused hw pause rfl) (fun other hother => ?_) fun run hrun => by cases hrun
        cases hother
        exact hrest

/-- A client is gone on with after an action that has waited. -/
theorem serveAfter_leads {c : Client} (hc : ∀ command ∈ c.todo, R.command command)
    {r : Session × Outcome Pause Reply} (hr : Acts R m r) :
    Leads R m ⟨.free, r.1.serveAfter c r.2⟩ := by
  obtain ⟨t, outcome⟩ := r
  refine .given fun hw => hr.leads.trans ?_
  cases outcome with
  | done reply => exact serve_leads hR hc t _
  | raised f => exact serve_leads hR hc t _
  | paused pause =>
    refine wait_leads t (w := ⟨.client c, pause⟩) (hr.paused hw pause rfl) (fun other hother => ?_)
      fun run hrun => by cases hrun
    cases hother
    exact hc

omit hR in
/-- A run that has begun goes on, and is over when its action is. -/
theorem runAfter_leads {run : Nat} {r : Session × Outcome Pause Reply} (hr : Acts R m r)
    (hpast : Past run m.session) : Leads R m ⟨.free, r.1.runAfter run r.2⟩ := by
  obtain ⟨t, outcome⟩ := r
  refine .given fun hw => ?_
  have hreached : Past run t :=
    Leads.keeps (fun hmove h => Past.move hmove h) (hr.leads hw).1 hpast
  have hsettled : Leads R ⟨.free, t⟩ ⟨.free, { t with debouncer := t.debouncer.settled run }⟩ := by
    refine .move (.runOver hreached.2) fun hwt => ⟨hwt.backends, hwt.pauses, hwt.todo, ?_, ?_⟩
    · refine hwt.prompt.imp_right fun hnone => ?_
      unfold Debouncer.settled
      split
      · rfl
      · exact hnone
    · exact hwt.orderly.settled hreached.2
  refine hr.leads.trans ?_
  cases outcome with
  | done reply => exact hsettled
  | raised f => exact hsettled
  | paused pause =>
    refine wait_leads t (w := ⟨.run run, pause⟩) (hr.paused hw pause rfl) (fun c hc => by cases hc)
      fun other hother => ?_
    cases hother
    exact hreached

omit hR in
/-- A job is taken out of what is ready. -/
theorem take_within {before after : List Job} {job : Job}
    (hready : s.ready = before ++ job :: after) (hw : Within R s) :
    Within R { s with ready := before ++ after } := by
  have hactions := actions_take_sublist hready
  have hahead := runsAhead_take hready
  refine ⟨hw.backends, ?_, ?_, hw.prompt, hahead.trans hw.orderly.ahead, hw.orderly.issued, ?_⟩
  · exact fun p hp => hw.pauses p ((hactions.filterMap _).subset hp)
  · exact fun w hmem => hw.todo w (hactions.subset hmem)
  · intro w hmem run howner
    obtain ⟨hlt, hno⟩ := hw.orderly.owners w (hactions.subset hmem) run howner
    exact ⟨hlt, fun hin => hno (hahead.subset hin)⟩

omit hR in
theorem take_leads {before after : List Job} {job : Job} (hready : s.ready = before ++ job :: after)
    (hno : job.action? = none) (hrun : job.run? = none) :
    Leads R ⟨.free, s⟩ ⟨.free, { s with ready := before ++ after }⟩ := by
  have hactions : ({ s with ready := before ++ after } : Session).actions = s.actions := by
    unfold actions
    dsimp only
    rw [hready, List.filterMap_append (f := Job.action?), List.filterMap_append (f := Job.action?),
      List.filterMap_cons_none hno]
  have hahead := runsAhead_pass hready hrun
  exact .move (.calm (.of_actions (.refl _) (.of_eq hactions) (.of_eq hahead) rfl rfl) rfl)
    (take_within hready)

omit hR in
/-- A waiting action that has been let go on is gone on with. -/
theorem pick_leads {before after : List Job} {w : Waiting}
    (hready : s.ready = before ++ .resume w :: after) :
    Leads R ⟨.free, s⟩ ⟨Hand.ofPause w.pause, { s with ready := before ++ after }⟩ := by
  have hactions := actions_take hready
  unfold Hand.ofPause
  cases hp : w.pause.loadPause? with
  | some p => exact .move (.pick hready hp) (take_within hready)
  | none =>
    dsimp only
    split
    · rename_i howes
      exact .move (.goOn hready howes) (take_within hready)
    · rename_i howes
      have hpauses := hactions.filterMap (·.pause.loadPause?)
      rw [List.filterMap_cons_none (f := fun w : Waiting => w.pause.loadPause?) hp] at hpauses
      have hrun : Job.run? (.resume w) = none := rfl
      have hahead := runsAhead_pass hready hrun
      refine .move (.calm ⟨.refl _, hpauses.symm, fun ⟨v, hv, hvowes⟩ => ?_, .of_eq hahead, rfl, rfl⟩
        rfl) (take_within hready)
      rcases List.mem_cons.mp (hactions.mem_iff.mp hv) with rfl | hmem
      · exact absurd hvowes howes
      · exact ⟨v, hmem, hvowes⟩

omit hR in
/-- A run that goes to sleep, or wakes, is as much ahead as before. -/
theorem rerun_leads (hwide : R.wide) (hactions : t.actions = s.actions)
    (hahead : t.runsAhead.Perm s.runsAhead) (hbrowser : t.browser = s.browser)
    (hbackends : t.backends = s.backends) (hdebouncer : t.debouncer = s.debouncer)
    (hjournal : t.journal = s.journal) : Leads R ⟨.free, s⟩ ⟨.free, t⟩ := by
  have hpauses : t.pauses = s.pauses := by
    unfold pauses
    rw [hactions]
  refine .move (.calm (.of_actions (hbrowser ▸ .refl _) (.of_eq hactions) hahead hdebouncer hjournal)
    (congrArg Browser.state hbrowser)) fun hw => ?_
  exact ⟨hbackends ▸ hw.backends, hpauses ▸ hw.pauses, hactions ▸ hw.todo, Or.inl hwide,
    hw.orderly.of_perm (.of_eq hactions) hahead hdebouncer⟩

omit hR in
theorem scheduled_leads (hwide : R.wide) {before after : List Job} {run : Nat}
    (hready : s.ready = before ++ .scheduled run :: after) :
    Leads R ⟨.free, s⟩
      ⟨.free, ({ s with ready := before ++ after } : Session).doJob (.scheduled run)⟩ := by
  refine .given fun hw => ?_
  obtain ⟨-, hahead, hrest⟩ := hw.orderly.alone hready rfl
  obtain ⟨hawake, hfree⟩ := List.append_eq_nil_iff.mp hrest
  have hactions : ({ s with ready := before ++ after } : Session).actions = s.actions := by
    unfold actions
    dsimp only
    rw [hready, List.filterMap_append (f := Job.action?), List.filterMap_append (f := Job.action?)]
    rfl
  have hjob : ({ s with ready := before ++ after } : Session).doJob (.scheduled run) =
      if s.debouncer.sleeps
      then { s with ready := before ++ after, asleep := some (s.debouncer.due s.clock, run) }
      else ({ s with ready := before ++ after } : Session).spawn (.due run) := rfl
  rw [hjob]
  split
  · refine rerun_leads hwide hactions (.of_eq ?_) rfl rfl rfl rfl
    rw [hahead]
    unfold runsAhead
    dsimp only at hfree ⊢
    rw [hfree]
    rfl
  · refine rerun_leads hwide (hactions ▸ ?_) (.of_eq ?_) rfl rfl rfl rfl
    · unfold actions spawn
      simp [Job.action?]
    · rw [hahead]
      unfold runsAhead spawn
      dsimp only at hfree hawake ⊢
      rw [List.filterMap_append (f := Job.run?), hfree, hawake]
      rfl

omit hR in
theorem action_admitted (hw : Within R s) {w : Waiting} (hmem : w ∈ s.actions) :
    ∀ p, w.pause.loadPause? = some p → R.pause p :=
  fun p hp => hw.pauses p (List.mem_filterMap.mpr ⟨w, hmem, hp⟩)

/-- Every job that is ready is made of moves. -/
theorem doJob_leads {before after : List Job} {job : Job}
    (hready : s.ready = before ++ job :: after) :
    Leads R ⟨.free, s⟩ ⟨.free, ({ s with ready := before ++ after } : Session).doJob job⟩ := by
  have hmem : job ∈ s.ready := by rw [hready]; simp
  refine .given fun hw => ?_
  have hwide : ∀ run, job.run? = some run → R.wide := fun run hrun =>
    hw.prompt.resolve_right fun hnone => by
      have hahead := hw.orderly.runsAhead_of_none hnone
      have hin : run ∈ s.runsAhead :=
        List.mem_append_right _ (List.mem_filterMap.mpr ⟨job, hmem, hrun⟩)
      rw [hahead] at hin
      cases hin
  cases job with
  | logRecent => exact (take_leads hready rfl rfl).trans (logRecent_leads _)
  | discover collection rows => exact (take_leads hready rfl rfl).trans (discover_apprised _ _ _).unmoved.leads
  | scheduled run => exact scheduled_leads (hwide run rfl) hready
  | due run =>
    obtain ⟨hlatest, -, hrest⟩ := hw.orderly.alone hready rfl
    refine .trans (.move (.due (hwide run rfl) hready) (take_within hready)) ?_
    refine runAfter_leads ((reloadFirst_ensues _ .verdict).acts hR) ⟨hw.orderly.issued run hlatest, ?_⟩
    rw [hrest]
    exact List.not_mem_nil
  | resume w =>
    have haction : w ∈ s.actions := by
      unfold actions
      exact List.mem_append_left _ (List.mem_filterMap.mpr ⟨_, hmem, rfl⟩)
    have hresumed := resume_acts hR { s with ready := before ++ after } (action_admitted hw haction)
    obtain ⟨owner, pause⟩ := w
    cases owner with
    | client c => exact serveAfter_leads hR (hw.todo _ haction c rfl) (.after (pick_leads hready) hresumed)
    | run run =>
      obtain ⟨hlt, hno⟩ := hw.orderly.owners _ haction run rfl
      refine (pick_leads hready).trans (runAfter_leads hresumed ⟨hlt, fun hin => hno ?_⟩)
      exact (runsAhead_take hready).subset hin

/-! ## Steps -/

omit hR in
/-- What can happen next in a session in which some commands are allowed: somebody is served, any
job that is ready is done, actions that wait are let go on, a run of the debouncer awakes, time goes
on, or answers are taken. -/
inductive Step (allowed : Command → Prop) : Session → Session → Prop where
  | served (s : Session) (c : Client) {commands : List Command}
      (ask : ∀ command ∈ commands, allowed command) : Step allowed s (s.serve c commands)
  | done {s : Session} {before after : List Job} {job : Job}
      (ready : s.ready = before ++ job :: after) :
      Step allowed s (({ s with ready := before ++ after } : Session).doJob job)
  | opened (s : Session) (gate : Gate) : Step allowed s (s.openGate gate)
  | woken {s : Session} {due : Float} {run : Nat} (asleep : s.asleep = some (due, run)) :
      Step allowed s (({ s with clock := due, asleep := none } : Session).spawn (.due run))
  | ticked (s : Session) (clock : Float) : Step allowed s { s with clock := clock }
  | heard (s : Session) : Step allowed s s.takeAnswers.1

/-- Every step is made of moves. -/
theorem Step.leads (h : Step R.command s t) : Leads R ⟨.free, s⟩ ⟨.free, t⟩ := by
  cases h with
  | served c ask => exact serve_leads hR ask s c
  | done ready => exact doJob_leads hR ready
  | opened gate => exact openGate_leads s gate
  | @woken due run hasleep =>
    refine .given fun hw => ?_
    have hwide : R.wide := hw.prompt.resolve_right fun hnone => by
      have hahead := hw.orderly.runsAhead_of_none hnone
      unfold runsAhead at hahead
      rw [hasleep] at hahead
      cases hahead
    refine rerun_leads hwide ?_ ?_ rfl rfl rfl rfl
    · unfold actions spawn
      simp [Job.action?]
    · unfold runsAhead spawn
      dsimp only
      rw [hasleep, List.filterMap_append (f := Job.run?)]
      change (s.ready.filterMap Job.run? ++ [run]).Perm ([run] ++ s.ready.filterMap Job.run?)
      exact List.perm_append_comm
  | ticked clock => exact Unmoved.leads ⟨⟨.refl _, rfl, rfl, rfl, rfl, rfl, rfl⟩, rfl⟩
  | heard => exact Unmoved.leads ⟨⟨.refl _, rfl, rfl, rfl, rfl, rfl, rfl⟩, rfl⟩

/-- So is every course of steps. -/
theorem course_leads (h : ReflTransGen (Step R.command) s t) :
    Leads R ⟨.free, s⟩ ⟨.free, t⟩ := by
  induction h with
  | refl => exact .refl _
  | tail _ hstep ih => exact ih.trans (hstep.leads hR)

end

/-! ## Runs as courses -/

variable {allowed : Command → Prop}

theorem course_doJobs (n : Nat) (s : Session) : ReflTransGen (Step allowed) s (doJobs n s) := by
  induction n generalizing s with
  | zero => exact .refl
  | succ n ih =>
    have hnext : ∀ (t : Session) job rest, t.ready = job :: rest → ReflTransGen (Step allowed) t
        (doJobs n (({ t with ready := rest } : Session).doJob job)) := fun t job rest hready =>
      .head (.done (show t.ready = [] ++ job :: rest from hready)) (ih _)
    have hopened : ReflTransGen (Step allowed) s s.openBackground := by
      unfold openBackground
      split
      · exact .refl
      · exact .single (.opened s .background)
    unfold doJobs
    split
    · rename_i job rest hready
      exact hnext s job rest hready
    · dsimp only
      split
      · rename_i job rest hready
        exact hopened.trans (hnext _ job rest hready)
      · exact hopened

theorem course_ask (s : Session) (number : Nat) {command : Command} (h : allowed command) :
    ReflTransGen (Step allowed) s (s.ask number command) := by
  refine .head (.served s _ fun other hmem => ?_) (course_doJobs _ _)
  rw [List.mem_singleton.mp hmem]
  exact h

theorem course_foldl_ask {commands : List Command}
    (h : ∀ command ∈ commands, allowed command) (s : Session) :
    ReflTransGen (Step allowed) s (commands.foldl (fun s command => s.ask 1 command) s) := by
  induction commands generalizing s with
  | nil => exact .refl
  | cons command rest ih =>
    exact (course_ask s 1 (h command List.mem_cons_self)).trans
      (ih (fun other hother => h other (List.mem_cons_of_mem _ hother)) _)

theorem course_wake {due : Float} {run : Nat} (h : s.asleep = some (due, run)) :
    ReflTransGen (Step allowed) s (s.wake due run) := .head (.woken h) (course_doJobs _ _)

theorem course_passUntil (target : Float) (n : Nat) (s : Session) :
    ReflTransGen (Step allowed) s (passUntil target n s) := by
  induction n generalizing s with
  | zero => exact .single (.ticked s target)
  | succ n ih =>
    unfold passUntil
    split
    · rename_i due run hasleep
      split
      · exact (course_wake hasleep).trans (ih _)
      · exact .single (.ticked s target)
    · exact .single (.ticked s target)

theorem course_sleep (s : Session) (seconds : Float) :
    ReflTransGen (Step allowed) s (s.sleep seconds) := course_passUntil _ _ s

end Folio.Session
