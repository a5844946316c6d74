-- The course of actions, as moves. A change of the query owes a reload, which the action makes or
-- puts off before it is over.
import Folio.Proofs.LoadCourse

namespace Folio.Session

variable {R : Realm} {h : Hand} {s t : Session} {m n : Moment}

/-! ## What comes of an action -/

/-- What is in hand when an action is over or has to wait. -/
def Hand.ofAction : Outcome Pause Reply → Hand
  | .paused pause => match pause.loadPause? with
    | some p => .waiting p
    | none => if pause.owes then .owing else .free
  | _ => .free

/-- Whether an action may wait for something. -/
structure Realm.Admits (R : Realm) (pause : Pause) : Prop where
  load : ∀ p, pause.loadPause? = some p → R.pause p
  owes : pause.owes = true → R.holds

/-- What comes of an action from some moment on. -/
structure Acts (R : Realm) (m : Moment) (r : Session × Outcome Pause Reply) : Prop where
  leads : Leads R m ⟨Hand.ofAction r.2, r.1⟩
  paused : Within R m.session → ∀ pause, r.2 = .paused pause → R.Admits pause

namespace Acts

variable {r : Session × Outcome Pause Reply}

theorem after (hmn : Leads R m n) (hn : Acts R n r) : Acts R m r :=
  ⟨hmn.trans hn.leads, fun hw => hn.paused (hmn hw).2⟩

theorem given (hm : Within R m.session → Acts R m r) : Acts R m r :=
  ⟨fun hw => (hm hw).leads hw, fun hw => (hm hw).paused hw⟩

theorem done (hleads : Leads R m ⟨.free, t⟩) (reply : Reply) : Acts R m (t, .done reply) :=
  ⟨hleads, fun _ _ hp => by cases hp⟩

theorem raised (hleads : Leads R m ⟨.free, t⟩) (f : Fault) : Acts R m (t, .raised f) :=
  ⟨hleads, fun _ _ hp => by cases hp⟩

/-- An action that waits for something other than a load. -/
theorem pausing {pause : Pause} (hleads : Leads R m ⟨Hand.ofAction (.paused pause), t⟩)
    (hload : pause.loadPause? = none) (howes : pause.owes = true → R.holds) :
    Acts R m (t, .paused pause) := by
  refine ⟨hleads, fun _ other hother => ?_⟩
  cases hother
  refine ⟨fun p hp => ?_, howes⟩
  rw [hload] at hp
  cases hp

theorem thenReply {r : Session × Outcome LoadPause Bool} (hr : Ends R m r) (after : AfterLoad) :
    Acts R m (Session.thenReply r after) := by
  obtain ⟨t, outcome⟩ := r
  cases outcome with
  | done shown => exact .done hr.leads _
  | raised f => exact .raised hr.leads f
  | paused p =>
    refine ⟨hr.leads, fun hw pause hp => ?_⟩
    cases hp
    refine ⟨fun q hq => ?_, fun howes => ?_⟩
    · cases hq
      exact hr.paused hw p rfl
    · cases howes

end Acts

/-! ## Runs of the debouncer -/

theorem runsAhead_abort (s : Session) (run : Nat) :
    (s.abort run).runsAhead = s.runsAhead.filter (· != run) := by
  have hjobs : (s.ready.filter (abort.keeps run ·)).filterMap Job.run? =
      (s.ready.filterMap Job.run?).filter (· != run) := by
    rw [List.filterMap_filter, List.filter_filterMap]
    refine List.filterMap_congr fun job _ => ?_
    cases job with
    | scheduled n | due n => by_cases hn : n = run <;> simp [abort.keeps, Job.run?, Option.filter, hn]
    | resume w => exact ite_self none
    | _ => rfl
  have hasleep : ((s.asleep.filter (·.2 != run)).map (·.2)).toList =
      (s.asleep.map (·.2)).toList.filter (· != run) := by
    cases s.asleep with
    | none => rfl
    | some entry =>
      by_cases hn : entry.2 = run <;> simp [Option.filter, hn]
  unfold runsAhead abort
  rw [List.filter_append, hjobs, hasleep]

theorem runsAhead_cancelRun (s : Session) : s.cancelRun.runsAhead.Sublist s.runsAhead := by
  cases hl : s.debouncer.latest with
  | none => rw [cancelRun_none hl]
  | some run =>
    have habort : s.cancelRun.runsAhead = (s.abort run).runsAhead := by rw [cancelRun_some hl]; rfl
    rw [habort, runsAhead_abort]
    exact List.filter_sublist

/-- When the run that is pending is cancelled none is ahead any more. -/
theorem Orderly.runsAhead_cancelRun (h : s.Orderly) : s.cancelRun.runsAhead = [] := by
  cases hl : s.debouncer.latest with
  | none =>
    rw [cancelRun_none hl]
    exact h.runsAhead_of_none hl
  | some run =>
    have habort : s.cancelRun.runsAhead = (s.abort run).runsAhead := by rw [cancelRun_some hl]; rfl
    rw [habort, runsAhead_abort]
    rcases h.runsAhead_cases with hnone | ⟨other, hlatest, hone⟩
    · rw [hnone]
      rfl
    · rw [hl] at hlatest
      cases hlatest
      simp [hone]

theorem cancelRun_within (s : Session) (hw : Within R s) : Within R s.cancelRun where
  backends := by
    cases hl : s.debouncer.latest with
    | none => rw [cancelRun_none hl]; exact hw.backends
    | some run => rw [cancelRun_some hl]; exact hw.backends
  pauses := fun p hp => hw.pauses p (((actions_cancelRun s).filterMap _).subset hp)
  todo := fun w hmem => hw.todo w ((actions_cancelRun s).subset hmem)
  prompt := Or.inr (cancelRun_latest s)
  orderly := by
    have hnone := hw.orderly.runsAhead_cancelRun
    refine ⟨hnone ▸ List.nil_sublist _, fun run hrun => ?_, fun w hmem run howner => ?_⟩
    · rw [cancelRun_latest] at hrun
      cases hrun
    · obtain ⟨hlt, -⟩ := hw.orderly.owners w ((actions_cancelRun s).subset hmem) run howner
      rw [hnone, cancelRun_issued]
      exact ⟨hlt, List.not_mem_nil⟩

/-- The run that is pending is forgotten; when none has been scheduled nothing is. -/
theorem cancelRun_leads (s : Session) : Leads R ⟨.owing, s⟩ ⟨.owing, s.cancelRun⟩ := by
  refine .given fun hw => ?_
  rcases hw.prompt with hwide | hnone
  · exact .move (.cancel hwide s) (cancelRun_within s)
  · rw [cancelRun_none hnone]
    exact .refl _

theorem runsAhead_scheduleRun (s : Session) :
    s.scheduleRun.runsAhead = s.cancelRun.runsAhead ++ [s.cancelRun.debouncer.issued] := by
  unfold runsAhead scheduleRun spawn
  rw [List.filterMap_append, ← List.append_assoc]
  rfl

theorem scheduleRun_within (hwide : R.wide) (s : Session) (hw : Within R s) :
    Within R s.scheduleRun := by
  have hcancelled := cancelRun_within s hw
  have hactions : s.scheduleRun.actions = s.cancelRun.actions := by
    unfold scheduleRun
    exact actions_spawn rfl
  have hahead : s.scheduleRun.runsAhead = [s.cancelRun.debouncer.issued] := by
    rw [runsAhead_scheduleRun, hw.orderly.runsAhead_cancelRun]
    rfl
  refine ⟨hcancelled.backends, ?_, hactions ▸ hcancelled.todo, Or.inl hwide, ?_, ?_, ?_⟩
  · have hpauses : s.scheduleRun.pauses = s.cancelRun.pauses := by
      unfold pauses
      rw [hactions]
    exact hpauses ▸ hcancelled.pauses
  · rw [hahead]
    exact .refl _
  · intro run hrun
    cases hrun
    exact Nat.lt_succ_self _
  · intro w hmem run howner
    obtain ⟨hlt, -⟩ := hcancelled.orderly.owners w (hactions ▸ hmem) run howner
    rw [hahead]
    refine ⟨Nat.lt_succ_of_lt hlt, fun hin => ?_⟩
    exact absurd (List.mem_singleton.mp hin) (Nat.ne_of_lt hlt)

theorem runsAhead_take {before after : List Job} {job : Job}
    (hready : s.ready = before ++ job :: after) :
    ({ s with ready := before ++ after } : Session).runsAhead.Sublist s.runsAhead := by
  have hsub : (before ++ after).Sublist s.ready := by
    rw [hready]
    exact (List.sublist_cons_self job after).append_left before
  exact (hsub.filterMap _).append_left _

/-- A job that is part of no run is taken out of what is ready. -/
theorem runsAhead_pass {before after : List Job} {job : Job}
    (hready : s.ready = before ++ job :: after) (hrun : job.run? = none) :
    ({ s with ready := before ++ after } : Session).runsAhead = s.runsAhead := by
  unfold runsAhead
  dsimp only
  rw [hready, List.filterMap_append (f := Job.run?), List.filterMap_append (f := Job.run?),
    List.filterMap_cons_none hrun]

/-- Where a run is ready it is the only one ahead. -/
theorem Orderly.alone (h : s.Orderly) {before after : List Job} {job : Job} {run : Nat}
    (hready : s.ready = before ++ job :: after) (hrun : job.run? = some run) :
    s.debouncer.latest = some run ∧ s.runsAhead = [run] ∧
      ({ s with ready := before ++ after } : Session).runsAhead = [] := by
  have htaken : s.runsAhead.Perm
      (run :: ({ s with ready := before ++ after } : Session).runsAhead) := by
    unfold runsAhead
    dsimp only
    rw [hready, List.filterMap_append (f := Job.run?), List.filterMap_append (f := Job.run?),
      List.filterMap_cons_some hrun, ← List.append_assoc, ← List.append_assoc]
    exact List.perm_middle
  rcases h.runsAhead_cases with hnone | ⟨latest, hlatest, hone⟩
  · rw [hnone] at htaken
    exact absurd htaken.symm.eq_nil (List.cons_ne_nil _ _)
  · rw [hone] at htaken
    obtain ⟨rfl, hrest⟩ := List.cons.inj (List.singleton_perm.mp htaken)
    exact ⟨hlatest, hone, hrest.symm⟩

/-- A run has begun, if it was not forgotten. -/
def Past (run : Nat) (s : Session) : Prop := run < s.debouncer.issued ∧ run ∉ s.runsAhead

/-- What has begun is never ahead again. -/
theorem Past.move {run : Nat} (hmove : Move R m n) (h : Past run m.session) : Past run n.session := by
  obtain ⟨hlt, hno⟩ := h
  have halike : ∀ {s t : Session}, Alike s t → run < s.debouncer.issued → run ∉ s.runsAhead →
      Past run t := fun like hlt hno =>
    ⟨like.debouncer ▸ hlt, fun hmem => hno (like.ahead.mem_iff.mp hmem)⟩
  have hcancelled : ∀ {s : Session}, run < s.debouncer.issued → run ∉ s.runsAhead →
      Past run s.cancelRun := fun {s} hlt hno =>
    ⟨(cancelRun_issued s).symm ▸ hlt, fun hmem => hno ((runsAhead_cancelRun s).subset hmem)⟩
  cases hmove with
  | calm like | refuse like | giveUp like | settle like => exact halike like hlt hno
  | goOn ready | due _ ready | pick ready =>
    exact ⟨hlt, fun hmem => hno ((runsAhead_take ready).subset hmem)⟩
  | cancel => exact hcancelled hlt hno
  | postpone wide s =>
    obtain ⟨hissued, hahead⟩ := hcancelled (s := s) hlt hno
    refine ⟨Nat.lt_succ_of_lt hissued, fun hmem => ?_⟩
    rw [runsAhead_scheduleRun] at hmem
    rcases List.mem_append.mp hmem with hin | hin
    · exact hahead hin
    · exact absurd (List.mem_singleton.mp hin) (Nat.ne_of_lt hissued)
  | @runOver other s begun =>
    refine ⟨?_, hno⟩
    unfold Debouncer.settled
    split <;> exact hlt
  | select s collection => exact hcancelled hlt hno
  | ask request =>
    cases request
    exact ⟨hlt, hno⟩
  | display generation =>
    refine ⟨hlt, fun hmem => hno ?_⟩
    unfold showFetched at hmem
    rw [runsAhead_spawn rfl] at hmem
    exact hmem
  | showAgain recalled commit =>
    rw [showKept_committed commit]
    refine ⟨hlt, fun hmem => hno ?_⟩
    dsimp only at hmem
    rw [runsAhead_spawn rfl] at hmem
    exact hmem
  | _ => exact ⟨hlt, hno⟩

theorem Orderly.settled {run : Nat} (h : s.Orderly) (hno : run ∉ s.runsAhead) :
    ({ s with debouncer := s.debouncer.settled run } : Session).Orderly := by
  by_cases hlatest : s.debouncer.latest = some run
  · have hahead : s.runsAhead = [] := by
      rcases h.runsAhead_cases with hnone | ⟨other, hother, hone⟩
      · exact hnone
      · rw [hlatest] at hother
        cases hother
        exact absurd (hone ▸ List.mem_cons_self) hno
    have hsettled : s.debouncer.settled run = { s.debouncer with latest := none } := by
      unfold Debouncer.settled
      simp [hlatest]
    rw [hsettled]
    exact ⟨hahead ▸ List.nil_sublist _, (fun _ hrun => by cases hrun), h.owners⟩
  · have hsame : s.debouncer.settled run = s.debouncer := by
      unfold Debouncer.settled
      simp [hlatest]
    rw [hsame]
    exact h

/-! ## Effects -/

theorem renew_leads (s : Session) {f : Browser → Browser} (renewed : Renewed s.browser (f s.browser)) :
    Leads R ⟨.free, s⟩ ⟨.owing, s.renew f⟩ :=
  .move (.bump s renewed) fun hw => note_within _ (update_within _ hw)

theorem reconfigure_leads (s : Session) (config : QueryConfig) (filters : Bool) :
    Leads R ⟨.free, s⟩ ⟨.owing, s.reconfigure config filters⟩ := by
  have hbump : Leads R ⟨.free, s⟩ ⟨.owing, s.renew (·.reconfigure config)⟩ :=
    renew_leads s ⟨rfl, rfl, rfl, rfl, rfl, rfl, rfl, rfl, fun _ => id⟩
  unfold reconfigure
  dsimp only
  split
  · exact hbump.trans (spawn_leads _ rfl rfl)
  · exact hbump

theorem newId_leads (s : Session) : Leads R ⟨h, s⟩ ⟨h, s.newId.1⟩ :=
  Unmoved.leads ⟨⟨.refl _, rfl, rfl, rfl, rfl, rfl, rfl⟩, rfl⟩

theorem openGate_leads (s : Session) (gate : Gate) :
    Leads R ⟨h, s⟩ ⟨h, s.openGate gate⟩ := by
  have hactions := actions_openGate s gate
  have hahead := runsAhead_openGate s gate
  have hpauses : (s.openGate gate).pauses.Perm s.pauses := hactions.filterMap _
  refine .move (.calm (.of_actions (.refl _) hactions (.of_eq hahead) rfl rfl) rfl)
    fun hw => ⟨hw.backends, ?_, ?_, hw.prompt, hw.orderly.of_perm hactions (.of_eq hahead) rfl⟩
  · exact fun p hp => hw.pauses p (hpauses.mem_iff.mp hp)
  · exact fun w hmem => hw.todo w (hactions.mem_iff.mp hmem)

/-- All but the history is that of a collection just selected. -/
theorem selectCollection_browser (s : Session) (collection : Option String) :
    ∃ history, (s.selectCollection collection).browser =
      { s.cancelRun.browser.select collection with history := history } := by
  unfold selectCollection update note
  dsimp only
  split <;> exact ⟨_, rfl⟩

/-- Pages that were kept may be dropped when another backend is used. -/
theorem useBackend_browser (s : Session) (connection : String) (backend : Nat) :
    ∃ cache unfiltered, (s.useBackend connection backend).browser =
        { s.browser with
          cache := cache
          unfiltered := unfiltered
          executor := some backend
          connection := some connection
          attempts := 0
          problem := none } ∧
      ∀ page ∈ cache.pages, page ∈ s.browser.cache.pages := by
  unfold useBackend update note
  dsimp only
  split
  · exact ⟨_, _, rfl, fun _ h => by cases h⟩
  · exact ⟨_, _, rfl, fun _ => id⟩

/-- What is in hand in some phase of an action. -/
def handOf : Phase → Hand
  | .owing => .owing
  | _ => .free

theorem handOf_settled {phase : Phase} (h : phase ≠ .owing) : handOf phase = .free := by
  cases phase with
  | owing => exact absurd rfl h
  | _ => rfl

/-- The moment at which an action has come to some phase. -/
def momentOf (m : Phase × Session) : Moment := ⟨handOf m.1, m.2⟩

section

variable (hR : R.Laws)

include hR

theorem afterWrite_leads {number : Nat} {b c : Backend} {collection : String} {command : Command}
    (hc : R.command command) (there : s.Writable number b collection)
    (haffects : Command.Affects command b c) : Leads R ⟨.free, s⟩ ⟨.free, s.afterWrite number c⟩ :=
  (setBackend_leads there.backend (hR.affects hc haffects)).trans (Unmoved.leads
    (.update ⟨⟨rfl, rfl, rfl, rfl⟩, rfl, .refl _, .refl _, fun _ h => by cases h⟩ rfl))

/-- Every effect of an action is made of moves. -/
theorem Effect.leads {p q : Phase} (h : Effect R.command (p, s) (q, t)) :
    Leads R ⟨handOf p, s⟩ ⟨handOf q, t⟩ := by
  cases h with
  | learn _ forced | learnAnew _ forced =>
    exact (loadSchema_apprised s forced).unmoved.leads
  | inform => exact .refl _
  | newId => exact newId_leads s
  | trouble _ f => exact .move (.trouble s f) fun hw => note_within _ (update_within _ hw)
  | save | unsave | mark | merge | failArchive => exact Unmoved.leads (.update (.of_basis rfl) rfl)
  | resetAttempts => exact Unmoved.leads (.update (f := ({ · with attempts := 0 })) (.of_basis rfl) rfl)
  | clear => exact Unmoved.leads (.update (f := ({ · with registry := .empty })) (.of_basis rfl) rfl)
  | reconfigure _ config filters => exact reconfigure_leads s config filters
  | resize => exact renew_leads s ⟨rfl, rfl, rfl, rfl, rfl, rfl, rfl, rfl, fun _ => id⟩
  | refresh => exact renew_leads s ⟨rfl, rfl, rfl, rfl, rfl, rfl, rfl, rfl, fun _ h => by cases h⟩
  | cancel => exact cancelRun_leads s
  | postpone ask tardy =>
    have hwide := hR.prompt.resolve_right fun hprompt => tardy (hprompt ask)
    exact .move (.postpone hwide s) (scheduleRun_within hwide s)
  | putOff loading => exact .move (.putOff loading) fun hw => note_within _ (update_within _ hw)
  | select _ collection =>
    exact .move (.select s collection) fun hw => note_within _ (update_within _ (cancelRun_within s hw))
  | attempt => exact Unmoved.leads ⟨⟨.of_basis rfl, rfl, rfl, rfl, rfl, rfl, rfl⟩, rfl⟩
  | @connect connection ask _ _ backend =>
    have hwide := hR.prompt.resolve_right fun hprompt => hprompt ask
    exact .move (.connect hwide s connection backend) fun hw => note_within _ (update_within _ hw)
  | refuse there refuses =>
    obtain ⟨command, hc, haffects⟩ := refuses.affects
    exact setBackend_leads there.backend (hR.affects hc haffects)
  | delete ask _ there done left =>
    refine (afterWrite_leads hR ask there (.of_delete done)).trans
      (Unmoved.leads ⟨⟨?_, rfl, rfl, rfl, rfl, rfl, rfl⟩, rfl⟩)
    exact ⟨⟨rfl, rfl, rfl, rfl⟩, rfl, .refl _, .single (.deleted left), fun _ => id⟩
  | strand ask _ there done => exact afterWrite_leads hR ask there (.of_delete done)
  | @update key changes _ _ _ _ _ ask there done =>
    refine (afterWrite_leads hR ask there (.of_update done)).trans (Unmoved.leads (.update ?_ rfl))
    exact ⟨⟨rfl, rfl, rfl, rfl⟩, rfl, .refl _,
      .single (.changed key ((changes.fields?).getD []) s.browser.view), fun _ => id⟩
  | upsert ask there done =>
    exact (afterWrite_leads hR ask there (.of_upsert done)).trans
      (renew_leads _ ⟨rfl, rfl, rfl, rfl, rfl, rfl, rfl, rfl, fun _ => id⟩)
  | affect ask there affects =>
    exact setBackend_leads there (hR.affects ask (.backend _ affects))
  | openGate _ gate => exact openGate_leads s gate
  | send => exact Unmoved.leads ⟨⟨.refl _, rfl, rfl, rfl, rfl, rfl, rfl⟩, rfl⟩
  | hear => exact respond_leads hR (Prod.eta _).symm

theorem Effects.leads {phases next : Phase × Session} (h : Effects R.command phases next) :
    Leads R (momentOf phases) (momentOf next) := by
  refine h.keeps (I := fun n => Leads R (momentOf phases) (momentOf n)) (fun heffect hm => ?_) (.refl _)
  exact hm.trans (heffect.leads hR)

end

/-! ## What comes of actions -/

theorem onWeb_acts {m : Moment} {r : Session × Outcome Pause Reply} (hr : Acts R m r)
    (before : Option Nat) (waits : Bool) : Acts R m (onWeb before waits r) := by
  obtain ⟨t, outcome⟩ := r
  cases outcome with
  | raised f => exact .done hr.leads _
  | done reply =>
    unfold onWeb
    dsimp only
    split
    · exact .pausing hr.leads rfl fun howes => by cases howes
    · exact .done hr.leads _
  | paused pause =>
    refine ⟨hr.leads, fun hw other hother => ?_⟩
    cases hother
    obtain ⟨hload, howes⟩ := hr.paused hw pause rfl
    exact ⟨hload, howes⟩

/-- Whatever comes of an action is made of moves. -/
theorem Ensues.acts {m : Phase × Session} {r : Session × Outcome Pause Reply} (hR : R.Laws)
    (h : Ensues R.command m r) : Acts R (momentOf m) r := by
  induction h with
  | done effects settled reply =>
    have hleads := effects.leads hR
    unfold momentOf at hleads ⊢
    dsimp only at hleads
    rw [handOf_settled settled] at hleads
    exact .done hleads reply
  | raised effects early f =>
    have hleads := effects.leads hR
    unfold momentOf at hleads ⊢
    dsimp only at hleads
    rw [handOf_settled (Phase.ne_owing_of_isEarly early)] at hleads
    exact .raised hleads f
  | strands effects => exact .raised (effects.leads hR) _
  | @untaught t query f effects taken =>
    refine .after (effects.leads hR) (.given fun hw => ?_)
    rcases hR.schemas hw query with hok | hflawed
    · exact absurd (taken.symm.trans hok) nofun
    · exact .raised (.move (.leave hflawed t) id) f
  | @load t effects page forced after =>
    exact .after (effects.leads hR)
      (.thenReply (loadDocuments_ends hR t page forced (Or.inl rfl) fun h => by cases h) after)
  | @reload t effects idle after =>
    exact .after (effects.leads hR)
      (.thenReply (loadDocuments_ends hR t (.int 1) true (Or.inr ⟨rfl, rfl, rfl⟩) fun _ => idle) after)
  | @schema t forced query after effects held =>
    obtain ⟨-, -, b, hb, hheld⟩ := loadSchema_paused held
    have hhand : Hand.ofAction (.paused (.schema query after)) = handOf after.waiting := by
      cases after <;> rfl
    refine .after (effects.leads hR) (.given fun hw => .pausing (hhand ▸ .refl _) rfl fun _ => ?_)
    exact hR.holds (hw.backends b (List.mem_of_getElem? hb)) hheld
  | request effects => exact .pausing (effects.leads hR) rfl fun howes => by cases howes
  | background effects => exact .pausing (effects.leads hR) rfl fun howes => by cases howes
  | web _ before waits ih => exact onWeb_acts ih before waits

/-! ## What is done apart from actions -/

theorem logRecent_leads (s : Session) : Leads R ⟨.free, s⟩ ⟨.free, s.logRecent⟩ := by
  rcases s.logRecent_cases with hsame | ⟨history, hlogged⟩
  · rw [hsame]
    exact .refl _
  · rw [hlogged]
    exact (newId_leads s).trans (Unmoved.leads (.update (.of_basis rfl) rfl))

end Folio.Session
