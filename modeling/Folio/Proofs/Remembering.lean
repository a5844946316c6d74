-- What is remembered of filters while other things are done. Loads, changes of the query and writes
-- leave it as it is; selecting a collection takes the sets of its place from the archive. Whatever is
-- done, backends whose requests nobody lets wait go on answering at once.
import Folio.Proofs.Doings
import Folio.Proofs.FirstPages
import Folio.Proofs.LastingFilters

namespace Folio

/-! ## Backends that answer at once -/

/-- Behind a backend stands a store of documents with keys, and nobody has to wait for it. -/
structure Backend.Serves (b : Backend) : Prop where
  keyed : b.Keyed
  unheld : b.held = false
  unheldSchemas : b.schemaHeld = false

namespace Backend

variable {b : Backend}

theorem Serves.of_holds {c : Backend} (h : b.Serves) (hkeyed : c.Keyed) (hholds : c.holds = b.holds) :
    c.Serves :=
  ⟨hkeyed, (congrArg Prod.fst hholds).trans h.unheld,
    (congrArg Prod.snd hholds).trans h.unheldSchemas⟩

namespace Serves

theorem respond (h : b.Serves) (collection : String) (request : Fields) :
    (b.respond collection request).1.Serves :=
  h.of_holds (h.keyed.respond collection request) (respond_holds ..)

theorem delete (h : b.Serves) (collection : String) (keys : Value) :
    (b.delete collection keys).1.Serves :=
  h.of_holds (h.keyed.delete collection keys) (delete_holds ..)

theorem update (h : b.Serves) (collection : String) (key : Value) {changes : Value}
    (hchanges : ∀ fields, changes = .object fields → GivesKeys fields) :
    (b.update collection key changes).1.Serves :=
  h.of_holds (h.keyed.update collection key hchanges) (write_holds ..)

theorem upsert (h : b.Serves) (collection : String) {rows : Value} (hrows : RowsGiveKeys rows) :
    (b.upsert collection rows).1.Serves :=
  h.of_holds (h.keyed.upsert collection hrows) (write_holds ..)

end Serves

end Backend

/-! ## What may be asked for -/

/-- Commands that make nobody wait for a backend, nor the archive fail. -/
def Command.Eager : Command → Prop
  | .failArchive _ | .backend _ .hold | .backend _ .holdSchemas | .backend _ (.release true) => False
  | _ => True

/-- Commands after which backends answer at once, from documents with keys, and the archive works. -/
structure Command.Unhindering (command : Command) : Prop where
  keys : command.GivesKeys
  eager : command.Eager

/-- Commands that neither save nor delete a set. -/
def Command.LeavesSets : Command → Prop
  | .saveFilter _ | .deleteSaved _ => False
  | _ => True

/-- What is asked of a backend, by the browser or past it, lets nobody wait. -/
theorem Backend.Serves.affects {b c : Backend} {command : Command} (hb : b.Serves)
    (hc : command.Unhindering) (h : Session.Command.Affects command b c) : c.Serves := by
  cases h with
  | delete keys collection => exact hb.delete collection keys
  | update key _ collection => exact hb.update collection key hc.keys
  | upsert _ collection => exact hb.upsert collection hc.keys
  | backend number affects =>
    cases affects with
    | delete collection keys => exact hb.delete collection keys
    | update collection key => exact hb.update collection key hc.keys
    | upsert collection => exact hb.upsert collection hc.keys
    | failNext | failSchemas | failDeletes => exact hb.of_holds hb.keyed rfl
    | hold | holdSchemas => exact hc.eager.elim
    | release keep =>
      cases keep with
      | true => exact hc.eager.elim
      | false => exact ⟨hb.keyed, rfl, hb.unheldSchemas⟩
    | releaseSchemas => exact ⟨hb.keyed, hb.unheld, rfl⟩

namespace Session

variable {s t u : Session} {acts more : List HistoryAct}

/-- Nobody has to wait for a backend, and whoever waits for something else has asked for one thing. -/
structure Unhindered (s : Session) : Prop where
  serves : ∀ b ∈ s.backends, b.Serves
  single : ∀ w ∈ s.actions, ∀ c, w.owner = .client c → c.todo = []

/-- What is remembered changes by acts, ids are only given out, and nobody has to wait. -/
structure Remembers (acts : List HistoryAct) (s t : Session) : Prop where
  history : t.browser.history = s.browser.history.after acts
  ids : s.ids ≤ t.ids
  serves : (∀ b ∈ s.backends, b.Serves) → ∀ b ∈ t.backends, b.Serves
  actions : t.actions ⊆ s.actions

namespace Remembers

theorem refl (s : Session) : Remembers [] s s := ⟨rfl, Nat.le_refl _, id, fun _ h => h⟩

theorem append (hst : Remembers acts s t) (htu : Remembers more t u) :
    Remembers (acts ++ more) s u where
  history := by rw [History.after_append, ← hst.history, htu.history]
  ids := Nat.le_trans hst.ids htu.ids
  serves := fun h => htu.serves (hst.serves h)
  actions := fun _ h => hst.actions (htu.actions h)

theorem trans (hst : Remembers acts s t) (htu : Remembers [] t u) : Remembers acts s u := by
  have hall := hst.append htu
  rwa [List.append_nil] at hall

/-- Sessions with the same backends. -/
theorem of_still (history : t.browser.history = s.browser.history.after acts) (ids : s.ids ≤ t.ids)
    (backends : t.backends = s.backends) (actions : t.actions ⊆ s.actions) : Remembers acts s t :=
  ⟨history, ids, fun h => backends ▸ h, actions⟩

theorem update {f : Browser → Browser}
    (h : (f s.browser).history = s.browser.history.after acts) : Remembers acts s (s.update f) :=
  of_still h (Nat.le_refl _) rfl fun _ h => h

theorem note (s : Session) (event : LoadEvent) : Remembers [] s (s.note event) :=
  of_still rfl (Nat.le_refl _) rfl fun _ h => h

theorem renew {f : Browser → Browser} (h : (f s.browser).history = s.browser.history) :
    Remembers [] s (s.renew f) := (update h).trans (.note _ _)

theorem spawn (s : Session) {job : Job} (h : job.action? = none) : Remembers [] s (s.spawn job) := by
  refine of_still rfl (Nat.le_refl _) rfl ?_
  rw [actions_spawn h]
  exact List.Subset.refl _

end Remembers

/-! ## What is done beside -/

theorem trouble_remembers (s : Session) (f : Fault) : Remembers [] s (s.trouble f) :=
  (Remembers.update (f := (·.fail f)) rfl).trans (.note _ _)

theorem Apprised.remembers (h : Apprised s t) : Remembers [] s t := by
  obtain ⟨registry, known, rfl⟩ := h
  exact .update rfl

theorem setBackend_remembers {number : Nat} {b c : Backend} (there : s.backend? number = some b)
    (hserves : b.Serves → c.Serves) : Remembers [] s (s.setBackend number c) := by
  refine ⟨rfl, Nat.le_refl _, fun hall other hother => ?_, fun _ h => h⟩
  rcases List.mem_or_eq_of_mem_set hother with hmem | rfl
  · exact hall other hmem
  · exact hserves (hall b (List.mem_of_getElem? there))

theorem afterWrite_remembers {number : Nat} {b c : Backend} {collection : String}
    (there : s.Writable number b collection) (hserves : b.Serves → c.Serves) :
    Remembers [] s (s.afterWrite number c) :=
  (setBackend_remembers there.backend hserves).trans (.update rfl)

theorem respond_remembers (s : Session) (sent : Sent) : Remembers [] s (s.respond sent).1 := by
  rcases s.respond_cases sent with ⟨-, hnone⟩ | ⟨b, hb, hsome⟩
  · rw [hnone]
    exact .refl s
  · rw [hsome]
    exact (setBackend_remembers hb (·.respond _ _)).trans
      (.of_still rfl (Nat.le_refl _) rfl fun _ h => h)

theorem send_remembers (s : Session) (backend : Nat) (collection : String) (request : Fields) :
    Remembers [] s (s.send backend collection request).1 :=
  .of_still rfl (Nat.le_refl _) rfl fun _ h => h

theorem cancelRun_remembers (s : Session) : Remembers [] s s.cancelRun := by
  have hactions := (actions_cancelRun s).subset
  obtain ⟨_, _, _, _, loads, hcancelled⟩ := s.cancelRun_changes
  rw [hcancelled] at hactions ⊢
  exact .of_still rfl (Nat.le_refl _) rfl hactions

theorem scheduleRun_remembers (s : Session) : Remembers [] s s.scheduleRun := by
  unfold scheduleRun
  refine (cancelRun_remembers s).trans (Remembers.trans ?_ (.spawn _ rfl))
  exact .of_still rfl (Nat.le_refl _) rfl fun _ h => h

theorem newId_remembers (s : Session) : Remembers [] s s.newId.1 :=
  .of_still rfl (Nat.le_succ _) rfl fun _ h => h

theorem openGate_remembers (s : Session) (gate : Gate) : Remembers [] s (s.openGate gate) :=
  .of_still rfl (Nat.le_refl _) rfl (actions_openGate s gate).subset

/-! ## Loads -/

section

variable {load : Load} {plan : PagePlan} {total : Int}

theorem showKept_remembers (s : Session) (load : Load) (config : QueryConfig) (move : PageMove)
    (page : CachedPage) : Remembers [] s (s.showKept load config move page).1 := by
  cases hcommit : s.browser.paging.commit move (page.rows.map .object) with
  | error f =>
    unfold showKept
    rw [hcommit]
    exact .refl s
  | ok paging =>
    rw [showKept_committed hcommit]
    have hshown : Remembers [] s (((s.update fun b =>
        { b with paging := paging }.present config (View.ofRows page.rows page.total)).note
        (.recalled load config move page)).note
        (.shown ⟨load, config, .ofRows page.rows page.total⟩)) :=
      .of_still rfl (Nat.le_refl _) rfl fun _ h => h
    exact hshown.trans (.spawn _ rfl)

theorem showFetched_remembers (s : Session) (load : Load) (plan : PagePlan) (view : View) :
    Remembers [] s (s.showFetched load plan view).1 := by
  refine Remembers.trans (.trans (.update ?_) (.note _ _)) (.spawn _ rfl)
  dsimp only
  split <;> rfl

/-- No stride of a load changes what is remembered. -/
theorem Stride.remembers {leg next : Leg} (h : Stride (s, leg) (t, next)) : Remembers [] s t := by
  cases h with
  | refuse => exact .update (f := (·.fail _)) rfl
  | begin => exact (Remembers.update (f := (·.begin)) rfl).trans (.note _ _)
  | learn known => exact (apprised_of_ensure known).remembers
  | take taken => exact (apprised_of_take taken).remembers
  | retype => exact .update rfl
  | showAgain => exact showKept_remembers s _ _ _ _
  | count unknown request =>
    cases request
    exact send_remembers s _ _ _
  | @hear _ _ sent _ _ _ respond =>
    have hresponds := respond_remembers s sent
    rwa [respond] at hresponds
  | ask request =>
    cases request
    exact (send_remembers s _ _ _).trans (.note _ _)
  | @receive _ _ sent _ _ _ _ respond =>
    have hresponds := respond_remembers s sent
    rwa [respond] at hresponds
  | turn => exact (Remembers.update (f := ({ · with paging := _ })) rfl).trans (.note _ _)
  | display => exact showFetched_remembers s _ _ _
  | rest => exact .update (f := (·.rest)) rfl
  | fail => exact .update (f := (·.fail _)) rfl
  | close _ load outcome =>
    cases outcome with
    | paused p => exact .refl s
    | _ => exact .note s _
  | _ => exact .refl s

theorem remembers_invariant (s : Session) : LoadInvariant fun t _ => Remembers [] s t where
  stride := fun hstride h => h.trans hstride.remembers
  takeUp := fun _ _ h =>
    h.trans ((Remembers.update (f := ({ · with reloadPending := false })) rfl).trans (.note _ _))

theorem loadDocuments_remembers (s : Session) (page : Value) (forced : Bool) :
    Remembers [] s (s.loadDocuments page forced).1 :=
  (remembers_invariant s).loadDocuments page forced (.refl s)

theorem resumeLoad_remembers (s : Session) (p : LoadPause) : Remembers [] s (s.resumeLoad p).1 :=
  (remembers_invariant s).resumeLoad (.refl s)

theorem putOff_remembers (s : Session) :
    Remembers [] s ((s.update ({ · with reloadPending := true })).note (.putOff s.underWay)) := by
  have hpending : Remembers [] s (s.update ({ · with reloadPending := true })) := .update rfl
  exact hpending.trans (.note _ _)

theorem reloadFirst_remembers (s : Session) (after : AfterLoad) :
    Remembers [] s (s.reloadFirst after).1 := by
  unfold reloadFirst
  split
  · exact putOff_remembers s
  · rw [thenReply_session]
    exact loadDocuments_remembers s _ _

end

/-! ## Sets that stay -/

/-- What is remembered changes, but no set comes or goes. -/
def KeepsSaved (s t : Session) : Prop :=
  ∃ acts, (∀ a ∈ acts, a.task.edits = false) ∧ Remembers acts s t

theorem Remembers.keepsSaved (h : Remembers [] s t) : KeepsSaved s t := ⟨[], by simp, h⟩

theorem KeepsSaved.trans (hst : KeepsSaved s t) (htu : KeepsSaved t u) : KeepsSaved s u := by
  obtain ⟨acts, hacts, hst⟩ := hst
  obtain ⟨more, hmore, htu⟩ := htu
  refine ⟨acts ++ more, fun a ha => ?_, hst.append htu⟩
  exact (List.mem_append.mp ha).elim (hacts a) (hmore a)

theorem KeepsSaved.of_act (a : HistoryAct) (h : a.task.edits = false) (hst : Remembers [a] s t) :
    KeepsSaved s t := by
  refine ⟨[a], fun b hb => ?_, hst⟩
  rw [List.mem_singleton.mp hb]
  exact h

/-- The sets of a place that is selected are taken from the archive. -/
theorem selectCollection_keepsSaved (s : Session) (collection : Option String) :
    KeepsSaved s (s.selectCollection collection) := by
  have hcancelled := (cancelRun_remembers s).keepsSaved
  unfold selectCollection
  generalize s.cancelRun = t at *
  refine hcancelled.trans ?_
  cases hplace : (t.browser.select collection).place? with
  | none =>
    refine Remembers.keepsSaved (.trans (.update ?_) (.note _ _))
    simp only [hplace]
    rfl
  | some place =>
    refine .of_act ⟨place.1, place.2, .load⟩ rfl (.trans (.update ?_) (.note _ _))
    simp only [hplace]
    rfl

/-! ## Effects -/

theorem reconfigure_remembers (s : Session) (config : QueryConfig) (filters : Bool) :
    Remembers [] s (s.reconfigure config filters) := by
  have hrenewed : Remembers [] s (s.renew (·.reconfigure config)) := .renew rfl
  unfold reconfigure
  dsimp only
  split
  · exact hrenewed.trans (.spawn _ rfl)
  · exact hrenewed

theorem lessen_remembers (s : Session) (kept : List Fields) (deleted : Nat) :
    Remembers [] s (s.lessen kept deleted) := .of_still rfl (Nat.le_refl _) rfl fun _ h => h

theorem useBackend_remembers (s : Session) (connection : String) (backend : Nat) :
    Remembers [] s (s.useBackend connection backend) := by
  refine .trans (.update ?_) (.note _ _)
  dsimp only
  split <;> rfl

/-- What is asked for lets nobody wait, and neither saves nor deletes a set. -/
def Command.Mild (command : Command) : Prop := command.Unhindering ∧ command.LeavesSets

/-- By no effect of what is asked for so do sets come or go. -/
theorem Effect.keepsSaved {p q : Phase} (h : Effect Command.Mild (p, s) (q, t)) : KeepsSaved s t := by
  cases h with
  | learn _ forced | learnAnew _ forced => exact (loadSchema_apprised s forced).remembers.keepsSaved
  | inform => exact (Remembers.refl s).keepsSaved
  | newId => exact (newId_remembers s).keepsSaved
  | trouble _ f => exact (trouble_remembers s f).keepsSaved
  | save ask | unsave ask => exact ask.2.elim
  | @mark id _ _ connection collection =>
    exact .of_act ⟨connection, collection, .markApplied id⟩ rfl (.update rfl)
  | reconfigure _ config filters => exact (reconfigure_remembers s config filters).keepsSaved
  | resize | refresh => exact (Remembers.renew rfl).keepsSaved
  | cancel => exact (cancelRun_remembers s).keepsSaved
  | postpone => exact (scheduleRun_remembers s).keepsSaved
  | putOff => exact (putOff_remembers s).keepsSaved
  | select _ collection => exact selectCollection_keepsSaved s collection
  | attempt => exact Remembers.keepsSaved (.of_still rfl (Nat.le_refl _) rfl fun _ h => h)
  | connect _ _ backend => exact (useBackend_remembers s _ backend).keepsSaved
  | refuse there refuses =>
    obtain ⟨command, ask, haffects⟩ := refuses.affects
    exact (setBackend_remembers there.backend (·.affects ask.1 haffects)).keepsSaved
  | @delete _ _ _ _ deleted _ _ _ kept ask _ there done =>
    have hwritten := afterWrite_remembers there (·.affects ask.1 (.of_delete done))
    exact (hwritten.trans (lessen_remembers _ kept deleted)).keepsSaved
  | strand ask _ there done =>
    exact (afterWrite_remembers there (·.affects ask.1 (.of_delete done))).keepsSaved
  | update ask there done =>
    have hwritten := afterWrite_remembers there (·.affects ask.1 (.of_update done))
    exact (hwritten.trans (.update rfl)).keepsSaved
  | upsert ask there done =>
    have hwritten := afterWrite_remembers there (·.affects ask.1 (.of_upsert done))
    exact (hwritten.trans (.renew rfl)).keepsSaved
  | affect ask there affects =>
    exact (setBackend_remembers there (·.affects ask.1 (.backend _ affects))).keepsSaved
  | openGate _ gate => exact (openGate_remembers s gate).keepsSaved
  | send => exact (send_remembers s _ _ _).keepsSaved
  | hear _ sent => exact (respond_remembers s sent).keepsSaved
  | failArchive ask => exact ask.1.eager.elim
  | _ => exact (Remembers.update rfl).keepsSaved

theorem Effects.keepsSaved {m n : Phase × Session} (h : Effects Command.Mild m n) :
    KeepsSaved m.2 n.2 :=
  h.keeps (I := fun n => KeepsSaved m.2 n.2) (fun heffect hm => hm.trans heffect.keepsSaved)
    (Remembers.refl m.2).keepsSaved

/-- Nor do they by anything that comes of it. -/
theorem Ensues.keepsSaved {m : Phase × Session} {r : Session × Outcome Pause Reply}
    (h : Ensues Command.Mild m r) : KeepsSaved m.2 r.1 := by
  have hloads : ∀ {n : Phase × Session} (page : Value) (forced : Bool) (after : AfterLoad),
      Effects Command.Mild m n →
      KeepsSaved m.2 (thenReply (n.2.loadDocuments page forced) after).1 := by
    intro n page forced after heffects
    rw [thenReply_session]
    exact heffects.keepsSaved.trans (loadDocuments_remembers n.2 page forced).keepsSaved
  induction h with
  | done effects | raised effects | strands effects | untaught effects => exact effects.keepsSaved
  | schema effects | request effects | background effects => exact effects.keepsSaved
  | load effects page forced after => exact hloads page forced after effects
  | reload effects _ after => exact hloads (.int 1) true after effects
  | web _ before waits ih =>
    rw [onWeb_session]
    exact ih

/-- Whatever is gone on with, no set comes or goes. -/
theorem resume_keepsSaved (s : Session) (pause : Pause) : KeepsSaved s (s.resume pause).1 := by
  cases hp : pause.loadPause? with
  | none =>
    exact (taught_apprised s pause).remembers.keepsSaved.trans (resume_ensues s hp).keepsSaved
  | some p =>
    rw [(resume_load s hp).1]
    exact (resumeLoad_remembers s p).keepsSaved

end Session

end Folio
