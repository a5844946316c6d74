-- What is done in a session apart from loads, said once. Queries, walks, failures and requests rest on
-- little of a session; whatever is asked for, and whatever is gone on with, comes down to a few things
-- that bear on it, and to one load at the most.
import Folio.Proofs.Operations

open Relation (ReflTransGen)

namespace Folio

/-! ## Stores -/

/-- Behind a backend stands a store of documents. -/
def Backend.IsStore (b : Backend) : Prop := ∃ store shows, b.source = .store store shows

namespace Backend.IsStore

variable {b : Backend}

theorem backed (h : b.IsStore) : Backed (fun _ => True) b := by
  obtain ⟨store, shows, hsource⟩ := h
  exact ⟨store, shows, hsource, trivial⟩

theorem of_backed (h : Backed (fun _ => True) b) : b.IsStore := by
  obtain ⟨store, shows, hsource, -⟩ := h
  exact ⟨store, shows, hsource⟩

theorem respond (h : b.IsStore) (collection : String) (request : Fields) :
    (b.respond collection request).1.IsStore := of_backed (h.backed.respond collection request)

theorem write {α : Type} (h : b.IsStore) (operation : String)
    (f : DocumentStore → DocumentStore × Except Failure α) : (b.write operation f).1.IsStore :=
  of_backed (h.backed.write operation fun _ _ => trivial)

theorem delete (h : b.IsStore) (collection : String) (keys : Value) :
    (b.delete collection keys).1.IsStore := of_backed (h.backed.delete fun _ _ => trivial)

theorem backendAffects {command : BackendCommand} {b c : Backend} (hb : b.IsStore)
    (h : Session.BackendCommand.Affects command b c) : c.IsStore := by
  cases h with
  | delete collection keys => exact hb.delete collection keys
  | update | upsert => exact hb.write _ _
  | _ => exact hb

theorem affects {command : Command} {b c : Backend} (hb : b.IsStore)
    (h : Session.Command.Affects command b c) : c.IsStore := by
  cases h with
  | delete keys collection => exact hb.delete collection keys
  | update | upsert => exact hb.write _ _
  | backend number affects => exact hb.backendAffects affects

end Backend.IsStore

/-! ## How a browser stands -/

/-- What queries, walks and failures of a browser rest on. -/
structure Bearings where
  state : LoadState
  problem : Option Problem
  config : QueryConfig
  paging : Paging
  generation : Nat
  reloadPending : Bool
  collection : Option String
  executor : Option Nat

def Browser.bearings (b : Browser) : Bearings where
  state := b.state
  problem := b.problem
  config := b.config
  paging := b.paging
  generation := b.generation
  reloadPending := b.reloadPending
  collection := b.collection
  executor := b.executor

/-- What has been loaded is out of date, and the walk starts over. -/
structure Browser.StartsOver (b c : Browser) : Prop where
  state : c.state = b.state
  problem : c.problem = b.problem
  generation : c.generation = b.generation + 1
  paging : ∃ size, c.paging = .start size

namespace Session

variable {s t u : Session} {allowed : Command → Prop}

/-- Sessions of which the second stands as the first. Nothing is sent, and nobody has to wait. -/
structure SameBearings (s t : Session) : Prop where
  bearings : t.browser.bearings = s.browser.bearings
  actions : t.actions ⊆ s.actions
  sent : t.sent = s.sent
  journal : s.journal <+: t.journal
  stores : (∀ b ∈ s.backends, b.IsStore) → ∀ b ∈ t.backends, b.IsStore

namespace SameBearings

theorem refl (s : Session) : SameBearings s s := ⟨rfl, fun _ h => h, rfl, List.prefix_rfl, id⟩

theorem trans (hst : SameBearings s t) (htu : SameBearings t u) : SameBearings s u where
  bearings := htu.bearings.trans hst.bearings
  actions := fun _ h => hst.actions (htu.actions h)
  sent := htu.sent.trans hst.sent
  journal := hst.journal.trans htu.journal
  stores := fun h => htu.stores (hst.stores h)

/-- Sessions with the same backends and records. -/
theorem of_still (bearings : t.browser.bearings = s.browser.bearings) (actions : t.actions ⊆ s.actions)
    (sent : t.sent = s.sent) (journal : t.journal = s.journal) (backends : t.backends = s.backends) :
    SameBearings s t := by
  refine ⟨bearings, actions, sent, ?_, fun h => backends ▸ h⟩
  rewrite [journal]
  exact List.prefix_rfl

theorem update {f : Browser → Browser} (h : (f s.browser).bearings = s.browser.bearings) :
    SameBearings s (s.update f) := of_still h (fun _ h => h) rfl rfl rfl

theorem note (s : Session) (event : LoadEvent) : SameBearings s (s.note event) :=
  ⟨rfl, fun _ h => h, rfl, List.prefix_append _ _, id⟩

theorem spawn (s : Session) {job : Job} (h : job.action? = none) : SameBearings s (s.spawn job) := by
  refine of_still rfl ?_ rfl rfl rfl
  rw [actions_spawn h]
  exact List.Subset.refl _

end SameBearings

/-! ## What is done beside -/

theorem Apprised.bearings (h : Apprised s t) : SameBearings s t := by
  obtain ⟨registry, known, rfl⟩ := h
  exact .update rfl

theorem setBackend_bearings {number : Nat} {b c : Backend} (there : s.backend? number = some b)
    (hstore : b.IsStore → c.IsStore) : SameBearings s (s.setBackend number c) := by
  refine ⟨rfl, fun _ h => h, rfl, List.prefix_rfl, fun hstores other hother => ?_⟩
  rcases List.mem_or_eq_of_mem_set hother with hmem | rfl
  · exact hstores other hmem
  · exact hstore (hstores b (List.mem_of_getElem? there))

theorem afterWrite_bearings {number : Nat} {b c : Backend} {collection : String} {command : Command}
    (there : s.Writable number b collection) (affects : Command.Affects command b c) :
    SameBearings s (s.afterWrite number c) :=
  (setBackend_bearings there.backend (·.affects affects)).trans (.update rfl)

theorem respond_bearings (s : Session) (sent : Sent) : SameBearings s (s.respond sent).1 := by
  rcases s.respond_cases sent with ⟨-, hnone⟩ | ⟨b, hb, hsome⟩
  · rw [hnone]
    exact .refl s
  · rw [hsome]
    exact (setBackend_bearings hb (·.respond _ _)).trans
      (.of_still rfl (fun _ h => h) rfl rfl rfl)

theorem bearings_of_respond {sent : Sent} {answer : Except Fault Value}
    (h : s.respond sent = (t, answer)) : SameBearings s t := by
  have hsame := respond_bearings s sent
  rwa [h] at hsame

theorem cancelRun_bearings (s : Session) : SameBearings s s.cancelRun := by
  have hactions := (actions_cancelRun s).subset
  obtain ⟨_, _, _, _, loads, hcancelled⟩ := s.cancelRun_changes
  rw [hcancelled] at hactions ⊢
  exact ⟨rfl, hactions, rfl, List.prefix_append _ _, fun h => h⟩

theorem scheduleRun_bearings (s : Session) : SameBearings s s.scheduleRun := by
  unfold scheduleRun
  refine (cancelRun_bearings s).trans (SameBearings.trans ?_ (.spawn _ rfl))
  exact .of_still rfl (fun _ h => h) rfl rfl rfl

theorem newId_bearings (s : Session) : SameBearings s s.newId.1 :=
  .of_still rfl (fun _ h => h) rfl rfl rfl

theorem logRecent_bearings (s : Session) : SameBearings s s.logRecent := by
  rcases s.logRecent_cases with hsame | ⟨history, hlogged⟩
  · rw [hsame]
    exact .refl s
  · rw [hlogged]
    exact (newId_bearings s).trans (.update rfl)

theorem openGate_bearings (s : Session) (gate : Gate) : SameBearings s (s.openGate gate) :=
  .of_still rfl (actions_openGate s gate).subset rfl rfl rfl

theorem lessen_bearings (s : Session) (kept : List Fields) (deleted : Nat) :
    SameBearings s (s.lessen kept deleted) := .of_still rfl (fun _ h => h) rfl rfl rfl

/-! ## What bears on a session -/

/-- What is done in a session in which some commands are allowed, apart from loads. -/
inductive Doing (allowed : Command → Prop) (s : Session) : Session → Prop where
  | beside {t : Session} (same : SameBearings s t) : Doing allowed s t
  /-- A request is sent past the browser. -/
  | send {number : Nat} {collection : String} {request : Fields}
      (ask : allowed (.backend number (.request collection request))) :
      Doing allowed s (s.send number collection request).1
  | trouble (f : Fault) : Doing allowed s (s.trouble f)
  | renew {f : Browser → Browser} (starts : s.browser.StartsOver (f s.browser)) :
      Doing allowed s (s.renew f)
  | select (collection : Option String) : Doing allowed s (s.selectCollection collection)
  | connect {connection : String} (ask : allowed (.connect connection)) (backend : Nat) :
      Doing allowed s (s.useBackend connection backend)
  | putOff (loading : s.browser.isLoading = true) :
      Doing allowed s ((s.update ({ · with reloadPending := true })).note (.putOff s.underWay))

/-- What is done in a session, one thing after another. -/
def Doings (allowed : Command → Prop) : Session → Session → Prop := ReflTransGen (Doing allowed)

theorem Doings.refl (s : Session) : Doings allowed s s := ReflTransGen.refl

theorem Doings.trans (hst : Doings allowed s t) (htu : Doings allowed t u) : Doings allowed s u :=
  ReflTransGen.trans hst htu

theorem Doing.doings (h : Doing allowed s t) : Doings allowed s t := .single h

theorem SameBearings.doings (h : SameBearings s t) : Doings allowed s t := (Doing.beside h).doings

/-! ## What an action waits for -/

theorem thenReply_session (r : Session × Outcome LoadPause Bool) (after : AfterLoad) :
    (thenReply r after).1 = r.1 := by
  obtain ⟨t, outcome⟩ := r
  cases outcome <;> rfl

theorem thenReply_waits {r : Session × Outcome LoadPause Bool} {after : AfterLoad} {pause : Pause}
    {p : LoadPause} (h : (thenReply r after).2 = .paused pause) (hp : pause.loadPause? = some p) :
    r.2 = .paused p := by
  obtain ⟨t, outcome⟩ := r
  cases outcome with
  | paused q =>
    cases h
    cases hp
    rfl
  | _ => cases h

theorem onWeb_session (before : Option Nat) (waits : Bool) (r : Session × Outcome Pause Reply) :
    (onWeb before waits r).1 = r.1 := by
  obtain ⟨t, outcome⟩ := r
  cases outcome with
  | done reply =>
    unfold onWeb
    dsimp only
    split <;> rfl
  | _ => rfl

/-- An action of the web waits with a load just if its own action does. -/
theorem onWeb_waits {before : Option Nat} {waits : Bool} {r : Session × Outcome Pause Reply}
    {pause : Pause} {p : LoadPause} (h : (onWeb before waits r).2 = .paused pause)
    (hp : pause.loadPause? = some p) :
    ∃ inner, r.2 = .paused inner ∧ inner.loadPause? = some p := by
  obtain ⟨t, outcome⟩ := r
  cases outcome with
  | paused inner =>
    cases h
    exact ⟨inner, rfl, hp⟩
  | raised f => cases h
  | done reply =>
    unfold onWeb at h
    dsimp only at h
    split at h
    · cases h
      cases hp
    · cases h

/-- What comes of an action: a few things are done, and then a page is loaded at the most. If the
action waits with a load, it waits for what the load does. -/
inductive ComesTo (allowed : Command → Prop) (s : Session) (r : Session × Outcome Pause Reply) :
    Prop where
  | unloaded (doings : Doings allowed s r.1)
      (waits : ∀ pause, r.2 = .paused pause → pause.loadPause? = none)
  | loaded {m : Session} {page : Value} {forced : Bool} (doings : Doings allowed s m)
      (load : r.1 = (m.loadDocuments page forced).1)
      (waits : ∀ pause p, r.2 = .paused pause → pause.loadPause? = some p →
        (m.loadDocuments page forced).2 = .paused p)

namespace ComesTo

theorem after {r : Session × Outcome Pause Reply} (hst : Doings allowed s t)
    (h : ComesTo allowed t r) : ComesTo allowed s r := by
  cases h with
  | unloaded doings waits => exact .unloaded (hst.trans doings) waits
  | loaded doings load waits => exact .loaded (hst.trans doings) load waits

theorem done (h : Doings allowed s t) (reply : Reply) : ComesTo allowed s (t, .done reply) :=
  .unloaded h fun _ hpause => by cases hpause

theorem raised (h : Doings allowed s t) (f : Fault) : ComesTo allowed s (t, .raised f) :=
  .unloaded h fun _ hpause => by cases hpause

theorem paused {pause : Pause} (h : Doings allowed s t) (hnone : pause.loadPause? = none) :
    ComesTo allowed s (t, .paused pause) := by
  refine .unloaded h fun other hother => ?_
  cases hother
  exact hnone

theorem thenReply (s : Session) (page : Value) (forced : Bool) (after : AfterLoad) :
    ComesTo allowed s (Session.thenReply (s.loadDocuments page forced) after) :=
  .loaded (.refl s) (thenReply_session _ after) fun _ _ => thenReply_waits

theorem onWeb {r : Session × Outcome Pause Reply} (h : ComesTo allowed s r) (before : Option Nat)
    (waits : Bool) : ComesTo allowed s (Session.onWeb before waits r) := by
  have hsame := onWeb_session before waits r
  cases h with
  | unloaded doings none =>
    refine .unloaded (hsame.symm ▸ doings) fun pause hpause => ?_
    by_contra hsome
    obtain ⟨p, hp⟩ := Option.ne_none_iff_exists'.mp hsome
    obtain ⟨inner, houtcome, hinner⟩ := onWeb_waits hpause hp
    rw [none inner houtcome] at hinner
    cases hinner
  | loaded doings load paused =>
    refine .loaded doings (hsame.trans load) fun pause p hpause hp => ?_
    obtain ⟨inner, houtcome, hinner⟩ := onWeb_waits hpause hp
    exact paused inner p houtcome hinner

end ComesTo

/-! ## Actions -/

theorem reconfigure_doings (s : Session) (config : QueryConfig) (filters : Bool) :
    Doings allowed s (s.reconfigure config filters) := by
  have hrenewed : Doings allowed s (s.renew (·.reconfigure config)) :=
    (Doing.renew (f := (·.reconfigure config)) ⟨rfl, rfl, rfl, _, rfl⟩).doings
  unfold reconfigure
  dsimp only
  split
  · exact hrenewed.trans (SameBearings.spawn _ rfl).doings
  · exact hrenewed

/-- Every effect of an action comes down to what bears on a session. -/
theorem Effect.doings {p q : Phase} (h : Effect allowed (p, s) (q, t)) : Doings allowed s t := by
  cases h with
  | learn _ forced | learnAnew _ forced =>
    exact (loadSchema_apprised s forced).bearings.doings
  | inform => exact .refl s
  | newId => exact (newId_bearings s).doings
  | trouble _ f => exact (Doing.trouble f).doings
  | reconfigure _ config filters => exact reconfigure_doings s config filters
  | resize _ size =>
    exact (Doing.renew (f := fun b =>
      { b with paging := .start size, generation := b.generation + 1 }) ⟨rfl, rfl, rfl, _, rfl⟩).doings
  | refresh =>
    exact (Doing.renew (f := fun b => { b.invalidate with cache := b.cache.clear })
      ⟨rfl, rfl, rfl, _, rfl⟩).doings
  | cancel => exact (cancelRun_bearings s).doings
  | postpone => exact (scheduleRun_bearings s).doings
  | putOff loading => exact (Doing.putOff loading).doings
  | select _ collection => exact (Doing.select collection).doings
  | attempt => exact SameBearings.doings (.of_still rfl (fun _ h => h) rfl rfl rfl)
  | connect ask _ backend => exact (Doing.connect ask backend).doings
  | refuse there refuses =>
    obtain ⟨command, -, haffects⟩ := refuses.affects
    exact (setBackend_bearings there.backend (·.affects haffects)).doings
  | @delete _ _ _ _ deleted _ _ _ kept _ _ there done _ =>
    have hwritten := afterWrite_bearings there (.of_delete done)
    exact (hwritten.trans (lessen_bearings _ kept deleted)).doings
  | strand _ _ there done => exact (afterWrite_bearings there (.of_delete done)).doings
  | update _ there done =>
    exact ((afterWrite_bearings there (.of_update done)).trans (.update rfl)).doings
  | upsert _ there done =>
    exact (afterWrite_bearings there (.of_upsert done)).doings.trans
      (Doing.renew (f := (·.invalidate)) ⟨rfl, rfl, rfl, _, rfl⟩).doings
  | affect _ there affects =>
    exact (setBackend_bearings there (·.backendAffects affects)).doings
  | openGate _ gate => exact (openGate_bearings s gate).doings
  | send ask => exact (Doing.send ask).doings
  | hear _ sent => exact (respond_bearings s sent).doings
  | _ => exact (SameBearings.update rfl).doings

theorem Effects.doings {m n : Phase × Session} (h : Effects allowed m n) :
    Doings allowed m.2 n.2 :=
  h.keeps (I := fun n => Doings allowed m.2 n.2) (fun heffect hm => hm.trans heffect.doings) (.refl m.2)

/-- Whatever comes of an action comes down to what bears on a session, and to one load. -/
theorem Ensues.comesTo {m : Phase × Session} {r : Session × Outcome Pause Reply}
    (h : Ensues allowed m r) : ComesTo allowed m.2 r := by
  induction h with
  | done effects _ reply => exact .done effects.doings reply
  | raised effects _ f => exact .raised effects.doings f
  | strands effects => exact .raised effects.doings _
  | untaught effects => exact .raised effects.doings _
  | load effects page forced after => exact .after effects.doings (.thenReply _ page forced after)
  | reload effects _ after => exact .after effects.doings (.thenReply _ (.int 1) true after)
  | schema effects | request effects | background effects => exact .paused effects.doings rfl
  | web _ before waits ih => exact ih.onWeb before waits

/-- Whatever is asked for comes down to what bears on a session, and to one load. -/
theorem perform_comesTo (s : Session) {command : Command} (ask : allowed command) :
    ComesTo allowed s (s.perform command) := (perform_ensues s ask).comesTo

/-- So does whatever is gone on with, if it is no load that has waited. -/
theorem resume_comesTo (s : Session) {pause : Pause} (hnone : pause.loadPause? = none) :
    ComesTo allowed s (s.resume pause) :=
  .after (taught_apprised s pause).bearings.doings (resume_ensues s hnone).comesTo

/-- A load that has waited is gone on with, whatever follows on it. -/
theorem resume_load (s : Session) {pause : Pause} {p : LoadPause} (hp : pause.loadPause? = some p) :
    (s.resume pause).1 = (s.resumeLoad p).1 ∧ ∀ other q, (s.resume pause).2 = .paused other →
      other.loadPause? = some q → (s.resumeLoad p).2 = .paused q := by
  induction pause with
  | load own after =>
    cases hp
    exact ⟨thenReply_session _ after, fun _ _ => thenReply_waits⟩
  | web before waits pause ih =>
    obtain ⟨hsame, hwaits⟩ := ih hp
    refine ⟨(onWeb_session before waits _).trans hsame, fun other q hother hq => ?_⟩
    obtain ⟨inner, hinner, hq⟩ := onWeb_waits hother hq
    exact hwaits inner q hinner hq
  | _ => cases hp

end Session

end Folio
