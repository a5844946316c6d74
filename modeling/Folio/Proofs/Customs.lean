-- What is customary in a session. Whatever is done first changes what is there, a query or a backend
-- or documents, and then loads. A custom says what such changes and loads come to and what loads may
-- wait for; if it is kept by the few ways in which anything is changed and loaded, it is kept by
-- everything that is done, one thing after another.
import Folio.Proofs.Effects
import Folio.Proofs.Operations

namespace Folio

/-! ## Customs -/

/-- What is customary in a session. -/
structure Custom where
  /-- What holds at all times. -/
  sound : Session → Prop
  changes : Session → Session → Prop
  loads : Session → Session → Prop
  /-- What a load may wait for. -/
  waits : Session → LoadPause → Prop
  /-- What may be asked for. -/
  allows : Command → Prop

namespace Custom

/-- A change keeps to a custom. -/
def Changed (C : Custom) (s t : Session) : Prop := C.sound s → C.changes s t ∧ C.sound t

/-- A load keeps to a custom, and so does what it waits for. -/
structure Loaded (C : Custom) (s : Session) (r : Session × Outcome LoadPause Bool) : Prop where
  loads : C.loads s r.1
  sound : C.sound r.1
  waits : ∀ p, r.2 = .paused p → C.waits r.1 p

/-- What is done keeps to a custom: something changes, and then something is loaded. -/
def Obeys (C : Custom) (s t : Session) : Prop :=
  C.sound s → ∃ m, C.changes s m ∧ C.loads m t ∧ C.sound t

/-- An action keeps to a custom, and so does what it waits for. -/
structure Follows (C : Custom) (s : Session) (r : Session × Outcome Pause Reply) : Prop where
  obeys : C.Obeys s r.1
  waits : C.sound s → ∀ pause, r.2 = .paused pause → ∀ p, pause.loadPause? = some p → C.waits r.1 p

/-- The ways in which anything is changed or loaded keep to a custom. -/
structure Laws (C : Custom) : Prop where
  changes_trans : ∀ {s t u}, C.changes s t → C.changes t u → C.changes s u
  loosens : ∀ {s t}, Session.Loosens s t → C.Changed s t
  same : ∀ {s t}, Session.SamePages s t → C.loads s t
  loads_same : ∀ {s t u}, C.loads s t → Session.SamePages t u → C.loads s u
  /-- Another backend is used. -/
  connect : ∀ s connection backend, C.Changed s (s.useBackend connection backend)
  /-- Documents were deleted. -/
  delete : ∀ s kept deleted, C.Changed s (s.lessen kept deleted)
  /-- Requests to a backend have to wait. -/
  hold : ∀ s number, C.allows (.backend number .hold) →
    C.Changed s (s.updateBackend number ({ · with held := true }))
  release : ∀ s number keep, C.allows (.backend number (.release keep)) →
    C.Changed s (s.updateBackend number ({ · with held := keep }))
  load : ∀ s page forced, C.sound s → C.Loaded s (s.loadDocuments page forced)
  resume : ∀ s p, C.sound s → C.waits s p → C.Loaded s (s.resumeLoad p)
  /-- A load that waits is one that may wait. -/
  waiting : ∀ {s}, C.sound s → ∀ p ∈ s.pauses, C.waits s p
  waits_same : ∀ {s t}, Session.SamePages s t → ∀ p, C.waits s p → C.waits t p
  /-- Whoever waits has asked for one thing. -/
  single : ∀ {s}, C.sound s → ∀ w ∈ s.actions, ∀ c, w.owner = .client c → c.todo = []
  park : ∀ {s t w}, C.loads s t → C.sound t →
    (∀ p, w.pause.loadPause? = some p → C.waits t p) →
    (∀ c, w.owner = .client c → c.todo = []) →
    C.loads s { t with waiting := t.waiting ++ [w] } ∧
      C.sound { t with waiting := t.waiting ++ [w] }

section

variable {C : Custom} {s t u : Session} (hC : C.Laws)

include hC

theorem Changed.trans (hst : C.Changed s t) (htu : C.Changed t u) : C.Changed s u := by
  intro hs
  obtain ⟨hchanges, ht⟩ := hst hs
  obtain ⟨hmore, hu⟩ := htu ht
  exact ⟨hC.changes_trans hchanges hmore, hu⟩

theorem Changed.same (h : Session.SamePages s t) : C.Changed s t := hC.loosens h.loosens

theorem Obeys.changed (h : C.Changed s t) : C.Obeys s t := by
  intro hs
  obtain ⟨hchanges, ht⟩ := h hs
  exact ⟨t, hchanges, hC.same (.refl t), ht⟩

theorem Obeys.after (hst : C.Changed s t) (htu : C.Obeys t u) : C.Obeys s u := by
  intro hs
  obtain ⟨hchanges, ht⟩ := hst hs
  obtain ⟨m, hmore, hloads, hu⟩ := htu ht
  exact ⟨m, hC.changes_trans hchanges hmore, hloads, hu⟩

theorem Obeys.of_same (h : Session.SamePages s t) : C.Obeys s t := .changed hC (.same hC h)

theorem Obeys.still (s : Session) : C.Obeys s s := .of_same hC (.refl s)

/-- What is done after a load neither changes nor loads anything. -/
theorem Obeys.ending (hst : C.Obeys s t) (htu : Session.SamePages t u) : C.Obeys s u := by
  intro hs
  obtain ⟨m, hchanges, hloads, ht⟩ := hst hs
  exact ⟨m, hchanges, hC.loads_same hloads htu, (Changed.same hC htu ht).2⟩

namespace Follows

variable {r : Session × Outcome Pause Reply}

theorem after (hst : C.Changed s t) (ht : C.Follows t r) : C.Follows s r :=
  ⟨.after hC hst ht.obeys, fun hs => ht.waits (hst hs).2⟩

omit hC in
theorem done (h : C.Obeys s t) (reply : Reply) : C.Follows s (t, .done reply) :=
  ⟨h, fun _ _ hp => by cases hp⟩

omit hC in
theorem raised (h : C.Obeys s t) (f : Fault) : C.Follows s (t, .raised f) :=
  ⟨h, fun _ _ hp => by cases hp⟩

omit hC in
/-- An action that waits for something other than a load. -/
theorem pausing {pause : Pause} (h : C.Obeys s t) (hnone : pause.loadPause? = none) :
    C.Follows s (t, .paused pause) := by
  refine ⟨h, fun _ other hother p hp => ?_⟩
  cases hother
  rw [hnone] at hp
  cases hp

theorem thenReply {r : Session × Outcome LoadPause Bool} (hr : C.sound s → C.Loaded s r)
    (after : AfterLoad) : C.Follows s (Session.thenReply r after) := by
  obtain ⟨t, outcome⟩ := r
  have hobeys : C.Obeys s t := fun hs =>
    ⟨s, (Changed.same hC (.refl s) hs).1, (hr hs).loads, (hr hs).sound⟩
  cases outcome with
  | done shown => exact .done hobeys _
  | raised f => exact .raised hobeys f
  | paused p =>
    refine ⟨hobeys, fun hs pause hp q hq => ?_⟩
    cases hp
    cases hq
    exact (hr hs).waits p rfl

end Follows

/-! ## Effects -/

/-- Every effect keeps to a custom. -/
theorem effect_changed {p q : Phase} (h : Session.Effect C.allows (p, s) (q, t)) :
    C.Changed s t := by
  have hbackend : ∀ {number : Nat} {b c : Backend}, s.backend? number = some b → c.held = b.held →
      C.Changed s (s.setBackend number c) := fun hthere hheld =>
    .same hC (Session.setBackend_samePages hthere hheld)
  cases h with
  | learn _ forced | learnAnew _ forced =>
    exact .same hC (Session.loadSchema_apprised s forced).samePages
  | inform => exact .same hC (.refl s)
  | newId => exact .same hC (Session.newId_samePages s)
  | trouble _ f => exact .same hC (Session.trouble_samePages s f)
  | reconfigure _ config filters =>
    exact hC.loosens (Session.reconfigure_loosens s config filters)
  | resize =>
    exact hC.loosens (Session.renew_loosens ⟨rfl, rfl, rfl, Nat.le_succ _, fun _ => id, .inl rfl⟩)
  | refresh =>
    exact hC.loosens (Session.renew_loosens
      ⟨rfl, rfl, rfl, Nat.le_succ _, fun _ h => (by cases h), .inr rfl⟩)
  | cancel => exact .same hC (Session.cancelRun_samePages s)
  | postpone => exact .same hC (Session.scheduleRun_samePages s)
  | putOff =>
    have hpending : Session.SamePages s (s.update ({ · with reloadPending := true })) :=
      .update rfl rfl rfl
    exact .same hC (hpending.trans (.note _ rfl))
  | select _ collection => exact hC.loosens (Session.selectCollection_loosens s collection)
  | attempt _ provider => exact .same hC (Session.attempted_samePages s provider)
  | connect _ _ backend => exact hC.connect s _ backend
  | refuse there refuses => exact hbackend there.backend refuses.held
  | @delete _ _ _ _ deleted _ _ _ kept _ _ there done _ =>
    have hwritten := hC.loosens (Session.afterWrite_loosens there (Session.delete_held done))
    exact .trans hC hwritten (hC.delete _ kept deleted)
  | strand _ _ there done =>
    exact hC.loosens (Session.afterWrite_loosens there (Session.delete_held done))
  | update _ there done =>
    have hwritten := hC.loosens (Session.afterWrite_loosens there (Session.write_held done))
    exact .trans hC hwritten (.same hC (.update rfl rfl rfl))
  | upsert _ there done =>
    have hwritten := hC.loosens (Session.afterWrite_loosens there (Session.write_held done))
    exact .trans hC hwritten (hC.loosens (Session.renew_loosens
      ⟨rfl, rfl, rfl, Nat.le_succ _, fun _ => id, .inr rfl⟩))
  | @affect number _ _ b _ ask there affects =>
    have hupdated : ∀ f : Backend → Backend,
        s.updateBackend number f = s.setBackend number (f b) := by
      intro f
      unfold Session.updateBackend
      rw [there]
    cases affects with
    | delete => exact hbackend there (Session.delete_held rfl)
    | update | upsert => exact hbackend there (Session.write_held rfl)
    | hold =>
      have hchanged := hC.hold s number ask
      rwa [hupdated] at hchanged
    | release keep =>
      have hchanged := hC.release s number keep ask
      rwa [hupdated] at hchanged
    | _ => exact hbackend there rfl
  | openGate _ gate => exact .same hC (Session.openGate_samePages s gate)
  | send => exact .same hC (Session.send_samePages s _ _ _)
  | hear _ sent => exact .same hC (Session.respond_samePages s sent)
  | _ => exact .same hC (.update rfl rfl rfl)

theorem effects_changed {m n : Phase × Session} (h : Session.Effects C.allows m n) :
    C.Changed m.2 n.2 :=
  h.keeps (I := fun n => C.Changed m.2 n.2)
    (fun heffect hm => Changed.trans hC hm (effect_changed hC heffect)) (Changed.same hC (.refl m.2))

omit hC in
theorem onWeb_follows {r : Session × Outcome Pause Reply} (hr : C.Follows s r)
    (before : Option Nat) (waits : Bool) : C.Follows s (Session.onWeb before waits r) := by
  obtain ⟨t, outcome⟩ := r
  cases outcome with
  | raised f => exact .done hr.obeys _
  | done reply =>
    unfold Session.onWeb
    dsimp only
    split
    · exact .pausing hr.obeys rfl
    · exact .done hr.obeys _
  | paused pause =>
    refine ⟨hr.obeys, fun hs other hother p hp => ?_⟩
    cases hother
    exact hr.waits hs pause rfl p hp

/-- Whatever comes of an action keeps to a custom. -/
theorem ensues_follows {m : Phase × Session} {r : Session × Outcome Pause Reply}
    (h : Session.Ensues C.allows m r) : C.Follows m.2 r := by
  have hobeys : ∀ {n : Phase × Session}, Session.Effects C.allows m n → C.Obeys m.2 n.2 :=
    fun heffects => .changed hC (effects_changed hC heffects)
  have hloads : ∀ {n : Phase × Session} (page : Value) (forced : Bool) (after : AfterLoad),
      Session.Effects C.allows m n →
      C.Follows m.2 (Session.thenReply (n.2.loadDocuments page forced) after) :=
    fun page forced after heffects =>
      .after hC (effects_changed hC heffects) (.thenReply hC (hC.load _ page forced) after)
  induction h with
  | done effects _ reply => exact .done (hobeys effects) reply
  | raised effects _ f => exact .raised (hobeys effects) f
  | strands effects => exact .raised (hobeys effects) _
  | untaught effects => exact .raised (hobeys effects) _
  | load effects page forced after => exact hloads page forced after effects
  | reload effects _ after => exact hloads (.int 1) true after effects
  | schema effects | request effects | background effects => exact .pausing (hobeys effects) rfl
  | web _ before waits ih => exact onWeb_follows ih before waits

/-- All pages that are kept are dropped, and then what is done keeps to the custom. -/
def StartsEmpty (C : Custom) (s : Session) (r : Session × Outcome Pause Reply) : Prop :=
  ∃ t, C.Changed s t ∧ t.browser.cache.pages = [] ∧ C.Follows t r

theorem emptiesFirst_startsEmpty {r : Session × Outcome Pause Reply}
    (h : Session.EmptiesFirst C.allows s r) : C.StartsEmpty s r := by
  obtain ⟨m, heffects, hnone, hensues⟩ := h
  exact ⟨m.2, effects_changed hC heffects, hnone, ensues_follows hC hensues⟩

/-- Whatever is asked for keeps to the custom. -/
theorem perform_follows (s : Session) {command : Command} (ask : C.allows command) :
    C.Follows s (s.perform command) := ensues_follows hC (Session.perform_ensues s ask)

theorem resume_follows (s : Session) {pause : Pause}
    (hwaits : C.sound s → ∀ p, pause.loadPause? = some p → C.waits s p) :
    C.Follows s (s.resume pause) := by
  by_cases hnone : pause.loadPause? = none
  · exact .after hC (.same hC (Session.taught_apprised s pause).samePages)
      (ensues_follows hC (Session.resume_ensues s hnone))
  · induction pause with
    | load p after => exact .thenReply hC (fun hs => hC.resume s p hs (hwaits hs p rfl)) after
    | web before waits pause ih => exact onWeb_follows (ih hwaits hnone) before waits
    | _ => exact absurd rfl hnone

/-- An action that has to wait is put among those that do. -/
theorem park_obeys {r : Session × Outcome Pause Reply} (hr : C.Follows s r) {pause : Pause}
    (hpause : r.2 = .paused pause) {owner : Owner}
    (hsingle : ∀ c, owner = .client c → c.todo = []) :
    C.Obeys s { r.1 with waiting := r.1.waiting ++ [⟨owner, pause⟩] } := by
  intro hs
  obtain ⟨m, hchanges, hloads, ht⟩ := hr.obeys hs
  obtain ⟨hmore, hparked⟩ :=
    hC.park (w := ⟨owner, pause⟩) hloads ht (hr.waits hs pause hpause) hsingle
  exact ⟨m, hchanges, hmore, hparked⟩

/-- Somebody who asks for one thing has it done, or waits. -/
theorem serve_obeys {command : Command} (hr : C.Follows t (s.perform command)) (c : Client) :
    C.Obeys t (s.serve c [command]) := by
  unfold Session.serve
  cases hp : s.perform command with
  | mk u outcome =>
    rw [hp] at hr
    have hconcluded : ∀ c, C.Obeys t (u.serve c []) := fun c =>
      .ending hC hr.obeys (.of_browser rfl rfl rfl rfl (fun _ h => h) rfl)
    cases outcome with
    | done reply => exact hconcluded _
    | raised f => exact hconcluded _
    | paused pause =>
      refine park_obeys hC hr rfl fun other hother => ?_
      cases hother
      rfl

theorem serveAfter_obeys {c : Client} (hnone : c.todo = []) {r : Session × Outcome Pause Reply}
    (hr : C.Follows s r) : C.Obeys s (r.1.serveAfter c r.2) := by
  obtain ⟨u, outcome⟩ := r
  have hconcluded : ∀ c, C.Obeys s (u.serve c []) := fun c =>
    .ending hC hr.obeys (.of_browser rfl rfl rfl rfl (fun _ h => h) rfl)
  unfold Session.serveAfter
  rw [hnone]
  cases outcome with
  | done reply => exact hconcluded _
  | raised f => exact hconcluded _
  | paused pause =>
    refine park_obeys hC hr rfl fun other hother => ?_
    cases hother
    exact hnone

theorem runAfter_obeys {r : Session × Outcome Pause Reply} (hr : C.Follows s r) (run : Nat) :
    C.Obeys s (r.1.runAfter run r.2) := by
  obtain ⟨u, outcome⟩ := r
  have hsettled : C.Obeys s { u with debouncer := u.debouncer.settled run } :=
    .ending hC hr.obeys (.of_browser rfl rfl rfl rfl (fun _ h => h) rfl)
  cases outcome with
  | done reply => exact hsettled
  | raised f => exact hsettled
  | paused pause => exact park_obeys hC hr rfl fun _ hother => by cases hother

/-! ## One thing after another -/

/-- The job that became ready first is done. -/
theorem doJob_obeys {job : Job} {rest : List Job} (hready : s.ready = job :: rest) :
    C.Obeys s (({ s with ready := rest } : Session).doJob job) := by
  have htaken := Session.taken_samePages hready
  intro hs
  have hwaits : ∀ w, job = .resume w → ∀ p, w.pause.loadPause? = some p →
      C.waits { s with ready := rest } p := by
    rintro w rfl p hp
    have hmem : w ∈ s.actions := Session.mem_actions_resume hready
    exact hC.waits_same htaken p (hC.waiting hs p (List.mem_filterMap.mpr ⟨w, hmem, hp⟩))
  have hafter : ∀ {t}, C.Obeys { s with ready := rest } t → C.Obeys s t :=
    .after hC (.same hC htaken)
  cases job with
  | logRecent => exact hafter (.of_same hC (Session.logRecent_samePages _)) hs
  | discover collection rows => exact hafter (.of_same hC (Session.discover_apprised _ _ _).samePages) hs
  | scheduled run =>
    refine hafter (.of_same hC ?_) hs
    unfold Session.doJob
    dsimp only
    split
    · exact .of_browser rfl rfl rfl rfl (fun _ h => h) rfl
    · exact .spawn _ rfl
  | due run => exact hafter (runAfter_obeys hC
    (ensues_follows hC (Session.reloadFirst_ensues _ .verdict)) run) hs
  | resume w =>
    have hresumed := resume_follows hC { s with ready := rest } fun _ => hwaits w rfl
    have hmem : w ∈ s.actions := Session.mem_actions_resume hready
    obtain ⟨owner, pause⟩ := w
    cases owner with
    | client c => exact hafter (serveAfter_obeys hC (hC.single hs _ hmem c rfl) hresumed) hs
    | run run => exact hafter (runAfter_obeys hC hresumed run) hs

/-- Whatever is done keeps to the custom, if it is allowed. -/
theorem operate_obeys (s : Session) {operation : Operation}
    (hc : ∀ command, operation.command? = some command → C.allows command) :
    C.Obeys s (s.operate operation) := by
  have htimed : ∀ {t : Session}, t.browser = s.browser → t.backends = s.backends →
      t.yielded = s.yielded → t.actions ⊆ s.actions → t.journal = s.journal → C.Obeys s t := by
    intro t hbrowser hbackends hyielded hactions hjournal
    exact .changed hC (hC.loosens (.of_browser hbrowser hbackends hyielded hactions hjournal))
  cases operation with
  | ask number command => exact serve_obeys hC (perform_follows hC s (hc command rfl)) _
  | job =>
    unfold Session.operate
    dsimp only
    split
    · rename_i job rest hready
      exact doJob_obeys hC hready
    · exact .still hC s
  | background =>
    unfold Session.operate Session.openBackground
    dsimp only
    split
    · exact .still hC s
    · exact .of_same hC (Session.openGate_samePages s _)
  | wake =>
    unfold Session.operate
    dsimp only
    split
    · rename_i due run _
      refine .ending hC (t := { s with clock := due, asleep := none }) ?_ (.spawn _ rfl)
      exact htimed rfl rfl rfl (fun _ h => h) rfl
    · exact .still hC s
  | tick clock => exact htimed rfl rfl rfl (fun _ h => h) rfl

/-- What holds at all times holds after one thing after another. -/
theorem sound_after (operations : List Operation)
    (hc : ∀ operation ∈ operations, ∀ command, operation.command? = some command →
      C.allows command) (hs : C.sound s) : C.sound (s.after operations) := by
  induction operations generalizing s with
  | nil => exact hs
  | cons operation rest ih =>
    obtain ⟨-, -, -, hnext⟩ := operate_obeys hC s (hc operation List.mem_cons_self) hs
    exact ih (fun other hother => hc other (List.mem_cons_of_mem _ hother)) hnext

end

end Custom

end Folio
