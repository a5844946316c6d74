-- What is learned in actions. Whatever is asked for changes the query, a backend or the collection that
-- is looked at before it loads, and learns nothing by that. Another connection leaves what is known
-- where it stands; it does no harm if nothing is known and nothing is under way.
import Folio.Proofs.LearningLoads

namespace Folio.Session

variable {s t u : Session} {T : Testimony}

/-! ## Actions -/

/-- All that is learned has been told, wherever it leads. -/
structure Retains (T : Testimony) (s t : Session) : Prop where
  grown : Grown s t
  lore : Lore T s → Heard T s t → Lore T t

theorem Teaches.retains (h : Teaches T s t) : Retains T s t := ⟨h.place.grown, h.lore⟩

theorem Unlearned.retains (h : Unlearned s t) : Retains T s t := ⟨h.grown, fun hs _ => h.lore hs⟩

theorem Retains.refl (s : Session) : Retains T s s := (Untaught.refl s).retains

theorem Retains.after (hst : Unlearned s t) (htu : Retains T t u) : Retains T s u :=
  ⟨hst.grown.trans htu.grown, fun hs hheard =>
    htu.lore (hst.lore hs) (hheard.later hst.grown htu.grown.journal)⟩

/-- What is done in the end learns nothing. -/
theorem Retains.ending (hst : Retains T s t) (htu : Untaught t u) (footing : u.footing = t.footing) :
    Retains T s u :=
  ⟨hst.grown.trans htu.grown, fun hs hheard =>
    htu.lore (hst.lore hs (hheard.earlier htu.samePlace footing))⟩

/-- All that is learned in an action has been told, and what its load waits for is of use. -/
structure Minds (T : Testimony) (s : Session) (r : Session × Outcome Pause Reply) : Prop where
  course : Retains T s r.1
  waits : ∀ pause, r.2 = .paused pause → ∀ p, pause.loadPause? = some p → r.1.Awaits p

namespace Minds

variable {r : Session × Outcome Pause Reply}

theorem done (h : Retains T s t) (reply : Reply) : Minds T s (t, .done reply) :=
  ⟨h, fun _ hp => by cases hp⟩

theorem raised (h : Retains T s t) (f : Fault) : Minds T s (t, .raised f) :=
  ⟨h, fun _ hp => by cases hp⟩

/-- An action that waits for something other than a load. -/
theorem pausing {pause : Pause} (h : Retains T s t) (hnone : pause.loadPause? = none) :
    Minds T s (t, .paused pause) := by
  refine ⟨h, fun other hother p hp => ?_⟩
  cases hother
  rw [hnone] at hp
  cases hp

theorem after (hst : Unlearned s t) (h : Minds T t r) : Minds T s r :=
  ⟨.after hst h.course, h.waits⟩

theorem thenReply {r : Session × Outcome LoadPause Bool} (hr : Learns T s r) (after : AfterLoad) :
    Minds T s (Session.thenReply r after) := by
  obtain ⟨t, outcome⟩ := r
  cases outcome with
  | done shown => exact .done hr.teaches.retains _
  | raised f => exact .raised hr.teaches.retains f
  | paused p =>
    refine ⟨hr.teaches.retains, fun pause hp q hq => ?_⟩
    cases hp
    cases hq
    exact hr.waits p rfl

theorem onWeb (hr : Minds T s r) (before : Option Nat) (waits : Bool) :
    Minds T s (Session.onWeb before waits r) := by
  obtain ⟨t, outcome⟩ := r
  cases outcome with
  | raised f => exact .done hr.course _
  | done reply =>
    unfold Session.onWeb
    dsimp only
    split
    · exact .pausing hr.course rfl
    · exact .done hr.course _
  | paused pause =>
    refine ⟨hr.course, fun other hother p hp => ?_⟩
    cases hother
    exact hr.waits pause rfl p hp

end Minds

/-! ## What is learned of nothing -/

theorem trouble_untaught (s : Session) (f : Fault) : Untaught s (s.trouble f) :=
  (fail_untaught s f).trans (.note _ rfl)

/-- What a browser keeps may be dropped with its query. -/
theorem Untaught.renew {f : Browser → Browser} (h : Browser.Drops s.browser (f s.browser))
    (learning : (f s.browser).learning = s.browser.learning)
    (pageSize : (f s.browser).paging.pageSize = s.browser.paging.pageSize ∨
      s.browser.generation < (f s.browser).generation) : Untaught s (s.renew f) :=
  ⟨.of_loosens (renew_loosens h) learning (fun _ => id) pageSize, fun _ => rfl⟩

theorem reconfigure_untaught (s : Session) (config : QueryConfig) (filters : Bool) :
    Untaught s (s.reconfigure config filters) := by
  have hrenewed : Untaught s (s.renew (·.reconfigure config)) :=
    .renew ⟨rfl, rfl, rfl, Nat.le_succ _, fun _ => id, .inl rfl⟩ rfl (.inl rfl)
  unfold reconfigure
  dsimp only
  split
  · exact hrenewed.trans (.spawn _ rfl rfl)
  · exact hrenewed

theorem cancelRun_untaught (s : Session) : Untaught s s.cancelRun := by
  have hsame := cancelRun_samePages s
  have hready := ready_cancelRun s
  obtain ⟨_, _, _, _, loads, hcancelled⟩ := s.cancelRun_changes
  rw [hcancelled] at hsame hready ⊢
  exact .of_same hsame rfl (hready.filterMap _).subset rfl

theorem scheduleRun_untaught (s : Session) : Untaught s s.scheduleRun := by
  have hscheduled : Untaught s.cancelRun
      { s.cancelRun with debouncer := s.cancelRun.debouncer.schedule } :=
    .of_same (.of_browser rfl rfl rfl rfl (fun _ h => h) rfl) rfl (fun _ => id) rfl
  exact ((cancelRun_untaught s).trans hscheduled).trans (.spawn _ rfl rfl)

theorem newId_untaught (s : Session) : Untaught s s.newId.1 :=
  .of_same (newId_samePages s) rfl (fun _ => id) rfl

/-- What is remembered of filters is changed. -/
theorem history_untaught (s : Session) (history : History) :
    Untaught s (s.update ({ · with history := history })) := by
  refine .update ?_ ?_ ?_ ?_ <;> rfl

theorem logRecent_untaught (s : Session) : Untaught s s.logRecent := by
  rcases s.logRecent_cases with hsame | ⟨history, hlogged⟩
  · rw [hsame]
    exact .refl s
  · rw [hlogged]
    exact (newId_untaught s).trans (history_untaught _ _)

theorem openGate_untaught (s : Session) (gate : Gate) : Untaught s (s.openGate gate) := by
  refine .of_same (openGate_samePages s gate) rfl (fun found hfound => ?_) rfl
  unfold discoveries openGate at hfound
  rw [List.filterMap_append, List.filterMap_map] at hfound
  refine (List.mem_append.mp hfound).resolve_right fun hresumed => ?_
  obtain ⟨w, -, hw⟩ := List.mem_filterMap.mp hresumed
  cases hw

/-- Only backends have changed. -/
theorem backends_unlearned (s : Session) (backends : List Backend) :
    Unlearned s { s with backends := backends } :=
  ⟨⟨List.prefix_rfl, List.prefix_rfl⟩, rfl, rfl, rfl, Nat.le_refl _, fun _ => id, fun _ => id,
    fun _ => id, .inl rfl⟩

theorem afterWrite_unlearned (s : Session) (number : Nat) (b : Backend) :
    Unlearned s (s.afterWrite number b) := by
  have hcleared : Unlearned (s.setBackend number b) (s.afterWrite number b) :=
    .of_loosens (.update ⟨rfl, rfl, rfl, Nat.le_refl _, fun _ h => (by cases h), .inl rfl⟩) rfl
      (fun _ => id) (.inl rfl)
  exact (backends_unlearned s _).trans hcleared

theorem lessen_unlearned (s : Session) (kept : List Fields) (deleted : Nat) :
    Unlearned s (s.lessen kept deleted) :=
  ⟨⟨List.prefix_append _ _, List.prefix_rfl⟩, rfl, rfl, rfl, Nat.le_refl _, fun _ => id, fun _ => id,
    fun _ => id, .inl rfl⟩

theorem attempted_untaught (s : Session) (provider : Provider) :
    Untaught s (s.attempted provider) :=
  .of_same (attempted_samePages s provider) rfl (fun _ => id) rfl

theorem putOff_untaught (s : Session) :
    Untaught s ((s.update ({ · with reloadPending := true })).note (.putOff s.underWay)) := by
  have hpending : Untaught s (s.update ({ · with reloadPending := true })) := .update rfl rfl rfl rfl
  exact hpending.trans (.note _ rfl)

/-- The attributes that are known are forgotten, but for what stands under names. -/
theorem clear_retains (s : Session) : Retains T s (s.update ({ · with registry := .empty })) :=
  ⟨⟨List.prefix_rfl, List.prefix_rfl⟩, fun hs _ =>
    ⟨fun _ ha => absurd ha List.not_mem_nil, hs.known, hs.discoveries, hs.pages,
      fun p hp => (hs.waits p hp).keep rfl rfl rfl (Nat.le_refl _) (.inl rfl), hs.single⟩⟩

/-! ## Another place -/

theorem Awaits.generation_le {p : LoadPause} (h : s.Awaits p) :
    p.load.generation ≤ s.browser.generation := by
  rcases h with hstale | ⟨hmeant, -⟩
  · exact Nat.le_of_lt hstale
  · exact Nat.le_of_eq hmeant.generation.symm

/-- With the collection all that was known of it is forgotten, but for what stands under names. -/
theorem selectCollection_retains (s : Session) (collection : Option String) :
    Retains T s (s.selectCollection collection) := by
  obtain ⟨history, hbrowser⟩ := selectCollection_browser s collection
  have hcancelled := cancelRun_untaught s
  have hgrown : Grown s.cancelRun (s.selectCollection collection) :=
    ⟨List.prefix_rfl, List.prefix_append _ _⟩
  refine ⟨hcancelled.grown.trans hgrown, fun hs _ => ?_⟩
  have hbefore := hcancelled.lore hs
  refine ⟨?_, ?_, ?_, ?_, fun p hp => .inl ?_, hbefore.single⟩
  · rw [hbrowser]
    exact fun a ha => absurd ha List.not_mem_nil
  · rw [hbrowser]
    exact hbefore.known
  · rw [hbrowser]
    exact hbefore.discoveries
  · unfold Vouched
    rw [hbrowser]
    exact hbefore.pages
  · rw [hbrowser]
    exact Nat.lt_succ_of_le (hbefore.waits p hp).generation_le

/-- Nothing is known of attributes, and nothing is under way that bears on them. -/
structure Unburdened (s : Session) : Prop where
  registry : s.browser.registry.attributes = []
  discoveries : s.discoveries = []
  loads : ∀ p ∈ s.pauses, p.isSchema = true ∨ p.load.generation < s.browser.generation

/-- Another backend is used: for the first time on the connection, or on another one. -/
theorem Lore.useBackend (hs : Lore T s) {connection : String} (backend : Nat)
    (hother : s.browser.executor = none ∧ s.browser.connection = some connection ∨
      s.browser.connection ≠ some connection ∧ s.Unburdened) :
    Lore T (s.useBackend connection backend) := by
  obtain ⟨cache, unfiltered, hbrowser, hpages⟩ := useBackend_browser s connection backend
  rcases hother with ⟨hnone, hsame⟩ | ⟨hleft, hfree⟩
  · have hconnection : (s.useBackend connection backend).browser.connection =
        s.browser.connection := by rw [hbrowser, hsame]
    have hlearning : (s.useBackend connection backend).browser.learning = s.browser.learning := by
      rw [hbrowser]
      rfl
    refine hs.keep hconnection hlearning (fun _ => id) (fun _ => .inl) (fun page hpage => ?_)
      fun p hp => ?_
    · rw [hbrowser] at hpage
      exact .inl (hpages page hpage)
    · rcases hs.waits p hp with hstale | ⟨hmeant, -⟩
      · refine .inl ?_
        rw [hbrowser]
        exact hstale
      -- No load is begun without a backend.
      · obtain ⟨other, hexecutor⟩ := hmeant.executor
        rw [hnone] at hexecutor
        cases hexecutor
  -- The pages that are kept are dropped with the connection; the attributes are not.
  · obtain ⟨hcleared, -⟩ := useBackend_drops backend hleft
    refine ⟨fun a ha => ?_, ?_, fun found hfound => ?_, fun page hpage => ?_, fun p hp => ?_,
      hs.single⟩
    · rw [hbrowser] at ha
      dsimp only at ha
      rw [hfree.registry] at ha
      cases ha
    · rw [hbrowser]
      exact hs.known
    · have hnone : found ∈ s.discoveries := hfound
      rw [hfree.discoveries] at hnone
      cases hnone
    · rw [hcleared] at hpage
      cases hpage
    · have hstale : p.load.generation < s.browser.generation →
          (s.useBackend connection backend).Awaits p := fun h => .inl (by rw [hbrowser]; exact h)
      rcases hfree.loads p hp with hschema | h
      · cases p with
        | schema query load =>
          rcases hs.waits _ hp with h | ⟨hmeant, -⟩
          · exact hstale h
          · refine .inr ⟨⟨?_, ?_, backend, ?_⟩, trivial⟩ <;> rw [hbrowser]
            · exact hmeant.generation
            · exact hmeant.collection
        | count sent load plan => cases hschema
        | page sent load plan total => cases hschema
      · exact hstale h

theorem connect_minds (s : Session) (connection : String)
    (hfree : s.browser.connection ≠ some connection →
      (s.connect connection).2 = .done (.verdict true) → s.Unburdened) :
    Minds T s (s.connect connection) := by
  rcases connect_cases s connection with
    ⟨-, -, h⟩ | ⟨-, t, message, htried, h⟩ | ⟨hmade, -, handed, backend, -, -, h⟩
  · rw [h]
    exact .done (.refl s) _
  · have huntaught : Untaught s t := by
      rcases htried with rfl | ⟨handed, rfl⟩
      · exact .refl _
      · exact attempted_untaught s handed
    rw [h]
    exact .done (huntaught.trans (trouble_untaught t _)).retains _
  · rw [h] at hfree ⊢
    have hconnected : Grown (s.attempted handed) ((s.attempted handed).useBackend connection backend) :=
      ⟨List.prefix_rfl, List.prefix_append _ _⟩
    refine .done (.after (attempted_untaught s handed).toUnlearned
      ⟨hconnected, fun hs _ => hs.useBackend backend ?_⟩) _
    by_cases hsame : s.browser.connection = some connection
    · exact .inl ⟨hmade.apart.resolve_right (not_not_intro hsame), hsame⟩
    · obtain ⟨hregistry, hdiscoveries, hloads⟩ := hfree hsame rfl
      exact .inr ⟨hsame, hregistry, hdiscoveries, hloads⟩

/-! ## Effects -/

/-- What is asked for neither puts in attributes by hand nor makes another connection. -/
def Command.Stays : Command → Prop
  | .mergeAttributes _ | .connect _ => False
  | _ => True

/-- How attributes have been learned when an action has come to some phase: what backends show may have
changed, and then schemas have been taken over at the most. -/
def LearnedBy (T : Testimony) (s : Session) : Phase × Session → Prop
  | (.looking, t) => Unlearned s t
  | (.informed, t) | (.owing, t) => ∃ m, Unlearned s m ∧ TakesSchema T m t
  | (.changed, t) => Retains T s t

theorem LearnedBy.retains {p : Phase} (h : LearnedBy T s (p, t)) : Retains T s t := by
  cases p with
  | looking => exact Unlearned.retains h
  | informed | owing =>
    obtain ⟨m, hm, htakes⟩ := h
    exact .after hm (Teaches.of_takes htakes).retains
  | changed => exact h

/-- What is done without learning anything may be done in every phase. -/
theorem LearnedBy.untaught {p : Phase} (h : LearnedBy T s (p, t)) (htu : Untaught t u)
    (footing : u.footing = t.footing) : LearnedBy T s (p, u) := by
  cases p with
  | looking => exact Unlearned.trans h htu.toUnlearned
  | informed | owing =>
    obtain ⟨m, hm, htakes⟩ := h
    exact ⟨m, hm, htakes.trans htu.takes⟩
  | changed => exact Retains.ending h htu footing

/-- Every effect keeps to what has been told. -/
theorem Effect.learnedBy {p q : Phase} (h : Effect Command.Stays (p, t) (q, u))
    (ht : LearnedBy T s (p, t)) : LearnedBy T s (q, u) := by
  have hlooks : ∀ {v}, Unlearned s t → Untaught t v → Unlearned s v := fun hst htv =>
    hst.trans htv.toUnlearned
  have htakes : ∀ {v}, (∃ m, Unlearned s m ∧ TakesSchema T m t) → TakesSchema T t v →
      ∃ m, Unlearned s m ∧ TakesSchema T m v := fun ⟨m, hm, hmt⟩ htv => ⟨m, hm, hmt.trans htv⟩
  have hbegins : ∀ {v w}, Unlearned s v → Untaught v w → ∃ m, Unlearned s m ∧ TakesSchema T m w :=
    fun hsv hvw => ⟨_, hsv, hvw.takes⟩
  cases h with
  | learn _ forced => exact ⟨t, ht, loadSchema_takes t forced⟩
  | inform => exact ⟨t, ht, .refl t⟩
  | learnAnew _ forced => exact htakes ht (loadSchema_takes t forced)
  | merge ask => exact ask.elim
  | clear => exact .after ht (clear_retains t)
  | newId => exact LearnedBy.untaught ht (newId_untaught t) rfl
  | trouble _ f => exact hlooks ht (trouble_untaught t f)
  | reconfigure _ config filters => exact htakes ht (reconfigure_untaught t config filters).takes
  | resize =>
    exact hbegins ht (.renew ⟨rfl, rfl, rfl, Nat.le_succ _, fun _ => id, .inl rfl⟩ rfl
      (.inr (Nat.lt_succ_self _)))
  | refresh =>
    exact hbegins ht (.renew ⟨rfl, rfl, rfl, Nat.le_succ _, fun _ h => (by cases h), .inr rfl⟩ rfl
      (.inl rfl))
  | cancel => exact htakes ht (cancelRun_untaught t).takes
  | postpone => exact LearnedBy.retains (p := .owing) (htakes ht (scheduleRun_untaught t).takes)
  | putOff => exact LearnedBy.retains (p := .owing) (htakes ht (putOff_untaught t).takes)
  | select _ collection => exact .after ht (selectCollection_retains t collection)
  | attempt _ provider => exact hlooks ht (attempted_untaught t provider)
  | connect ask => exact ask.elim
  | refuse => exact Unlearned.trans ht (backends_unlearned t _)
  | @delete _ _ _ executor deleted _ c _ kept =>
    have hwritten : Unlearned s (t.afterWrite executor c) :=
      Unlearned.trans ht (afterWrite_unlearned t executor c)
    exact (hwritten.trans (lessen_unlearned _ kept deleted)).retains
  | strand => exact (Unlearned.trans ht (afterWrite_unlearned t _ _)).retains
  | @update _ _ _ executor _ c =>
    have hwritten : Unlearned s (t.afterWrite executor c) :=
      Unlearned.trans ht (afterWrite_unlearned t executor c)
    exact (hwritten.trans (Untaught.update rfl rfl rfl rfl).toUnlearned).retains
  | upsert =>
    exact hbegins (Unlearned.trans ht (afterWrite_unlearned t _ _))
      (.renew ⟨rfl, rfl, rfl, Nat.le_succ _, fun _ => id, .inr rfl⟩ rfl (.inl rfl))
  | affect => exact Unlearned.trans ht (backends_unlearned t _)
  | openGate _ gate => exact hlooks ht (openGate_untaught t gate)
  | send => exact hlooks ht (send_untaught t _ _ _)
  | hear _ sent => exact hlooks ht (respond_untaught t sent)
  | _ => exact hlooks ht (.update rfl rfl rfl rfl)

section

variable (hdigest : ∀ a b, T.texts a → T.texts b → Digest.Distinguishes a b)

include hdigest

/-- Whatever comes of an action, all that is learned has been told. -/
theorem Ensues.minds {m : Phase × Session} {r : Session × Outcome Pause Reply}
    (h : Ensues Command.Stays m r) (hm : LearnedBy T s m) : Minds T s r := by
  have hlearned : ∀ {p t}, Effects Command.Stays m (p, t) → LearnedBy T s (p, t) := fun heffects =>
    heffects.keeps (I := LearnedBy T s) Effect.learnedBy hm
  induction h with
  | done effects _ reply => exact .done (hlearned effects).retains reply
  | raised effects _ f => exact .raised (hlearned effects).retains f
  | strands effects => exact .raised (hlearned effects).retains _
  | untaught effects => exact .raised (hlearned effects).retains _
  | @load t effects page forced after =>
    exact .after (hlearned effects) (.thenReply (loadDocuments_learns hdigest t page forced) after)
  | @reload t effects _ after =>
    obtain ⟨m, hm, htakes⟩ := hlearned effects
    exact .after hm (.thenReply (.after htakes (loadDocuments_learns hdigest t _ _)) after)
  | schema effects | request effects | background effects =>
    exact .pausing (hlearned effects).retains rfl
  | web _ before waits ih => exact ih.onWeb before waits

theorem reloadFirst_minds (s : Session) (after : AfterLoad) : Minds T s (s.reloadFirst after) :=
  (reloadFirst_ensues s after).minds hdigest ⟨s, (Untaught.refl s).toUnlearned, .refl s⟩

/-! ## Commands -/

/-- What is asked for puts in no attributes by hand; and if another connection is made by it, nothing
is known of attributes before. -/
structure Heeds (s : Session) (command : Command) : Prop where
  unmerged : ∀ attributes, command ≠ .mergeAttributes attributes
  unburdened : ∀ connection, command = .connect connection →
    s.browser.connection ≠ some connection →
    (s.connect connection).2 = .done (.verdict true) → s.Unburdened

/-- Whatever is asked for, all that is learned has been told. -/
theorem perform_minds (s : Session) {command : Command} (hc : s.Heeds command) :
    Minds T s (s.perform command) := by
  by_cases hstays : Command.Stays command
  · exact (perform_ensues s hstays).minds hdigest (Untaught.refl s).toUnlearned
  · cases command with
    | connect connection => exact connect_minds s connection (hc.unburdened connection rfl)
    | mergeAttributes attributes => exact absurd rfl (hc.unmerged attributes)
    | _ => exact absurd trivial hstays

/-! ## Actions that go on -/

/-- An action goes on that has waited for something of use; a schema is one that would be asked for
now. -/
theorem resume_minds (s : Session) {pause : Pause}
    (hwaits : ∀ p, pause.loadPause? = some p → s.Awaits p)
    (hquery : ∀ query, pause.query? = some query → s.Wants query) :
    Minds T s (s.resume pause) := by
  have hstill : Unlearned s s := (Untaught.refl s).toUnlearned
  induction pause with
  | load p after =>
    refine .thenReply (resumeLoad_learns hdigest (hwaits p rfl) ?_) after
    rintro query load rfl
    exact hquery query rfl
  | schema query after =>
    have htakes : LearnedBy T s (after.phase, (s.takeSchema query).1) := by
      cases after <;> exact ⟨s, hstill, (hquery query rfl).takes⟩
    exact Ensues.minds hdigest (resume_ensues s rfl) htakes
  | request sent | background => exact Ensues.minds hdigest (resume_ensues s rfl) hstill
  | web before waits pause ih => exact (ih hwaits hquery).onWeb before waits

end

/-! ## Those who ask -/

/-- An action that has to wait is put among those that do. -/
theorem park_retains {r : Session × Outcome Pause Reply} (hr : Minds T s r) {pause : Pause}
    (hpause : r.2 = .paused pause) {owner : Owner}
    (hsingle : ∀ c, owner = .client c → c.todo = []) :
    Retains T s { r.1 with waiting := r.1.waiting ++ [⟨owner, pause⟩] } := by
  refine ⟨hr.course.grown.trans ⟨List.prefix_rfl, List.prefix_rfl⟩, fun hs hheard => ?_⟩
  have hlore := hr.course.lore hs (hheard.earlier (t := r.1)
    ⟨⟨List.prefix_rfl, List.prefix_rfl⟩, rfl, rfl, rfl, rfl, fun _ => rfl⟩ rfl)
  refine ⟨hlore.registry, hlore.known, hlore.discoveries, hlore.pages, fun p hp => ?_, fun w hw => ?_⟩
  · have hawaits : r.1.Awaits p := by
      rcases mem_pauses_park hp with hold | hparked
      · exact hlore.waits p hold
      · exact hr.waits pause hpause p hparked
    exact hawaits.keep rfl rfl rfl (Nat.le_refl _) (.inl rfl)
  · rcases mem_actions_park hw with hold | rfl
    · exact hlore.single w hold
    · exact hsingle

theorem concluded_retains (h : Retains T s t) (c : Client) : Retains T s (t.serve c []) :=
  h.ending (.of_same (.of_browser rfl rfl rfl rfl (fun _ h => h) rfl) rfl (fun _ => id) rfl) rfl

/-- Somebody who asks for one thing has it done, or waits. -/
theorem serve_retains {command : Command} (hr : Minds T s (s.perform command)) (c : Client) :
    Retains T s (s.serve c [command]) := by
  unfold serve
  cases hp : s.perform command with
  | mk u outcome =>
    rw [hp] at hr
    cases outcome with
    | done reply => exact concluded_retains hr.course _
    | raised f => exact concluded_retains hr.course _
    | paused pause =>
      refine park_retains hr rfl fun other hother => ?_
      cases hother
      rfl

theorem serveAfter_retains {c : Client} (hnone : c.todo = []) {r : Session × Outcome Pause Reply}
    (hr : Minds T s r) : Retains T s (r.1.serveAfter c r.2) := by
  obtain ⟨u, outcome⟩ := r
  unfold serveAfter
  rw [hnone]
  cases outcome with
  | done reply => exact concluded_retains hr.course _
  | raised f => exact concluded_retains hr.course _
  | paused pause =>
    refine park_retains hr rfl fun other hother => ?_
    cases hother
    exact hnone

theorem runAfter_retains {r : Session × Outcome Pause Reply} (hr : Minds T s r)
    (run : Nat) : Retains T s (r.1.runAfter run r.2) := by
  obtain ⟨u, outcome⟩ := r
  have hsettled : Retains T s { u with debouncer := u.debouncer.settled run } :=
    hr.course.ending (.of_same (.of_browser rfl rfl rfl rfl (fun _ h => h) rfl) rfl (fun _ => id) rfl) rfl
  cases outcome with
  | done reply => exact hsettled
  | raised f => exact hsettled
  | paused pause => exact park_retains hr rfl fun _ hother => by cases hother

end Folio.Session
