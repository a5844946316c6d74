-- The course of a load, as moves. Whatever a load does between its beginning and its end, it has
-- been settled when it is over; and what was put off meanwhile is taken up then.
import Folio.Proofs.Background
import Folio.Proofs.Effects

namespace Folio.Session

variable {R : Realm} {h : Hand} {s t : Session} {load : Load} {stage : Stage}

/-! ## What is taken for granted -/

/-- What holds of a load on its way, by what it is about to do. -/
structure Realm.Fits (R : Realm) (fits : Leg → Prop) : Prop where
  begun : ∀ load, fits (.begun load)
  resumed : ∀ {p : LoadPause}, R.pause p → fits p.leg
  stride : ∀ {s t : Session} {leg next : Leg}, Within R s → Stride (s, leg) (t, next) →
    fits leg → fits next
  raised : ∀ {load f}, fits (.stops load (.raised f)) → R.breaks load
  paused : ∀ {load p}, fits (.stops load (.paused p)) → R.pause p

/-- Where loads may be broken off, and may wait for anything, no more is needed. -/
theorem Realm.Fits.of_any (hbreaks : ∀ load, R.breaks load) (hpause : ∀ p, R.pause p) :
    R.Fits fun _ => True where
  begun := fun _ => trivial
  resumed := fun _ => trivial
  stride := fun _ _ _ => trivial
  raised := fun _ => hbreaks _
  paused := fun _ => hpause _

/-- What is taken for granted fits together: commands keep to it, and so do loads. -/
structure Realm.Laws (R : Realm) : Prop where
  responds : ∀ {b}, R.backend b → ∀ collection request, R.backend (b.respond collection request).1
  affects : ∀ {command}, R.command command → ∀ {b c}, Command.Affects command b c →
    R.backend b → R.backend c
  prompt : R.wide ∨ ∀ {command}, R.command command → Command.Prompt command
  schemas : ∀ {s : Session}, Within R s → ∀ query, (s.takeSchema query).2 = .ok () ∨ R.flawed
  holds : ∀ {b}, R.backend b → b.schemaHeld = true → R.holds
  loads : ∃ fits, R.Fits fits

/-! ## Parts of a load -/

theorem Apprised.unmoved {s t : Session} (h : Apprised s t) : Unmoved s t := by
  obtain ⟨registry, known, rfl⟩ := h
  exact .update (.of_basis rfl) rfl

/-- Something is made ready that is no part of a run of the debouncer. -/
theorem spawn_leads (s : Session) {job : Job} (haction : job.action? = none)
    (hrun : job.run? = none) : Leads R ⟨h, s⟩ ⟨h, s.spawn job⟩ := by
  have hactions := actions_spawn (s := s) haction
  have hahead := runsAhead_spawn (s := s) hrun
  have hpauses : (s.spawn job).pauses = s.pauses := by
    unfold pauses
    rw [hactions]
  refine .move (.calm (.of_actions (.refl _) (.of_eq hactions) (.of_eq hahead) rfl rfl) rfl)
    fun hw => ⟨hw.backends, hpauses ▸ hw.pauses, hactions ▸ hw.todo, hw.prompt, ?_⟩
  exact hw.orderly.of_perm (.of_eq hactions) (.of_eq hahead) rfl

/-- A backend is changed in a way that keeps what is taken for granted. -/
theorem setBackend_leads {number : Nat} {b c : Backend} (there : s.backend? number = some b)
    (hc : R.backend b → R.backend c) : Leads R ⟨h, s⟩ ⟨h, s.setBackend number c⟩ := by
  refine .move (.calm (.of_actions (.refl _) (.refl _) (.refl _) rfl rfl) rfl) fun hw => ?_
  refine ⟨?_, hw.pauses, hw.todo, hw.prompt, hw.orderly.of_perm (.refl _) (.refl _) rfl⟩
  intro other hother
  rcases List.mem_or_eq_of_mem_set hother with hmem | rfl
  · exact hw.backends other hmem
  · exact hc (hw.backends b (List.mem_of_getElem? there))

theorem note_within (event : LoadEvent) (hw : Within R s) : Within R (s.note event) :=
  ⟨hw.backends, hw.pauses, hw.todo, hw.prompt, hw.orderly.of_perm (.refl _) (.refl _) rfl⟩

theorem update_within (f : Browser → Browser) (hw : Within R s) : Within R (s.update f) :=
  ⟨hw.backends, hw.pauses, hw.todo, hw.prompt, hw.orderly.of_perm (.refl _) (.refl _) rfl⟩

theorem spawn_within {job : Job} (haction : job.action? = none) (hrun : job.run? = none)
    (hw : Within R s) : Within R (s.spawn job) :=
  (spawn_leads (h := .free) s haction hrun hw).2

/-- A browser whose filters are made anew. -/
theorem retype_alike (b : Browser) : AlikeBrowsers b b.retype :=
  ⟨⟨rfl, rfl, rfl, rfl⟩, rfl, .single ⟨b.registry, rfl⟩, .refl _, fun _ => id⟩

theorem request_unmoved (s : Session) (collection : String) (request : Request) :
    Unmoved s (s.request collection request).1 :=
  ⟨⟨.refl _, rfl, rfl, rfl, rfl, rfl, rfl⟩, rfl⟩

/-- A load that cannot begin without a backend says so. -/
theorem unconnected_alike (s : Session) :
    Alike s (s.update (·.fail (.browser (.notInitialized "Client not initialized")))) :=
  (Stays.update (f := (·.fail (.browser (.notInitialized "Client not initialized"))))
    (.of_basis rfl)).alike

/-- The answer of a backend leaves all else as it is. -/
theorem respond_leads (hR : R.Laws) {sent : Sent} {answer : Except Fault Value}
    (hrespond : s.respond sent = (t, answer)) : Leads R ⟨h, s⟩ ⟨h, t⟩ := by
  rcases s.respond_cases sent with ⟨-, hnone⟩ | ⟨b, hb, hsome⟩
  · cases hnone.symm.trans hrespond
    exact .refl _
  · cases hsome.symm.trans hrespond
    have hanswered := setBackend_leads (R := R) (h := h) hb
      fun hb => hR.responds hb sent.collection sent.request
    exact hanswered.trans (Unmoved.leads ⟨⟨.refl _, rfl, rfl, rfl, rfl, rfl, rfl⟩, rfl⟩)

/-! ## Loads on their way -/

/-- From one moment another one has been come to, in which what is taken for granted holds. -/
def Reaches (R : Realm) (m n : Moment) : Prop :=
  Relation.ReflTransGen (Move R) m n ∧ Within R n.session

namespace Reaches

variable {m n o : Moment}

theorem leads (h : Reaches R m n) (hno : Leads R n o) : Reaches R m o :=
  ⟨h.1.trans (hno h.2).1, (hno h.2).2⟩

theorem move (h : Reaches R m n) (hmove : Move R n o)
    (hwithin : Within R n.session → Within R o.session) : Reaches R m o :=
  h.leads (.move hmove hwithin)

end Reaches

/-- Where a load stands that was wished for at some moment: what is in hand on each of its legs. -/
inductive OnCourse (R : Realm) (fits : Leg → Prop) (m : Moment) (pending : Bool) :
    Session → Leg → Prop where
  | wished {s : Session} {h : Hand} {page : Value} {forced : Bool} (reached : Reaches R m ⟨h, s⟩)
      (still : s.browser.reloadPending = pending)
      (hand : h = .free ∨ h = .owing ∧ page = .int 1 ∧ forced = true)
      (idle : h = .owing → s.browser.isLoading = false) :
      OnCourse R fits m pending s (.wanted page forced)
  | way {s : Session} {leg : Leg} {load : Load} (goes : leg.load? = some load)
      (reached : Reaches R m ⟨.loading load leg.stage, s⟩)
      (still : s.browser.reloadPending = pending) (fit : fits leg) : OnCourse R fits m pending s leg
  | settled {s : Session} {load : Load} {shown : Bool} (reached : Reaches R m ⟨.settled load, s⟩)
      (still : s.browser.reloadPending = pending) (idle : s.browser.isLoading = false) :
      OnCourse R fits m pending s (.stops load (.done shown))
  | broken {s : Session} {load : Load} {stage : Stage} {f : Fault}
      (reached : Reaches R m ⟨.loading load stage, s⟩) (breaks : R.breaks load) :
      OnCourse R fits m pending s (.stops load (.raised f))
  | held {s : Session} {p : LoadPause} (reached : Reaches R m ⟨.loading p.load p.stage, s⟩)
      (waits : R.pause p) : OnCourse R fits m pending s (.stops p.load (.paused p))
  /-- No load has begun. -/
  | unbegun {s : Session} {shown : Bool} (reached : Reaches R m ⟨.free, s⟩)
      (still : s.browser.reloadPending = pending) : OnCourse R fits m pending s (.over (.done shown))
  | ended {s : Session} {load : Load} {shown : Bool} (reached : Reaches R m ⟨.settled load, s⟩)
      (still : s.browser.reloadPending = pending) (idle : s.browser.isLoading = false) :
      OnCourse R fits m pending (s.note (.ended load)) (.over (.done shown))
  | raised {s : Session} {f : Fault} (reached : Reaches R m ⟨.free, s⟩) :
      OnCourse R fits m pending s (.over (.raised f))
  | waiting {s : Session} {p : LoadPause} (reached : Reaches R m ⟨.waiting p, s⟩)
      (waits : R.pause p) : OnCourse R fits m pending s (.over (.paused p))

namespace OnCourse

variable {m : Moment} {fits : Leg → Prop} {pending : Bool} {leg next : Leg}

theorem on (h : OnCourse R fits m pending s leg) (goes : leg.load? = some load) :
    Reaches R m ⟨.loading load leg.stage, s⟩ ∧ s.browser.reloadPending = pending ∧ fits leg := by
  cases h with
  | way other reached still fit =>
    rw [other] at goes
    cases goes
    exact ⟨reached, still, fit⟩
  | _ => cases goes

/-- A load that has failed, or is out of date. -/
theorem rests {shown : Bool} {f : Browser → Browser} (h : OnCourse R fits m pending s leg)
    (goes : leg.load? = some load) (hf : basis (f s.browser) = basis s.browser)
    (hstate : (f s.browser).state = .idle ∨ (f s.browser).state = .failed) :
    OnCourse R fits m pending (s.update f) (.stops load (.done shown)) := by
  obtain ⟨hreached, hstill, -⟩ := h.on goes
  have hstays : Stays s (s.update f) := .update (.of_basis hf)
  exact .settled (hreached.leads (hstays.settles hstate)) (hstays.browser.pending.trans hstill)
    (not_loading hstate)

/-- Every stride of a load follows its course. -/
theorem stride (hR : R.Laws) (hfits : R.Fits fits) (hstride : Stride (s, leg) (t, next))
    (h : OnCourse R fits m pending s leg) : OnCourse R fits m pending t next := by
  -- Where the load goes on, all that is left is where the move leads.
  have hgoes : ∀ {own}, leg.load? = some own → next.load? = some own →
      (Within R s → Leads R ⟨.loading own leg.stage, s⟩ ⟨.loading own next.stage, t⟩) →
      t.browser.reloadPending = s.browser.reloadPending → OnCourse R fits m pending t next := by
    intro own hleg hnext hleads hpending
    obtain ⟨hreached, hstill, hfit⟩ := h.on hleg
    exact .way hnext (hreached.leads (hleads hreached.2)) (hpending.trans hstill)
      (hfits.stride hreached.2 hstride hfit)
  cases hstride with
  | idle hidle =>
    cases h with
    | wished reached still hand notLoading =>
      refine .unbegun ?_ still
      rcases hand with rfl | ⟨rfl, -⟩
      · exact reached
      · have hloading := notLoading rfl
        have hnone := hidle.resolve_right (by simp [hloading])
        exact reached.move (.giveUp (Stays.refl s).alike hloading (.inl rfl) (.inl hnone)) id
    | way goes => cases goes
  | refuse hloading hexecutor =>
    cases h with
    | wished reached still hand =>
      refine .unbegun (reached.move ?_ (update_within
        (·.fail (.browser (.notInitialized "Client not initialized"))))) still
      rcases hand with rfl | ⟨rfl, -⟩
      · exact .refuse (unconnected_alike s) hloading rfl
      · exact .giveUp (unconnected_alike s) hloading (.inr rfl) (.inr hexecutor)
    | way goes => cases goes
  | begin hcurrent hloading hexecutor =>
    cases h with
    | wished reached still hand =>
      refine .way rfl (reached.move (.begin hloading hcurrent ?_ rfl hand) fun hw =>
        note_within _ (update_within (·.begin) hw)) still (hfits.begun _)
      rw [hexecutor]
      rfl
    | way goes => cases goes
  | learn known =>
    have hunmoved := (apprised_of_ensure known).unmoved
    exact hgoes rfl rfl (fun _ => hunmoved.leads) hunmoved.browser.pending
  | take taken =>
    have hunmoved := (apprised_of_take taken).unmoved
    exact hgoes rfl rfl (fun _ => hunmoved.leads) hunmoved.browser.pending
  | retype => exact hgoes rfl rfl (fun _ => (Unmoved.update (retype_alike s.browser) rfl).leads) rfl
  | decide planned => exact hgoes rfl rfl (fun _ => .move (.decide planned) id) rfl
  | @showAgain _ own move page paging recalled target found commit =>
    obtain ⟨hreached, hstill, -⟩ := h.on (show Leg.load? _ = some own from rfl)
    have hmove := Move.showAgain (R := R) recalled commit
    rw [showKept_committed commit] at hmove ⊢
    refine .settled (hreached.move hmove fun hw => ?_) hstill rfl
    exact spawn_within rfl rfl (note_within _ (note_within _ (update_within _ hw)))
  | know | tell => exact hgoes rfl rfl (fun _ => .refl _) rfl
  | @count _ _ own plan _ _ request =>
    have hunmoved := request_unmoved s own.collection (Query.compileCount plan.config)
    rw [request] at hunmoved
    exact hgoes rfl rfl (fun _ => hunmoved.leads) hunmoved.browser.pending
  | hear respond | receive respond =>
    exact hgoes rfl rfl (fun _ => respond_leads hR respond)
      (congrArg Browser.reloadPending (respond_browser respond))
  | @ask _ _ own plan _ _ request =>
    have hunmoved := request_unmoved s own.collection plan.request
    rw [request] at hunmoved
    exact hgoes rfl rfl (fun _ => .move (.ask request) fun hw => note_within _ (hunmoved.within hw))
      hunmoved.browser.pending
  | turn current read commit =>
    exact hgoes rfl rfl (fun _ => .move (.turn current commit) fun hw =>
      note_within _ (update_within ({ · with paging := _ }) hw)) rfl
  | @display _ _ own plan _ _ _ view current read =>
    obtain ⟨hreached, hstill, -⟩ := h.on (show Leg.load? _ = some own from rfl)
    obtain ⟨cache, hbrowser, -⟩ := showFetched_browser s own plan view
    rw [Leg.stage, ← rows_of_read read] at hreached
    refine .settled (hreached.move (.display current) fun hw => ?_) ?_ ?_
    · exact spawn_within rfl rfl (note_within _ (update_within _ hw))
    · rw [hbrowser]
      exact hstill
    · rw [hbrowser]
      rfl
  | rest late => exact h.rests late.goes.1 rfl (.inl rfl)
  | fail fails => exact h.rests fails.goes rfl (.inr rfl)
  | broken breaks =>
    obtain ⟨hreached, -, hfit⟩ := h.on breaks.goes
    exact .broken hreached (hfits.raised (hfits.stride hreached.2 (.broken breaks) hfit))
  | @wait _ _ pause waits =>
    obtain ⟨hreached, -, hfit⟩ := h.on waits.goes
    have hstage : leg.stage = pause.stage := by cases waits <;> rfl
    rw [hstage] at hreached
    exact .held hreached (hfits.paused (hfits.stride hreached.2 (.wait waits) hfit))
  | close _ load outcome =>
    cases h with
    | way goes => cases goes
    | settled reached still idle => exact .ended reached still idle
    | broken reached breaks => exact .raised (reached.move (.broken breaks) (note_within _))
    | held reached waits => exact .waiting (reached.move (.pause s) id) waits

end OnCourse

/-! ## The end of a load -/

/-- What is in hand when a load is over or has to wait. -/
def Hand.ofLoad : Outcome LoadPause Bool → Hand
  | .paused p => .waiting p
  | _ => .free

/-- What comes of a load from some moment on. -/
structure Ends (R : Realm) (m : Moment) (r : Session × Outcome LoadPause Bool) : Prop where
  leads : Leads R m ⟨Hand.ofLoad r.2, r.1⟩
  paused : Within R m.session → ∀ p, r.2 = .paused p → R.pause p

namespace Ends

variable {m : Moment} {r : Session × Outcome LoadPause Bool}

theorem of_reaches (h : Within R m.session →
    Reaches R m ⟨Hand.ofLoad r.2, r.1⟩ ∧ ∀ p, r.2 = .paused p → R.pause p) : Ends R m r :=
  ⟨fun hw => (h hw).1, fun hw => (h hw).2⟩

end Ends

namespace OnCourse

variable {m : Moment} {fits : Leg → Prop} {pending : Bool} {r : Session × Outcome LoadPause Bool}

/-- A load that is over has put off or taken up nothing. -/
theorem still {shown : Bool} (h : OnCourse R fits m pending s (.over (.done shown))) :
    s.browser.reloadPending = pending := by
  cases h with
  | way goes => cases goes
  | unbegun reached still => exact still
  | ended reached still idle => exact still

/-- A load is over for good, unless a reload is still put off that could be taken up. -/
theorem finishes (h : OnCourse R fits m pending r.1 (.over r.2))
    (hsettled : ∀ shown, r.2 = .done shown → r.1.browser.isLoading = false →
      r.1.browser.reloadPending = false) :
    Reaches R m ⟨Hand.ofLoad r.2, r.1⟩ ∧ ∀ p, r.2 = .paused p → R.pause p := by
  obtain ⟨t, outcome⟩ := r
  cases h with
  | way goes => cases goes
  | unbegun reached => exact ⟨reached, fun _ h => nomatch h⟩
  | @ended s _ shown reached still idle =>
    exact ⟨reached.move (.finish idle (hsettled shown rfl idle)) (note_within _), fun _ h => nomatch h⟩
  | raised reached => exact ⟨reached, fun _ h => nomatch h⟩
  | waiting reached waits =>
    refine ⟨reached, fun q hq => ?_⟩
    cases hq
    exact waits

/-- What was put off is owed when a load is over. -/
theorem owes {s : Session} {shown : Bool} (h : OnCourse R fits m pending s (.over (.done shown)))
    (hidle : s.browser.isLoading = false) : Reaches R m
      ⟨.owing, (s.update ({ · with reloadPending := false })).note .takenUp⟩ := by
  cases h with
  | way goes => cases goes
  | unbegun reached =>
    exact reached.move (.takeUp hidle) fun hw => note_within _ (update_within _ hw)
  | ended reached still idle =>
    exact reached.move (.relay idle) fun hw => note_within _ (update_within _ (note_within _ hw))

/-- A load comes to its end, and what was put off is taken up. -/
theorem drains (hR : R.Laws) (hfits : R.Fits fits) (h : OnCourse R fits m pending r.1 (.over r.2)) :
    Reaches R m ⟨Hand.ofLoad (drain r).2, (drain r).1⟩ ∧
      ∀ p, (drain r).2 = .paused p → R.pause p := by
  rcases drain_cases r with ⟨t, shown, rfl, -, hidle, htaken⟩ | ⟨hsame, hsettled⟩
  · rw [htaken]
    have hover := (beginLoad_strides _ _ _).keeps (I := OnCourse R fits m false)
      (fun hstride hon => hon.stride hR hfits hstride)
      (.wished (h.owes hidle) rfl (.inr ⟨rfl, rfl, rfl⟩) fun _ => hidle)
    refine hover.finishes fun shown hdone _ => ?_
    rw [hdone] at hover
    exact hover.still
  · rw [hsame]
    refine h.finishes fun shown hdone hidle => ?_
    cases hpending : r.1.browser.reloadPending with
    | false => rfl
    | true =>
      rw [hsettled shown hdone hpending] at hidle
      cases hidle

end OnCourse

/-! ## Loads of backends that keep to what is taken for granted -/

section

variable (hR : R.Laws)

include hR

theorem resumeLoad_ends (s : Session) {p : LoadPause} (hp : R.pause p) :
    Ends R ⟨.loading p.load p.stage, s⟩ (s.resumeLoad p) := by
  obtain ⟨fits, hfits⟩ := hR.loads
  refine .of_reaches fun hw => ?_
  have hway : OnCourse R fits ⟨.loading p.load p.stage, s⟩ s.browser.reloadPending s p.leg := by
    refine .way p.leg_load? ?_ rfl (hfits.resumed hp)
    rw [p.leg_stage]
    exact ⟨.refl, hw⟩
  exact ((continueLoad_strides s p).keeps (fun hstride hon => hon.stride hR hfits hstride)
    hway).drains hR hfits

/-- A load that is asked for, or is owed. -/
theorem loadDocuments_ends (s : Session) (page : Value) (forced : Bool)
    (hand : h = .free ∨ h = .owing ∧ page = .int 1 ∧ forced = true)
    (idle : h = .owing → s.browser.isLoading = false) :
    Ends R ⟨h, s⟩ (s.loadDocuments page forced) := by
  obtain ⟨fits, hfits⟩ := hR.loads
  refine .of_reaches fun hw => ?_
  have hwished : OnCourse R fits ⟨h, s⟩ s.browser.reloadPending s (.wanted page forced) :=
    .wished ⟨.refl, hw⟩ rfl hand idle
  exact ((beginLoad_strides s page forced).keeps (fun hstride hon => hon.stride hR hfits hstride)
    hwished).drains hR hfits

end

end Folio.Session
