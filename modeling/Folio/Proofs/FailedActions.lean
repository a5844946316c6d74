-- What an action that fails leaves behind. A load that comes to nothing, a filter that is refused,
-- a write that a backend refuses and a connection that cannot be made leave the page that is shown,
-- the walk, the pages that were kept and the query as they are, however long the action had to wait.
import Folio.Proofs.FailedLoads

namespace Folio.Session

variable {b : Browser} {s t u : Session}

/-! ## Actions that have to wait -/

/-- The second session comes after the first while an action waits. Backends may have changed; the
browser has learned attributes at most. -/
def Meanwhile (s t : Session) : Prop :=
  ∃ registry known, t.browser = { s.browser with registry := registry, known := known }

theorem Meanwhile.unchanged (h : Meanwhile s t) : s.browser.Unchanged t.browser := by
  obtain ⟨_, _, ht⟩ := h
  rw [ht]
  exact ⟨rfl, rfl⟩

/-- What comes of a command, and then of what is left of it each time that it goes on, if nothing else
is asked of the browser until it is over. -/
inductive Alone (command : Command) (s : Session) : Session × Outcome Pause Reply → Prop where
  | begun : Alone command s (s.perform command)
  | goneOn {t u : Session} {pause : Pause} (waits : Alone command s (t, .paused pause))
      (meanwhile : Meanwhile t u) : Alone command s (u.resume pause)

/-- How commands fail: a page is not shown, a filter is refused or is not there, a write is refused,
or a connection cannot be made. -/
inductive Fails : Command → Outcome Pause Reply → Prop where
  | load (page : Value) (forced : Bool) : Fails (.load page forced) (.done (.verdict false))
  | filter (intent : Value) (f : FilterFault) : Fails (.dispatch intent) (.raised (.filter f))
  | wish (intent : Value) (f : BrowserFault) : Fails (.dispatch intent) (.raised (.browser f))
  | delete (keys : Value) (f : BrowserFault) : Fails (.delete keys) (.raised (.browser f))
  | update (key changes : Value) (f : BrowserFault) :
      Fails (.update key changes) (.raised (.browser f))
  | upsert (rows : Value) (f : BrowserFault) : Fails (.upsert rows) (.raised (.browser f))
  | connect (connection : String) : Fails (.connect connection) (.done (.verdict false))

/-! ## Loads that are asked for -/

/-- A load that is asked for says that it has shown rows, or leaves everything as it was. -/
inductive Answers (b : Browser) : Session × Outcome Pause Reply → Prop where
  | shown (t : Session) : Answers b (t, .done (.verdict true))
  | unshown {t : Session} (intact : b.Intact t.browser) : Answers b (t, .done (.verdict false))
  | waits {t : Session} (intact : b.Intact t.browser) (pause : LoadPause) :
      Answers b (t, .paused (.load pause .verdict))
  | broken (t : Session) (f : Fault) : Answers b (t, .raised f)

theorem Spares.answers {r : Session × Outcome LoadPause Bool} (h : Spares b r) :
    Answers b (thenReply r .verdict) := by
  cases h with
  | shown _ => exact .shown _
  | unshown intact => exact .unshown intact
  | waits intact pause => exact .waits intact pause
  | broken t _ => exact .broken t _

theorem Alone.answers (settled : s.browser.reloadPending = false) {page : Value} {forced : Bool}
    {r : Session × Outcome Pause Reply} (h : Alone (.load page forced) s r) :
    Answers s.browser r := by
  induction h with
  | begun => exact (loadDocuments_spares settled (.refl _) page forced).answers
  | goneOn _ meanwhile ih =>
    cases ih with
    | waits intact pause =>
      have hintact := intact.trans meanwhile.unchanged.intact
      exact (resumeLoad_spares settled hintact pause).answers

/-! ## Changes -/

/-- A change is refused and leaves everything as it was, or is carried out. From then on no fault of
it is one that the browser reports. -/
inductive Changes (b : Browser) : Session × Outcome Pause Reply → Prop where
  | refused {t : Session} (unchanged : b.Unchanged t.browser) (f : Fault) :
      Changes b (t, .raised f)
  | broken (t : Session) {f : Fault} (unforeseen : f.unforeseen = true) : Changes b (t, .raised f)
  | over (t : Session) (reply : Reply) : Changes b (t, .done reply)
  /-- A load that it comes to has to wait. -/
  | loads (t : Session) (pause : LoadPause) (after : AfterLoad) :
      Changes b (t, .paused (.load pause after))
  /-- It waits for something else; unless it goes on to load, everything is as it was. -/
  | waits {t : Session} {pause : Pause} (unloaded : pause.loadPause? = none)
      (unchanged : pause.phase.isEarly = true → b.Unchanged t.browser) : Changes b (t, .paused pause)
  /-- Whoever asked from the web hears of no fault. -/
  | web (t : Session) (before : Option Nat) (waits : Bool) (pause : Pause) :
      Changes b (t, .paused (.web before waits pause))

/-- A load never raises a fault that the browser reports. -/
theorem Spares.changes {r : Session × Outcome LoadPause Bool} {c : Browser} (h : Spares c r)
    (after : AfterLoad) : Changes b (thenReply r after) := by
  cases h with
  | shown _ => exact .over _ _
  | unshown _ => exact .over _ _
  | waits _ pause => exact .loads _ pause after
  | broken t unforeseen => exact .broken t unforeseen

theorem drain_changes {r : Session × Outcome LoadPause Bool} {c : Browser} (h : Spares c r)
    (after : AfterLoad) : Changes b (thenReply (drain r) after) := by
  rcases drain_cases r with ⟨t, shown, -, -, -, hdrained⟩ | ⟨hsame, -⟩
  · rw [hdrained]
    exact (beginLoad_spares (.refl _) _ _).changes after
  · rw [hsame]
    exact h.changes after

theorem loadDocuments_changes (s : Session) (page : Value) (forced : Bool) (after : AfterLoad) :
    Changes b (thenReply (s.loadDocuments page forced) after) :=
  drain_changes (beginLoad_spares (.refl _) page forced) after

theorem onWeb_changes (r : Session × Outcome Pause Reply) (before : Option Nat) (waits : Bool) :
    Changes b (onWeb before waits r) := by
  obtain ⟨t, outcome⟩ := r
  cases outcome with
  | raised f => exact .over t _
  | paused pause => exact .web t before waits pause
  | done reply =>
    unfold onWeb
    dsimp only
    split
    · exact .web t before false .background
    · exact .over t _

/-- What is asked for leaves the filters that are remembered alone. -/
def Command.SparesFilters : Command → Prop
  | .saveFilter _ | .deleteSaved _ | .applySaved _ | .failArchive _ => False
  | _ => True

/-- No effect that comes early changes what is shown. -/
theorem Effect.unchanged {p q : Phase} (h : Effect Command.SparesFilters (p, s) (q, t))
    (early : q.isEarly = true) : p.isEarly = true ∧ s.browser.Unchanged t.browser := by
  cases h with
  | learn _ forced => exact ⟨rfl, (loadSchema_apprised s forced).unchanged⟩
  | newId => exact ⟨early, .refl _⟩
  | trouble _ f => exact ⟨rfl, Browser.fail_unchanged _ f⟩
  | save ask | unsave ask | mark ask | failArchive ask => exact ask.elim
  | attempt | resetAttempts => exact ⟨rfl, rfl, rfl⟩
  | hear _ sent =>
    have hbrowser : (s.respond sent).1.browser = s.browser := respond_browser (Prod.eta _).symm
    exact ⟨rfl, hbrowser ▸ .refl _⟩
  | _ => first | exact ⟨rfl, .refl _⟩ | cases early

theorem Effects.unchanged {m n : Phase × Session} (h : Effects Command.SparesFilters m n)
    (early : n.1.isEarly = true) : m.1.isEarly = true ∧ m.2.browser.Unchanged n.2.browser := by
  refine h.keeps
    (I := fun n => n.1.isEarly = true → m.1.isEarly = true ∧ m.2.browser.Unchanged n.2.browser)
    (fun heffect hm hearly => ?_) (fun hearly => ⟨hearly, .refl _⟩) early
  obtain ⟨hbefore, hunchanged⟩ := heffect.unchanged hearly
  obtain ⟨hfirst, hsame⟩ := hm hbefore
  exact ⟨hfirst, hsame.trans hunchanged⟩

/-- Whatever comes of what is asked for is refused early, or carried out. -/
theorem Ensues.changes {m : Phase × Session} {r : Session × Outcome Pause Reply}
    (h : Ensues Command.SparesFilters m r)
    (hm : m.1.isEarly = true → b.Unchanged m.2.browser) : Changes b r := by
  have hearly : ∀ {n : Phase × Session}, Effects Command.SparesFilters m n →
      n.1.isEarly = true → b.Unchanged n.2.browser := fun heffects hn =>
    have hsame := heffects.unchanged hn
    (hm hsame.1).trans hsame.2
  cases h with
  | done _ _ reply => exact .over _ reply
  | raised effects early f => exact .refused (hearly effects early) f
  | strands _ unforeseen => exact .broken _ unforeseen
  | untaught _ taken => exact .broken _ (takeSchema_unforeseen taken)
  | load _ page forced after => exact loadDocuments_changes _ page forced after
  | reload _ _ after => exact loadDocuments_changes _ (.int 1) true after
  | @schema _ _ query after effects =>
    refine .waits rfl fun hphase => hearly effects ?_
    cases after <;> first | rfl | cases hphase
  | request effects => exact .waits rfl fun _ => hearly effects rfl
  | background effects => exact .waits rfl fun _ => hearly effects rfl
  | web => exact onWeb_changes _ _ _

/-- What is left of a change stays one. -/
theorem resume_changes {pause : Pause} (h : Changes b (t, .paused pause)) (meanwhile : Meanwhile t u) :
    Changes b (u.resume pause) := by
  cases h with
  | loads _ pause after => exact drain_changes (continueLoad_spares (.refl u.browser) pause) after
  | waits unloaded unchanged =>
    refine (resume_ensues u unloaded).changes fun hphase => ?_
    have hsame := (unchanged hphase).trans meanwhile.unchanged
    exact hsame.trans (taught_apprised u pause).unchanged
  | web _ before waits pause => exact onWeb_changes _ before waits

theorem Alone.changes {command : Command} {r : Session × Outcome Pause Reply}
    (h : Alone command s r) (ask : Command.SparesFilters command) : Changes s.browser r := by
  induction h with
  | begun => exact (perform_ensues s ask).changes fun _ => .refl _
  | goneOn _ meanwhile ih => exact resume_changes ih meanwhile

/-- A fault that the browser reports has come before any change. -/
theorem Changes.unchanged {f : Fault} (h : Changes b (t, .raised f))
    (foreseen : f.unforeseen = false) : b.Unchanged t.browser := by
  cases h with
  | refused unchanged => exact unchanged
  | broken _ unforeseen =>
    rw [unforeseen] at foreseen
    cases foreseen

/-! ## Connections -/

/-- A connection that is not made leaves everything as it was, and connecting never waits. -/
theorem Alone.connection {connection : String} {r : Session × Outcome Pause Reply}
    (h : Alone (.connect connection) s r) :
    (∀ pause, r.2 ≠ .paused pause) ∧
      (r.2 = .done (.verdict false) → s.browser.Unchanged r.1.browser) := by
  induction h with
  | begun =>
    change (∀ pause, (s.connect connection).2 ≠ .paused pause) ∧
      ((s.connect connection).2 = .done (.verdict false) →
        s.browser.Unchanged (s.connect connection).1.browser)
    rcases connect_cases s connection with
      ⟨-, -, h⟩ | ⟨-, t, message, htried, h⟩ | ⟨-, _, _, _, -, -, h⟩
    · rw [h]
      exact ⟨fun _ => nofun, nofun⟩
    · rw [h]
      refine ⟨fun _ => nofun, fun _ => ?_⟩
      rcases htried with rfl | ⟨handed, rfl⟩ <;> exact ⟨rfl, rfl⟩
    · rw [h]
      exact ⟨fun _ => nofun, nofun⟩
  | goneOn _ _ ih => exact absurd rfl (ih.1 _)

/-! ## The law -/

/-- However an action fails, and however long it has waited: if nothing had been put off before, and
nothing else is asked of the browser meanwhile, it leaves the page that is shown, the walk, the pages
that were kept, the place and the query as they were. Filters may have been made anew by a load. -/
theorem failed_action_changes_nothing {command : Command} {r : Session × Outcome Pause Reply}
    (settled : s.browser.reloadPending = false) (alone : Alone command s r)
    (fails : Fails command r.2) :
    s.browser.Intact r.1.browser ∧
      ((∀ page forced, command ≠ .load page forced) → r.1.browser.config = s.browser.config) := by
  have changing {f : Fault} (hr : r.2 = .raised f) (foreseen : f.unforeseen = false)
      (ask : Command.SparesFilters command) : s.browser.Unchanged r.1.browser := by
    have hchanges := alone.changes ask
    obtain ⟨t, outcome⟩ := r
    cases hr
    exact hchanges.unchanged foreseen
  have exactly (h : s.browser.Unchanged r.1.browser) : s.browser.Intact r.1.browser ∧
      ((∀ page forced, command ≠ .load page forced) → r.1.browser.config = s.browser.config) :=
    ⟨h.intact, fun _ => h.config⟩
  obtain ⟨t, outcome⟩ := r
  cases fails with
  | load page forced =>
    cases alone.answers settled with
    | unshown intact => exact ⟨intact, fun h => absurd rfl (h page forced)⟩
  | connect connection => exact exactly (alone.connection.2 rfl)
  | _ => exact exactly (changing rfl rfl trivial)

/-! ## A load that is let go on and fails -/

/-- A page is shown, and then requests have to wait. -/
def shownThenHeld : Session :=
  [.load .null false, .backend 0 .hold].foldl (fun s command => s.ask 1 command) twoCollections

/-- What an action waits for, if it has to. -/
def pauseOf : Outcome Pause Reply → Option Pause
  | .paused pause => some pause
  | _ => none

theorem eq_paused_of_pauseOf {outcome : Outcome Pause Reply} {pause : Pause}
    (h : pauseOf outcome = some pause) : outcome = .paused pause := by
  cases outcome with
  | paused waits =>
    cases h
    rfl
  | _ => cases h

/-- Whether an action says that it has come to nothing. -/
def comesToNothing : Outcome Pause Reply → Bool
  | .done (.verdict shown) => !shown
  | _ => false

theorem eq_done_of_comesToNothing {outcome : Outcome Pause Reply}
    (h : comesToNothing outcome = true) : outcome = .done (.verdict false) := by
  cases outcome with
  | done reply =>
    cases reply with
    | verdict shown =>
      cases shown with
      | false => rfl
      | true => cases h
    | _ => cases h
  | _ => cases h

/-- The requests may go on, but the next one fails. -/
def letGoToFail (s : Session) : Session :=
  ((s.performAt 0 (.failNext (.failure (.unreachable "main")))).1.performAt 0 (.release false)).1

theorem letGoToFail_meanwhile (s : Session) : Meanwhile s s.letGoToFail := by
  have hupdated (v : Session) (f : Backend → Backend) : (v.updateBackend 0 f).browser = v.browser := by
    unfold updateBackend
    split <;> rfl
  refine ⟨s.browser.registry, s.browser.known, ?_⟩
  exact (hupdated _ _).trans (hupdated s _)

/-- The load of a page waits, and fails when it is let go on. What was shown before is shown still. -/
theorem held_load_fails_and_changes_nothing :
    shownThenHeld.browser.reloadPending = false ∧ shownThenHeld.browser.view.rows ≠ [] ∧
      ∃ t pause, shownThenHeld.perform (.load .null true) = (t, .paused pause) ∧
        (t.letGoToFail.resume pause).2 = .done (.verdict false) ∧
        (t.letGoToFail.resume pause).1.browser.problem.isSome ∧
        shownThenHeld.browser.Intact (t.letGoToFail.resume pause).1.browser := by
  have hrun : shownThenHeld.browser.reloadPending = false ∧
      shownThenHeld.browser.view.rows.isEmpty = false ∧
      ((pauseOf (shownThenHeld.perform (.load .null true)).2).map fun pause =>
        let r := (shownThenHeld.perform (.load .null true)).1.letGoToFail.resume pause
        comesToNothing r.2 && r.1.browser.problem.isSome) = some true := by
    decide +kernel
  obtain ⟨hsettled, hrows, hfails⟩ := hrun
  have hbegun : Alone (.load .null true) shownThenHeld (shownThenHeld.perform (.load .null true)) :=
    .begun
  refine ⟨hsettled, List.isEmpty_eq_false_iff.mp hrows, ?_⟩
  generalize shownThenHeld.perform (.load .null true) = r at hbegun hfails
  obtain ⟨t, outcome⟩ := r
  obtain ⟨pause, hpause, hover⟩ := Option.map_eq_some_iff.mp hfails
  obtain rfl := eq_paused_of_pauseOf hpause
  rw [Bool.and_eq_true] at hover
  have hverdict := eq_done_of_comesToNothing hover.1
  refine ⟨t, pause, rfl, hverdict, hover.2, ?_⟩
  refine (failed_action_changes_nothing hsettled (.goneOn hbegun (letGoToFail_meanwhile t)) ?_).1
  rw [hverdict]
  exact .load _ _

end Folio.Session
