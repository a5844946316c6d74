-- What one operation comes down to. An action, a job or a timer leads to one load at the most, or
-- goes on with one that has waited; what is left of it waits with whoever asked for it.
import Folio.Proofs.Doings
import Folio.Proofs.Switches

namespace Folio

namespace Session

variable {s t : Session}

/-! ## One thing after another -/

/-- A session is left, and with it a load that waits at the most. -/
structure Leaves (m : Session) (left : LoadPause → Prop) (t : Session) : Prop where
  browser : t.browser = m.browser
  backends : t.backends = m.backends
  sent : t.sent = m.sent
  journal : t.journal = m.journal
  pauses : ∀ p ∈ t.pauses, p ∈ m.pauses ∨ left p

theorem Leaves.of_actions {m : Session} {left : LoadPause → Prop} (browser : t.browser = m.browser)
    (backends : t.backends = m.backends) (sent : t.sent = m.sent) (journal : t.journal = m.journal)
    (actions : t.actions ⊆ m.actions) : Leaves m left t :=
  ⟨browser, backends, sent, journal, fun _ hp => .inl (mem_pauses_of_actions actions hp)⟩

/-- The load that comes to wait with an action. -/
def Left (outcome : Outcome Pause Reply) (p : LoadPause) : Prop :=
  ∃ pause, outcome = .paused pause ∧ pause.loadPause? = some p

theorem leaves_parked (m : Session) (owner : Owner) (pause : Pause) :
    Leaves m (Left (.paused pause)) { m with waiting := m.waiting ++ [⟨owner, pause⟩] } :=
  ⟨rfl, rfl, rfl, rfl, fun _ hp => (mem_pauses_park hp).imp_right fun hload => ⟨pause, rfl, hload⟩⟩

theorem serve_leaves (m : Session) (c : Client) (command : Command) :
    Leaves (m.perform command).1 (Left (m.perform command).2) (m.serve c [command]) := by
  unfold serve
  cases m.perform command with
  | mk t outcome =>
    cases outcome with
    | paused pause => exact leaves_parked t _ pause
    | _ => exact .of_actions rfl rfl rfl rfl fun _ h => h

/-- A client who has asked for one thing has had it done. -/
theorem serveAfter_leaves (m : Session) {c : Client} (hnone : c.todo = [])
    (outcome : Outcome Pause Reply) : Leaves m (Left outcome) (m.serveAfter c outcome) := by
  unfold serveAfter
  rw [hnone]
  cases outcome with
  | paused pause => exact leaves_parked m _ pause
  | _ => exact .of_actions rfl rfl rfl rfl fun _ h => h

theorem runAfter_leaves (m : Session) (run : Nat) (outcome : Outcome Pause Reply) :
    Leaves m (Left outcome) (m.runAfter run outcome) := by
  cases outcome with
  | paused pause => exact leaves_parked m _ pause
  | _ => exact .of_actions rfl rfl rfl rfl fun _ h => h

/-- What one operation does: something that comes down to one load at the most, or the next part of a
load that has waited. -/
inductive Does (s : Session) (operation : Operation) (t : Session) : Prop where
  | acts {r : Session × Outcome Pause Reply} (comes : ComesTo (operation.command? = some ·) s r)
      (leaves : Leaves r.1 (Left r.2) t)
  | resumes {w : Waiting} {rest : List Job} {p : LoadPause} (job : operation = .job)
      (ready : s.ready = .resume w :: rest) (load : w.pause.loadPause? = some p)
      (leaves : Leaves (({ s with ready := rest } : Session).resumeLoad p).1
        (fun q => (({ s with ready := rest } : Session).resumeLoad p).2 = .paused q) t)

/-- What is done apart from loads and requests leaves nobody waiting. -/
theorem SameBearings.does {operation : Operation} (h : SameBearings s t) : Does s operation t :=
  .acts (.done h.doings .nothing) (.of_actions rfl rfl rfl rfl fun _ h => h)

theorem taken_bearings {job : Job} {rest : List Job} (hready : s.ready = job :: rest) :
    SameBearings s { s with ready := rest } :=
  .of_still rfl (taken_samePages hready).actions rfl rfl rfl

/-- The action that was let go on first goes on. -/
theorem operate_resume {w : Waiting} {rest : List Job} (hsingle : s.Single)
    (hready : s.ready = .resume w :: rest) :
    Leaves (({ s with ready := rest } : Session).resume w.pause).1
      (Left (({ s with ready := rest } : Session).resume w.pause).2) (s.operate .job) := by
  have htodo := hsingle w (mem_actions_resume hready)
  obtain ⟨owner, pause⟩ := w
  unfold operate
  rw [hready]
  cases owner with
  | client c => exact serveAfter_leaves _ (htodo c rfl) _
  | run run => exact runAfter_leaves _ run _

theorem operate_resumeLoad {w : Waiting} {rest : List Job} {p : LoadPause} (hsingle : s.Single)
    (hready : s.ready = .resume w :: rest) (hp : w.pause.loadPause? = some p) :
    Leaves (({ s with ready := rest } : Session).resumeLoad p).1
      (fun q => (({ s with ready := rest } : Session).resumeLoad p).2 = .paused q)
      (s.operate .job) := by
  have hleft := operate_resume hsingle hready
  obtain ⟨hsame, hwaits⟩ := resume_load ({ s with ready := rest } : Session) hp
  rw [hsame] at hleft
  exact ⟨hleft.browser, hleft.backends, hleft.sent, hleft.journal, fun q hq =>
    (hleft.pauses q hq).imp_right fun ⟨other, hother, hload⟩ => hwaits other q hother hload⟩

/-- Whatever is done where everybody who waits has asked for one thing. -/
theorem operate_does (hsingle : s.Single) (operation : Operation) :
    Does s operation (s.operate operation) := by
  cases operation with
  | ask number command => exact .acts (perform_comesTo s rfl) (serve_leaves s _ command)
  | job =>
    unfold operate
    dsimp only
    split
    · rename_i job rest hready
      have htaken := taken_bearings hready
      cases job with
      | logRecent => exact (htaken.trans (logRecent_bearings _)).does
      | discover collection rows => exact (htaken.trans (discover_apprised _ _ _).bearings).does
      | scheduled run =>
        refine (htaken.trans ?_).does
        unfold doJob
        dsimp only
        split
        · exact .of_still rfl (fun _ h => h) rfl rfl rfl
        · exact .spawn _ rfl
      | due run =>
        exact .acts (.after htaken.doings (reloadFirst_ensues _ .verdict).comesTo)
          (runAfter_leaves _ run _)
      | resume w =>
        have hdone : s.operate .job = ({ s with ready := rest } : Session).doJob (.resume w) := by
          unfold operate
          rw [hready]
        rw [← hdone]
        cases hp : w.pause.loadPause? with
        | none =>
          exact .acts (.after htaken.doings (resume_comesTo _ hp)) (operate_resume hsingle hready)
        | some p => exact .resumes rfl hready hp (operate_resumeLoad hsingle hready hp)
    · exact (SameBearings.refl s).does
  | background =>
    unfold operate openBackground
    dsimp only
    split
    · exact (SameBearings.refl s).does
    · exact (openGate_bearings s _).does
  | wake =>
    unfold operate
    dsimp only
    split
    · rename_i due run _
      refine SameBearings.does (SameBearings.trans (t := { s with clock := due, asleep := none }) ?_
        (.spawn _ rfl))
      exact .of_still rfl (fun _ h => h) rfl rfl rfl
    · exact (SameBearings.refl s).does
  | tick clock =>
    refine SameBearings.does (t := { s with clock := clock }) ?_
    exact .of_still rfl (fun _ h => h) rfl rfl rfl

/-- In a session that has just begun nobody waits, so whoever comes to wait has asked for one thing. -/
theorem single_after (browser : Browser) (backends : List Backend) (provider : Option Provider)
    (operations : List Operation) : ((start browser backends provider).after operations).Single :=
  (settled_after (settled_start browser backends provider (start browser backends provider) 0)
    operations).single

end Session

end Folio
