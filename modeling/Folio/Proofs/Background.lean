-- What is done beside loads, said once. A job that is made ready, a gate that is opened and a run that
-- is cancelled only move or drop what is ready and what waits. What is left to the background changes
-- only what is remembered and what is known.
import Folio.Proofs.Moments

namespace Folio.Session

variable {s : Session}

/-! ## Jobs -/

theorem actions_spawn {job : Job} (haction : job.action? = none) :
    (s.spawn job).actions = s.actions := by
  unfold actions spawn
  simp [haction]

theorem runsAhead_spawn {job : Job} (hrun : job.run? = none) :
    (s.spawn job).runsAhead = s.runsAhead := by
  unfold runsAhead spawn
  simp [hrun]

theorem actions_park (s : Session) (w : Waiting) :
    ({ s with waiting := s.waiting ++ [w] } : Session).actions = s.actions ++ [w] := by
  unfold actions
  rw [List.append_assoc]

theorem mem_actions_park {w v : Waiting}
    (h : v ∈ ({ s with waiting := s.waiting ++ [w] } : Session).actions) :
    v ∈ s.actions ∨ v = w := by
  rw [actions_park] at h
  exact (List.mem_append.mp h).imp_right List.mem_singleton.mp

/-- An action that has been let go on is under way. -/
theorem mem_actions_resume {w : Waiting} {rest : List Job} (h : s.ready = .resume w :: rest) :
    w ∈ s.actions := by
  unfold actions
  rw [h]
  exact List.mem_append_left _ List.mem_cons_self

/-- Whatever job is taken out of what is ready, no action is added. -/
theorem actions_take_sublist {before after : List Job} {job : Job}
    (hready : s.ready = before ++ job :: after) :
    ({ s with ready := before ++ after } : Session).actions.Sublist s.actions := by
  have hsub : (before ++ after).Sublist s.ready := by
    rw [hready]
    exact (List.sublist_cons_self job after).append_left before
  exact (hsub.filterMap _).append_right _

/-! ## What loads wait for -/

theorem pauses_spawn {job : Job} (haction : job.action? = none) :
    (s.spawn job).pauses = s.pauses := by
  unfold pauses
  rw [actions_spawn haction]

theorem pauses_park (s : Session) (w : Waiting) :
    ({ s with waiting := s.waiting ++ [w] } : Session).pauses =
      s.pauses ++ w.pause.loadPause?.toList := by
  unfold pauses
  rw [actions_park, List.filterMap_append]
  cases hp : w.pause.loadPause? <;> simp [hp]

theorem mem_pauses_of_actions {t : Session} (hactions : t.actions ⊆ s.actions) {p : LoadPause}
    (hp : p ∈ t.pauses) : p ∈ s.pauses := by
  obtain ⟨w, hw, hpause⟩ := List.mem_filterMap.mp hp
  exact List.mem_filterMap.mpr ⟨w, hactions hw, hpause⟩

theorem mem_pauses_park {w : Waiting} {p : LoadPause}
    (hp : p ∈ ({ s with waiting := s.waiting ++ [w] } : Session).pauses) :
    p ∈ s.pauses ∨ w.pause.loadPause? = some p := by
  rw [pauses_park] at hp
  exact (List.mem_append.mp hp).imp_right Option.mem_toList.mp

/-! ## Gates -/

theorem actions_openGate (s : Session) (gate : Gate) :
    (s.openGate gate).actions.Perm s.actions := by
  have hresumed : ∀ ws : List Waiting, (ws.map Job.resume).filterMap Job.action? = ws := by
    intro ws
    rw [List.filterMap_map]
    exact List.filterMap_some
  unfold actions openGate
  rw [List.filterMap_append, hresumed, List.append_assoc]
  exact (List.filter_append_perm (·.pause.gate == gate) s.waiting).append_left _

theorem runsAhead_openGate (s : Session) (gate : Gate) :
    (s.openGate gate).runsAhead = s.runsAhead := by
  have hresumed : ∀ ws : List Waiting, (ws.map Job.resume).filterMap Job.run? = [] := by
    intro ws
    rw [List.filterMap_map, List.filterMap_eq_nil_iff]
    exact fun _ _ => rfl
  unfold runsAhead openGate
  rw [List.filterMap_append, hresumed, List.append_nil]

/-! ## Runs of the debouncer -/

theorem actions_abort (s : Session) (run : Nat) : (s.abort run).actions.Sublist s.actions :=
  (List.filter_sublist.filterMap _).append List.filter_sublist

/-- When no run has been scheduled none is cancelled. -/
theorem cancelRun_none (hnone : s.debouncer.latest = none) : s.cancelRun = s := by
  unfold cancelRun Debouncer.cancel Debouncer.victim
  simp [hnone]

theorem cancelRun_some {run : Nat} (hsome : s.debouncer.latest = some run) :
    s.cancelRun = { s.abort run with debouncer := { s.debouncer with latest := none } } := by
  unfold cancelRun Debouncer.cancel Debouncer.victim
  simp [hsome, Option.filter, abort]

theorem cancelRun_latest (s : Session) : s.cancelRun.debouncer.latest = none := by
  cases hl : s.debouncer.latest with
  | none => rw [cancelRun_none hl, hl]
  | some run => rw [cancelRun_some hl]

theorem cancelRun_issued (s : Session) : s.cancelRun.debouncer.issued = s.debouncer.issued := by
  cases hl : s.debouncer.latest with
  | none => rw [cancelRun_none hl]
  | some run => rw [cancelRun_some hl]

theorem actions_cancelRun (s : Session) : s.cancelRun.actions.Sublist s.actions := by
  cases hl : s.debouncer.latest with
  | none => rw [cancelRun_none hl]
  | some run =>
    rw [cancelRun_some hl]
    exact actions_abort s run

theorem ready_cancelRun (s : Session) : s.cancelRun.ready.Sublist s.ready := by
  cases hl : s.debouncer.latest with
  | none => rw [cancelRun_none hl]
  | some run =>
    rw [cancelRun_some hl]
    exact List.filter_sublist

/-- A run that is cancelled takes with it the loads that it has begun, which is noted, and nothing
else. -/
theorem cancelRun_changes (s : Session) : ∃ debouncer asleep ready waiting, ∃ loads : List Load,
    s.cancelRun = { s with
      debouncer := debouncer
      asleep := asleep
      ready := ready
      waiting := waiting
      journal := s.journal ++ loads.map .dropped } := by
  cases hl : s.debouncer.latest with
  | none =>
    refine ⟨s.debouncer, s.asleep, s.ready, s.waiting, [], ?_⟩
    rw [cancelRun_none hl, List.map_nil, List.append_nil]
  | some run => exact ⟨_, _, _, _, abort.forgotten s run, cancelRun_some hl⟩

/-! ## What is left to the background -/

/-- Where a query is logged it gets an id, and a place in the history. -/
theorem logRecent_cases (s : Session) : s.logRecent = s ∨
    ∃ history, s.logRecent = s.newId.1.update ({ · with history := history }) := by
  unfold logRecent
  split
  · exact .inl rfl
  · exact .inr ⟨_, rfl⟩

end Folio.Session
