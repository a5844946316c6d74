-- Saved sets in the course of a session. Sets come and go only when somebody asks for it; beside that
-- nothing happens to what is remembered but that sets are counted, noted and taken from the archive.
-- Every set that is saved has an id of its own.
import Folio.Proofs.QuotedTexts
import Folio.Proofs.Remembering

namespace Folio.Session

variable {s t : Session} {acts : List HistoryAct}

/-! ## Sets that come and go -/

/-- The set of the filters in use, saved now under a name. -/
def setNow (s : Session) (name : String) : SavedFilter :=
  .make s.newId.2 name s.browser.config.searchText s.browser.config.predicates s.clock

/-- What a command asks of the sets that are saved, if it is done: to save one, or to delete one. -/
def edit? (s : Session) : Command → Option HistoryAct
  | .saveFilter name =>
    match s.browser.place?, (s.saveFilter name).2 with
    | some (connection, collection), .done (.saved entry) =>
      some ⟨connection, collection, .save entry⟩
    | _, _ => none
  | .deleteSaved id => s.browser.place?.map fun place => ⟨place.1, place.2, .deleteSaved id⟩
  | _ => none

/-- What is asked of the sets that are saved in the course of a run. -/
def edits (s : Session) : List Operation → List HistoryAct
  | [] => []
  | operation :: rest =>
    (operation.command?.bind s.edit?).toList ++ (s.operate operation).edits rest

/-- Saving comes to nothing, or the filters in use are saved under an id of their own. -/
theorem saveFilter_cases (s : Session) (given : Value) :
    (∃ f, s.saveFilter given = (s, .raised f)) ∨ ∃ connection collection name,
      s.browser.place? = some (connection, collection) ∧
      s.saveFilter given = (s.newId.1.update fun b =>
        { b with history := b.history.save connection collection (s.setNow name) },
        .done (.saved (s.setNow name))) := by
  unfold saveFilter atPlace
  cases hplace : s.browser.place? with
  | none => exact .inl ⟨_, rfl⟩
  | some place =>
    dsimp only
    cases ((Reader.text given).within "name").orFault with
    | error f => exact .inl ⟨f, rfl⟩
    | ok name => exact .inr ⟨place.1, place.2, name, rfl, rfl⟩

/-- At a place, the filters in use are saved under every text. -/
theorem saveFilter_at {connection collection : String}
    (hplace : s.browser.place? = some (connection, collection)) (name : String) :
    s.saveFilter (.text name) = (s.newId.1.update fun b =>
      { b with history := b.history.save connection collection (s.setNow name) },
      .done (.saved (s.setNow name))) := by
  unfold saveFilter atPlace
  rw [hplace]
  rfl

/-- A command that changes what is remembered by a few acts, of which the sets that come and go are
those that it asks for. -/
def Edits (s : Session) (command : Command) (t : Session) : Prop :=
  ∃ acts, acts.filter (·.task.edits) = (s.edit? command).toList ∧ Remembers acts s t

theorem KeepsSaved.edits {command : Command} (h : KeepsSaved s t) (hnone : s.edit? command = none) :
    s.Edits command t := by
  obtain ⟨acts, hacts, hst⟩ := h
  refine ⟨acts, ?_, hst⟩
  rw [hnone]
  exact List.filter_eq_nil_iff.mpr fun a ha => by simp [hacts a ha]

theorem saveFilter_edits (s : Session) (given : Value) :
    s.Edits (.saveFilter given) (s.saveFilter given).1 := by
  rcases s.saveFilter_cases given with ⟨f, hraised⟩ | ⟨connection, collection, name, hplace, hdone⟩
  · have hnone : s.edit? (.saveFilter given) = none := by simp [edit?, hraised]
    rw [hraised]
    exact (Remembers.refl s).keepsSaved.edits hnone
  · refine ⟨[⟨connection, collection, .save (s.setNow name)⟩], ?_, ?_⟩
    · simp [edit?, hplace, hdone, HistoryTask.edits]
    · rw [hdone]
      exact .of_still rfl (Nat.le_succ _) rfl fun _ h => h

theorem deleteSaved_edits (s : Session) (id : String) :
    s.Edits (.deleteSaved id) (s.deleteSaved id).1 := by
  unfold deleteSaved atPlace
  cases hplace : s.browser.place? with
  | none => exact (Remembers.refl s).keepsSaved.edits (by simp [edit?, hplace])
  | some place =>
    refine ⟨[⟨place.1, place.2, .deleteSaved id⟩], ?_, .of_still rfl (Nat.le_refl _) rfl fun _ h => h⟩
    simp [edit?, hplace, HistoryTask.edits]

/-- Whatever is asked for, sets come and go as it asks for. -/
theorem perform_edits (s : Session) {command : Command} (hc : command.Unhindering) :
    s.Edits command (s.perform command).1 := by
  by_cases hleaves : command.LeavesSets
  · have hnone : s.edit? command = none := by
      cases command with
      | saveFilter | deleteSaved => exact hleaves.elim
      | _ => rfl
    have hensues : Ensues Command.Mild (.looking, s) (s.perform command) :=
      perform_ensues s ⟨hc, hleaves⟩
    exact hensues.keepsSaved.edits hnone
  · cases command with
    | saveFilter name => exact saveFilter_edits s name
    | deleteSaved id => exact deleteSaved_edits s id
    | _ => exact absurd trivial hleaves

/-! ## Actions that wait -/

/-- What is remembered changes by acts, and a session in which nobody has to wait for a backend stays
one. -/
structure Lives (acts : List HistoryAct) (s t : Session) : Prop where
  history : t.browser.history = s.browser.history.after acts
  ids : s.ids ≤ t.ids
  unhindered : s.Unhindered → t.Unhindered

theorem Remembers.lives (h : Remembers acts s t) : Lives acts s t :=
  ⟨h.history, h.ids, fun hs => ⟨h.serves hs.serves, fun w hw => hs.single w (h.actions hw)⟩⟩

/-- An action that has to wait is put among those that do. -/
theorem Remembers.park (h : Remembers acts s t) {w : Waiting}
    (hsingle : ∀ c, w.owner = .client c → c.todo = []) :
    Lives acts s { t with waiting := t.waiting ++ [w] } := by
  refine ⟨h.history, h.ids, fun hs => ⟨h.serves hs.serves, fun v hv => ?_⟩⟩
  rcases mem_actions_park hv with hold | rfl
  · exact hs.single v (h.actions hold)
  · exact hsingle

theorem Remembers.conclude (h : Remembers acts s t) (c : Client) : Lives acts s (t.conclude c) := by
  have hconcluded : Remembers [] t (t.conclude c) :=
    .of_still rfl (Nat.le_refl _) rfl fun _ h => h
  exact (h.trans hconcluded).lives

theorem serve_lives {command : Command} (h : Remembers acts s (s.perform command).1) (c : Client) :
    Lives acts s (s.serve c [command]) := by
  unfold serve
  cases hp : s.perform command with
  | mk u outcome =>
    rw [hp] at h
    cases outcome with
    | done reply => exact h.conclude _
    | raised f => exact h.conclude _
    | paused pause =>
      refine h.park fun other hother => ?_
      cases hother
      rfl

theorem serveAfter_lives {c : Client} (hnone : c.todo = []) {r : Session × Outcome Pause Reply}
    (h : Remembers acts s r.1) : Lives acts s (r.1.serveAfter c r.2) := by
  obtain ⟨u, outcome⟩ := r
  unfold serveAfter
  rw [hnone]
  cases outcome with
  | done reply => exact h.conclude _
  | raised f => exact h.conclude _
  | paused pause =>
    refine h.park fun other hother => ?_
    cases hother
    exact hnone

theorem runAfter_lives {r : Session × Outcome Pause Reply} (h : Remembers acts s r.1) (run : Nat) :
    Lives acts s (r.1.runAfter run r.2) := by
  obtain ⟨u, outcome⟩ := r
  have hover : Remembers [] u { u with debouncer := u.debouncer.settled run } :=
    .of_still rfl (Nat.le_refl _) rfl fun _ h => h
  have hsettled := (h.trans hover).lives
  cases outcome with
  | done reply => exact hsettled
  | raised f => exact hsettled
  | paused pause => exact h.park fun _ hother => by cases hother

/-! ## One thing after another -/

theorem logRecent_keepsSaved (s : Session) : KeepsSaved s s.logRecent := by
  unfold logRecent
  split
  · exact (Remembers.refl s).keepsSaved
  · rename_i connection collection _
    let entry := RecentFilter.make s.newId.2 s.browser.config.searchText s.browser.config.predicates
      s.clock
    refine .of_act ⟨connection, collection, .logRecent entry⟩ rfl ?_
    exact .of_still rfl (Nat.le_succ _) rfl fun _ h => h

/-- The job that became ready first is done; by no job do sets come or go. -/
theorem doJob_lives (hs : s.Unhindered) {job : Job} {rest : List Job} (hready : s.ready = job :: rest) :
    ∃ acts, (∀ a ∈ acts, a.task.edits = false) ∧
      Lives acts s (({ s with ready := rest } : Session).doJob job) := by
  have htaken : Remembers [] s { s with ready := rest } :=
    .of_still rfl (Nat.le_refl _) rfl (taken_samePages hready).actions
  have hnone : ∀ {t}, Remembers [] s t → ∃ acts, (∀ a ∈ acts, a.task.edits = false) ∧ Lives acts s t :=
    fun h => ⟨[], by simp, h.lives⟩
  cases job with
  | logRecent =>
    obtain ⟨acts, hacts, hlogged⟩ :=
      htaken.keepsSaved.trans (logRecent_keepsSaved { s with ready := rest })
    exact ⟨acts, hacts, hlogged.lives⟩
  | discover collection rows => exact hnone (htaken.trans (discover_apprised _ _ _).remembers)
  | scheduled run =>
    refine hnone (htaken.trans ?_)
    unfold doJob
    dsimp only
    split
    · exact .of_still rfl (Nat.le_refl _) rfl fun _ h => h
    · exact .spawn _ rfl
  | due run =>
    have hloaded := htaken.trans (reloadFirst_remembers { s with ready := rest } .verdict)
    exact ⟨[], by simp, runAfter_lives hloaded run⟩
  | resume w =>
    obtain ⟨acts, hacts, hresumed⟩ :=
      htaken.keepsSaved.trans (resume_keepsSaved { s with ready := rest } w.pause)
    have hmem : w ∈ s.actions := mem_actions_resume hready
    obtain ⟨owner, pause⟩ := w
    cases owner with
    | client c => exact ⟨acts, hacts, serveAfter_lives (hs.single _ hmem c rfl) hresumed⟩
    | run run => exact ⟨acts, hacts, runAfter_lives hresumed run⟩

/-- Whatever is done, sets come and go as it asks for. -/
theorem operate_lives (hs : s.Unhindered) {operation : Operation}
    (hc : ∀ command, operation.command? = some command → command.Unhindering) :
    ∃ acts, acts.filter (·.task.edits) = (operation.command?.bind s.edit?).toList ∧
      Lives acts s (s.operate operation) := by
  have hnone : ∀ {t}, Remembers [] s t → ∃ acts : List HistoryAct,
      acts.filter (·.task.edits) = [] ∧ Lives acts s t := fun h => ⟨[], rfl, h.lives⟩
  cases operation with
  | ask number command =>
    obtain ⟨acts, hacts, hdone⟩ := s.perform_edits (hc command rfl)
    exact ⟨acts, hacts, serve_lives hdone _⟩
  | job =>
    unfold operate
    dsimp only
    split
    · rename_i job rest hready
      obtain ⟨acts, hacts, hdone⟩ := doJob_lives hs hready
      exact ⟨acts, List.filter_eq_nil_iff.mpr fun a ha => by simp [hacts a ha], hdone⟩
    · exact hnone (.refl s)
  | background =>
    refine hnone ?_
    unfold operate openBackground
    dsimp only
    split
    · exact .refl s
    · exact openGate_remembers s _
  | wake =>
    refine hnone ?_
    unfold operate
    dsimp only
    split
    · rename_i due run _
      have hawake : Remembers [] s { s with clock := due, asleep := none } :=
        .of_still rfl (Nat.le_refl _) rfl fun _ h => h
      exact hawake.trans (.spawn _ rfl)
    · exact .refl s
  | tick clock => exact hnone (.of_still rfl (Nat.le_refl _) rfl fun _ h => h)

/-- So it is in the course of every run. -/
theorem after_lives (hs : s.Unhindered) (operations : List Operation)
    (hc : ∀ operation ∈ operations, ∀ command, operation.command? = some command →
      command.Unhindering) :
    ∃ acts, acts.filter (·.task.edits) = s.edits operations ∧ Lives acts s (s.after operations) := by
  induction operations generalizing s with
  | nil => exact ⟨[], rfl, (Remembers.refl s).lives⟩
  | cons operation rest ih =>
    obtain ⟨acts, hacts, hdone⟩ := operate_lives hs (hc operation List.mem_cons_self)
    obtain ⟨more, hmore, hrest⟩ := ih (hdone.unhindered hs)
      fun other hother => hc other (List.mem_cons_of_mem _ hother)
    refine ⟨acts ++ more, ?_, ?_, Nat.le_trans hdone.ids hrest.ids,
      fun h => hrest.unhindered (hdone.unhindered h)⟩
    · rw [List.filter_append, hacts, hmore, edits]
    · rw [History.after_append, ← hdone.history]
      exact hrest.history

/-! ## Ids -/

/-- The id that is given out next when so many have been. -/
def idOf (n : Nat) : String := String.ofList (Text.hexText 32 n)

/-- As long as there are ids left, none is given out twice. -/
theorem idOf_injective {m n : Nat} (hm : m < 16 ^ 32) (hn : n < 16 ^ 32) (h : idOf m = idOf n) :
    m = n := by
  have hdigits := congrArg Text.hexNumber? (String.ofList_injective h)
  rw [Text.hexNumber?_hexText, Text.hexNumber?_hexText] at hdigits
  rwa [Nat.mod_eq_of_lt hm, Nat.mod_eq_of_lt hn, Option.some.injEq] at hdigits

/-- Who asks for a set to be saved gets an id. -/
theorem edit?_save {command : Command} {a : HistoryAct} {entry : SavedFilter}
    (h : s.edit? command = some a) (hsave : a.task = .save entry) :
    entry.id = idOf s.ids ∧ (s.perform command).1.ids = s.ids + 1 := by
  cases command with
  | saveFilter given =>
    rcases s.saveFilter_cases given with ⟨f, hraised⟩ | ⟨connection, collection, name, hplace, hdone⟩
    · simp [edit?, hraised] at h
    · simp only [edit?, hplace, hdone, Option.some.injEq] at h
      subst h
      obtain rfl : s.setNow name = entry := HistoryTask.save.inj hsave
      refine ⟨rfl, ?_⟩
      change (s.saveFilter given).1.ids = _
      rw [hdone]
      rfl
  | deleteSaved id =>
    obtain ⟨place, -, rfl⟩ := Option.map_eq_some_iff.mp h
    simp at hsave
  | _ => cases h

theorem serve_ids (s : Session) (c : Client) (command : Command) :
    (s.serve c [command]).ids = (s.perform command).1.ids := by
  unfold serve
  cases s.perform command with
  | mk t outcome => cases outcome <;> rfl

/-- The sets that are saved in the course of a run have ids that were not given out before. -/
theorem edits_ids (hs : s.Unhindered) {operations : List Operation}
    (hc : ∀ operation ∈ operations, ∀ command, operation.command? = some command →
      command.Unhindering) :
    ∀ a ∈ s.edits operations, ∀ entry, a.task = .save entry →
      ∃ n, s.ids ≤ n ∧ n < (s.after operations).ids ∧ entry.id = idOf n := by
  induction operations generalizing s with
  | nil => exact fun a ha => by cases ha
  | cons operation rest ih =>
    intro a ha entry hsave
    obtain ⟨_, -, hdone⟩ := operate_lives hs (hc operation List.mem_cons_self)
    have hrestc := fun other hother => hc other (List.mem_cons_of_mem operation hother)
    obtain ⟨_, -, hrest⟩ := after_lives (hdone.unhindered hs) rest hrestc
    rcases List.mem_append.mp ha with hnow | hlater
    · obtain ⟨command, hcommand, hedit⟩ := Option.bind_eq_some_iff.mp (Option.mem_toList.mp hnow)
      obtain ⟨hid, hnext⟩ := edit?_save hedit hsave
      refine ⟨s.ids, Nat.le_refl _, Nat.lt_of_lt_of_le (Nat.lt_succ_self _) ?_, hid⟩
      cases operation with
      | ask number asked =>
        cases hcommand
        have hserved := serve_ids s ⟨number, false, [], [command]⟩ command
        exact (hserved.trans hnext).symm.le.trans hrest.ids
      | _ => cases hcommand
    · obtain ⟨n, hle, hlt, hid⟩ := ih (hdone.unhindered hs) hrestc a hlater entry hsave
      exact ⟨n, hdone.ids.trans hle, hlt, hid⟩

end Folio.Session
