-- One thing after another, and what it begins with. A change of the query, of the collection or of
-- documents drops some of what is kept at the most before anything is loaded, and keeps the rest.
import Folio.Proofs.SamePages

namespace Folio

/-! ## One thing after another -/

/-- One thing that is done in a session. -/
inductive Operation where
  /-- Somebody asks for one thing. -/
  | ask (number : Nat) (command : Command)
  /-- The job that became ready first. -/
  | job
  /-- Those who wait for the background go on. -/
  | background
  /-- The run of the debouncer that is asleep awakes. -/
  | wake
  | tick (clock : Float)

/-- What is asked for, if anything. -/
def Operation.command? : Operation → Option Command
  | ask _ command => some command
  | _ => none

namespace Session

/-- Does one thing. -/
def operate (s : Session) : Operation → Session
  | .ask number command => s.serve ⟨number, false, [], [command]⟩ [command]
  | .job =>
    match s.ready with
    | job :: rest => { s with ready := rest }.doJob job
    | [] => s
  | .background => s.openBackground
  | .wake =>
    match s.asleep with
    | some (due, run) => { s with clock := due, asleep := none }.spawn (.due run)
    | none => s
  | .tick clock => { s with clock := clock }

/-- Does one thing after another. -/
def after (s : Session) (operations : List Operation) : Session := operations.foldl operate s

variable {s t u : Session}

theorem after_append (s : Session) (before after : List Operation) :
    s.after (before ++ after) = (s.after before).after after := List.foldl_append

theorem after_snoc (s : Session) (operations : List Operation) (operation : Operation) :
    s.after (operations ++ [operation]) = (s.after operations).operate operation := after_append s _ _

/-- Whoever asks for one thing that is done at once has the answer. -/
theorem operate_ask_done {s t : Session} {command : Command} {reply : Reply} (number : Nat)
    (h : s.perform command = (t, .done reply)) :
    s.operate (.ask number command) = { t with answered := t.answered ++ [(number, .ok reply)] } := by
  change s.serve ⟨number, false, [], [command]⟩ [command] = _
  unfold serve
  rw [h]
  rfl

/-! ## Changes -/

/-- Sessions of which the second has dropped some of what the first keeps, and shows no more. -/
structure Loosens (s t : Session) : Prop where
  lifetime : t.browser.cache.lifetime = s.browser.cache.lifetime
  connection : t.browser.connection = s.browser.connection
  executor : t.browser.executor = s.browser.executor
  generation : s.browser.generation ≤ t.browser.generation
  pages : t.browser.cache.pages ⊆ s.browser.cache.pages
  unfiltered : t.browser.unfiltered = s.browser.unfiltered ∨ t.browser.unfiltered = none
  unheld : (∀ b ∈ s.backends, b.held = false) → ∀ b ∈ t.backends, b.held = false
  yielded : s.yielded <+: t.yielded
  actions : t.actions ⊆ s.actions
  journal : s.journal <+: t.journal
  connected : ∀ backend, .connected backend ∉ s.since t
  shown : ∀ showing, .shown showing ∉ s.since t

theorem SamePages.loosens (h : SamePages s t) : Loosens s t where
  lifetime := congrArg Footing.lifetime h.footing
  connection := congrArg Footing.connection h.footing
  executor := congrArg Footing.executor h.footing
  generation := Nat.le_of_eq (congrArg Footing.generation h.footing).symm
  pages := by
    rw [h.cache]
    exact fun _ => id
  unfiltered := .inl h.unfiltered
  unheld := h.unheld
  yielded := h.yielded
  actions := h.actions
  journal := h.journal
  connected := h.connected
  shown := h.shown

/-- A browser with a new query, or with another collection; what it keeps may be dropped. -/
structure Browser.Drops (b c : Browser) : Prop where
  lifetime : c.cache.lifetime = b.cache.lifetime
  connection : c.connection = b.connection
  executor : c.executor = b.executor
  generation : b.generation ≤ c.generation
  pages : c.cache.pages ⊆ b.cache.pages
  unfiltered : c.unfiltered = b.unfiltered ∨ c.unfiltered = none

namespace Loosens

theorem update {f : Browser → Browser} (h : Browser.Drops s.browser (f s.browser)) :
    Loosens s (s.update f) := by
  have hsame : SamePages s s := .refl s
  exact ⟨h.lifetime, h.connection, h.executor, h.generation, h.pages, h.unfiltered, id,
    List.prefix_rfl, fun _ => id, List.prefix_rfl, hsame.connected, hsame.shown⟩

theorem trans (hst : Loosens s t) (htu : Loosens t u) : Loosens s u where
  lifetime := htu.lifetime.trans hst.lifetime
  connection := htu.connection.trans hst.connection
  executor := htu.executor.trans hst.executor
  generation := Nat.le_trans hst.generation htu.generation
  pages := fun _ h => hst.pages (htu.pages h)
  unfiltered := by
    rcases htu.unfiltered with h | h
    · rw [h]
      exact hst.unfiltered
    · exact .inr h
  unheld := fun h => htu.unheld (hst.unheld h)
  yielded := hst.yielded.trans htu.yielded
  actions := fun _ h => hst.actions (htu.actions h)
  journal := hst.journal.trans htu.journal
  connected := by
    intro backend hmem
    rw [since_trans hst.journal htu.journal] at hmem
    rcases List.mem_append.mp hmem with h | h
    · exact hst.connected backend h
    · exact htu.connected backend h
  shown := by
    intro showing hmem
    rw [since_trans hst.journal htu.journal] at hmem
    rcases List.mem_append.mp hmem with h | h
    · exact hst.shown showing h
    · exact htu.shown showing h

/-- Only the clock, who is ready, and the debouncer have changed. -/
theorem of_browser (browser : t.browser = s.browser) (backends : t.backends = s.backends)
    (yielded : t.yielded = s.yielded) (actions : t.actions ⊆ s.actions)
    (journal : t.journal = s.journal) : Loosens s t := by
  have hticked : Loosens s { s with clock := t.clock } := by
    have hsame : SamePages s s := .refl s
    exact ⟨rfl, rfl, rfl, Nat.le_refl _, fun _ => id, .inl rfl, id, List.prefix_rfl,
      fun _ => id, List.prefix_rfl, hsame.connected, hsame.shown⟩
  have hrest : SamePages { s with clock := t.clock } t :=
    .of_browser browser rfl backends yielded actions journal
  exact hticked.trans hrest.loosens

end Loosens

theorem renew_loosens {f : Browser → Browser} (h : Browser.Drops s.browser (f s.browser)) :
    Loosens s (s.renew f) := (Loosens.update h).trans (SamePages.note _ rfl).loosens

theorem reconfigure_loosens (s : Session) (config : QueryConfig) (filters : Bool) :
    Loosens s (s.reconfigure config filters) := by
  have hrenewed : Loosens s (s.renew (·.reconfigure config)) :=
    renew_loosens ⟨rfl, rfl, rfl, Nat.le_succ _, fun _ => id, .inl rfl⟩
  unfold reconfigure
  dsimp only
  split
  · exact hrenewed.trans (SamePages.spawn _ rfl).loosens
  · exact hrenewed

theorem selectCollection_loosens (s : Session) (collection : Option String) :
    Loosens s (s.selectCollection collection) := by
  obtain ⟨history, hbrowser⟩ := selectCollection_browser s collection
  have hselected : Loosens s.cancelRun
      (s.cancelRun.update fun _ => (s.selectCollection collection).browser) := by
    apply Loosens.update
    rw [hbrowser]
    exact ⟨rfl, rfl, rfl, Nat.le_succ _, fun _ => id, .inr rfl⟩
  exact ((cancelRun_samePages s).loosens.trans hselected).trans (SamePages.note _ rfl).loosens

theorem afterWrite_loosens {number : Nat} {b c : Backend} {collection : String}
    (there : s.Writable number b collection) (held : c.held = b.held) :
    Loosens s (s.afterWrite number c) := by
  have hcleared : Loosens (s.setBackend number c) (s.afterWrite number c) :=
    .update ⟨rfl, rfl, rfl, Nat.le_refl _, fun _ h => (by cases h), .inl rfl⟩
  exact (setBackend_samePages there.backend held).loosens.trans hcleared

/-! ## Who waits -/

/-- The job that became ready first is taken up. -/
theorem taken_samePages {job : Job} {rest : List Job} (h : s.ready = job :: rest) :
    SamePages s { s with ready := rest } := by
  have hactions : ({ s with ready := [] ++ rest } : Session).actions.Sublist s.actions :=
    actions_take_sublist h
  exact .of_browser rfl rfl rfl rfl hactions.subset rfl

theorem newId_samePages (s : Session) : SamePages s s.newId.1 :=
  .of_browser rfl rfl rfl rfl (fun _ h => h) rfl

end Session

end Folio
