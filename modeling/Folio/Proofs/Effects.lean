-- What actions do, said once. Whatever is asked for, and whatever is gone on with, has a few effects
-- on a session, one after another, and leads to one load at the most. What is to hold whatever is done
-- is proved effect by effect.
import Folio.Proofs.Moments

open Relation (ReflTransGen)

namespace Folio

/-- A fault that is neither one of a filter or a query nor one that the browser reports. -/
def Fault.unforeseen : Fault → Bool
  | .invalid _ | .failure _ => true
  | _ => false

/-- How far an action has come. -/
inductive Phase where
  /-- Nothing has changed of what is shown. -/
  | looking
  /-- Nor has it, and the attributes are known as far as they are needed. -/
  | informed
  | changed
  /-- The query has changed, and its first page is to be loaded. -/
  | owing

/-- Whether nothing has changed of what is shown. -/
def Phase.isEarly : Phase → Bool
  | looking | informed => true
  | _ => false

theorem Phase.ne_owing_of_isEarly {p : Phase} (h : p.isEarly = true) : p ≠ .owing := by
  rintro rfl
  cases h

/-- How far an action has come that waits for a schema. -/
def AfterSchema.waiting : AfterSchema → Phase
  | .reload => .owing
  | _ => .looking

/-- How far it has come when the schema has been shown. -/
def AfterSchema.phase : AfterSchema → Phase
  | .reload => .owing
  | _ => .informed

/-- How far an action has come that goes on after something other than a load. -/
def Pause.phase : Pause → Phase
  | .schema _ after => after.phase
  | .web _ _ pause => pause.phase
  | _ => .looking

namespace Session

variable {s t : Session} {allowed : Command → Prop}

/-! ## What may be asked for -/

/-- What a session does with a backend when it is asked for something. -/
inductive BackendCommand.Affects : BackendCommand → Backend → Backend → Prop where
  | delete (collection : String) (keys : Value) (b : Backend) :
      Affects (.delete collection keys) b (b.delete collection keys).1
  | update (collection : String) (key changes : Value) (b : Backend) :
      Affects (.update collection key changes) b (b.update collection key changes).1
  | upsert (collection : String) (rows : Value) (b : Backend) :
      Affects (.upsert collection rows) b (b.upsert collection rows).1
  | failNext (fault : Fault) (b : Backend) :
      Affects (.failNext fault) b { b with failure := some fault }
  | hold (b : Backend) : Affects .hold b { b with held := true }
  | release (keep : Bool) (b : Backend) : Affects (.release keep) b { b with held := keep }
  | holdSchemas (b : Backend) : Affects .holdSchemas b { b with schemaHeld := true }
  | releaseSchemas (b : Backend) : Affects .releaseSchemas b { b with schemaHeld := false }
  | failSchemas (fault : Option Fault) (b : Backend) :
      Affects (.failSchemas fault) b { b with schemaFailure := fault }
  | failDeletes (fault : Option Fault) (b : Backend) :
      Affects (.failDeletes fault) b { b with deleteFailure := fault }

inductive Command.Affects : Command → Backend → Backend → Prop where
  | delete (keys : Value) (collection : String) (b : Backend) :
      Affects (.delete keys) b (b.delete collection keys).1
  | update (key changes : Value) (collection : String) (b : Backend) :
      Affects (.update key changes) b (b.update collection key changes).1
  | upsert (rows : Value) (collection : String) (b : Backend) :
      Affects (.upsert rows) b (b.upsert collection rows).1
  | backend (number : Nat) {command : BackendCommand} {b c : Backend}
      (affects : BackendCommand.Affects command b c) : Affects (.backend number command) b c

namespace Command.Affects

variable {b c : Backend} {collection : String}

theorem of_delete {keys : Value} {result : Except Fault Nat}
    (h : b.delete collection keys = (c, result)) : Command.Affects (.delete keys) b c := by
  have haffects := Command.Affects.delete keys collection b
  rwa [h] at haffects

theorem of_update {key changes : Value} {result : Except Fault Unit}
    (h : b.update collection key changes = (c, result)) :
    Command.Affects (.update key changes) b c := by
  have haffects := Command.Affects.update key changes collection b
  rwa [h] at haffects

theorem of_upsert {rows : Value} {result : Except Fault Nat}
    (h : b.upsert collection rows = (c, result)) : Command.Affects (.upsert rows) b c := by
  have haffects := Command.Affects.upsert rows collection b
  rwa [h] at haffects

end Command.Affects

/-- Whether an intent is carried out at once. -/
def Intent.prompt : Intent → Bool
  | .setSearchText _ => false
  | _ => true

/-- Whether a command is carried out at once, with the backend that is used already. -/
def Command.Prompt : Command → Prop
  | .dispatch intent => ∀ i, Intent.read intent = .ok i → Intent.prompt i = true
  | .web request => match Web.read request with
    | .ok (.intent i) => Intent.prompt i = true
    | .ok (.search _ _) => False
    | _ => True
  | .connect _ => False
  | _ => True

/-! ## Effects -/

/-- The backend of the browser, and the collection that is selected. -/
structure Writable (s : Session) (number : Nat) (b : Backend) (collection : String) : Prop where
  executor : s.browser.executor = some number
  current : s.browser.current? = some collection
  backend : s.backend? number = some b

/-- The session after another attempt to connect. -/
def attempted (s : Session) (provider : Provider) : Session :=
  { s.update (fun b => { b with attempts := b.attempts + 1 }) with provider := provider }

/-- The session after a write that has succeeded. -/
def afterWrite (s : Session) (backend : Nat) (b : Backend) : Session :=
  (s.setBackend backend b).update fun browser => { browser with cache := browser.cache.clear }

/-- The keys of documents that are to be deleted. -/
structure KeysGiven (given : Value) (keys : List Value) : Prop where
  elements : Collection.elements given = .ok keys
  checked : checkKeys keys = .ok ()

/-- A write that a backend refuses. Something of it may have been done. -/
inductive Refuses (allowed : Command → Prop) (b : Backend) (collection : String) : Backend → Prop where
  | delete {given : Value} {keys : List Value} {c : Backend} {f : Fault}
      (ask : allowed (.delete given)) (names : KeysGiven given keys)
      (refused : b.delete collection given = (c, .error f)) : Refuses allowed b collection c
  | update {key changes : Value} {c : Backend} {f : Fault} (ask : allowed (.update key changes))
      (refused : b.update collection key changes = (c, .error f)) : Refuses allowed b collection c
  | upsert {rows : Value} {c : Backend} {f : Fault} (ask : allowed (.upsert rows))
      (refused : b.upsert collection rows = (c, .error f)) : Refuses allowed b collection c

theorem Refuses.affects {b c : Backend} {collection : String}
    (h : Refuses allowed b collection c) :
    ∃ command, allowed command ∧ Command.Affects command b c := by
  cases h with
  | delete ask _ refused => exact ⟨_, ask, .of_delete refused⟩
  | update ask refused => exact ⟨_, ask, .of_update refused⟩
  | upsert ask refused => exact ⟨_, ask, .of_upsert refused⟩

/-- One effect of an action where some commands are allowed. -/
inductive Effect (allowed : Command → Prop) : Phase × Session → Phase × Session → Prop where
  -- Attributes.
  | learn (s : Session) (forced : Bool) :
      Effect allowed (.looking, s) (.informed, (s.loadSchema forced).1)
  /-- The attributes are known, or need not be. -/
  | inform (s : Session) : Effect allowed (.looking, s) (.informed, s)
  | learnAnew (s : Session) (forced : Bool) :
      Effect allowed (.owing, s) (.owing, (s.loadSchema forced).1)
  | merge {given : Value} (ask : allowed (.mergeAttributes given)) (s : Session)
      (found : List Attribute) :
      Effect allowed (.looking, s) (.changed, s.update fun b =>
        { b with registry := b.registry.merge found })
  | clear (ask : allowed .clearAttributes) (s : Session) :
      Effect allowed (.looking, s) (.changed, s.update ({ · with registry := .empty }))
  | newId (phase : Phase) (s : Session) : Effect allowed (phase, s) (phase, s.newId.1)
  | trouble (s : Session) (f : Fault) : Effect allowed (.looking, s) (.looking, s.trouble f)
  -- Filters that are remembered.
  | save {given : Value} (ask : allowed (.saveFilter given)) (s : Session)
      (connection collection : String) (entry : SavedFilter) :
      Effect allowed (.looking, s) (.looking, s.update fun b =>
        { b with history := b.history.save connection collection entry })
  | unsave {id : String} (ask : allowed (.deleteSaved id)) (s : Session)
      (connection collection : String) :
      Effect allowed (.looking, s) (.looking, s.update fun b =>
        { b with history := (b.history.deleteSaved connection collection id).1 })
  | mark {id : String} (ask : allowed (.applySaved id)) (s : Session)
      (connection collection : String) :
      Effect allowed (.looking, s) (.looking, s.update fun b =>
        { b with history := b.history.markApplied connection collection id })
  -- Changes of the query.
  | reconfigure (s : Session) (config : QueryConfig) (filters : Bool) :
      Effect allowed (.informed, s) (.owing, s.reconfigure config filters)
  | resize (s : Session) (size : Int) :
      Effect allowed (.looking, s) (.owing, s.renew fun b =>
        { b with paging := .start size, generation := b.generation + 1 })
  | refresh (s : Session) :
      Effect allowed (.looking, s) (.owing, s.renew fun b =>
        { b.invalidate with cache := b.cache.clear })
  | cancel (s : Session) : Effect allowed (.owing, s) (.owing, s.cancelRun)
  /-- The first page is left to a run of the debouncer. -/
  | postpone {command : Command} (ask : allowed command) (tardy : ¬ Command.Prompt command)
      (s : Session) :
      Effect allowed (.owing, s) (.changed, s.scheduleRun)
  /-- The first page is left to the loads under way. -/
  | putOff {s : Session} (loading : s.browser.isLoading = true) :
      Effect allowed (.owing, s)
        (.changed, (s.update ({ · with reloadPending := true })).note (.putOff s.underWay))
  | select (s : Session) (collection : Option String) :
      Effect allowed (.looking, s) (.changed, s.selectCollection collection)
  -- Connections.
  | attempt (s : Session) (provider : Provider) :
      Effect allowed (.looking, s) (.looking, s.attempted provider)
  | connect {connection : String} (ask : allowed (.connect connection)) {s : Session}
      (apart : s.browser.executor = none ∨ s.browser.connection ≠ some connection) (backend : Nat) :
      Effect allowed (.looking, s) (.changed, s.useBackend connection backend)
  | resetAttempts (s : Session) :
      Effect allowed (.looking, s) (.looking, s.update ({ · with attempts := 0 }))
  -- Documents.
  | refuse {s : Session} {executor : Nat} {b c : Backend} {collection : String}
      (there : s.Writable executor b collection) (refuses : Refuses allowed b collection c) :
      Effect allowed (.looking, s) (.looking, s.setBackend executor c)
  | delete {given : Value} {keys : List Value} {s : Session} {executor deleted : Nat} {b c : Backend}
      {collection : String} {kept : List Fields} (ask : allowed (.delete given))
      (names : KeysGiven given keys) (there : s.Writable executor b collection)
      (done : b.delete collection given = (c, .ok deleted))
      (left : rowsWithout keys s.browser.view.rows = .ok kept) :
      Effect allowed (.looking, s) (.changed, (s.afterWrite executor c).lessen kept deleted)
  /-- Documents are deleted, but what is shown cannot be looked through. -/
  | strand {given : Value} {keys : List Value} {s : Session} {executor deleted : Nat} {b c : Backend}
      {collection : String} {f : Fault} (ask : allowed (.delete given))
      (names : KeysGiven given keys) (there : s.Writable executor b collection)
      (done : b.delete collection given = (c, .ok deleted))
      (stuck : rowsWithout keys s.browser.view.rows = .error f) :
      Effect allowed (.looking, s) (.changed, s.afterWrite executor c)
  | update {key changes : Value} {s : Session} {executor : Nat} {b c : Backend} {collection : String}
      (ask : allowed (.update key changes)) (there : s.Writable executor b collection)
      (done : b.update collection key changes = (c, .ok ())) :
      Effect allowed (.looking, s) (.changed, (s.afterWrite executor c).update fun b =>
        { b with view := { b.view with
            rows := b.view.rows.map fun row =>
              if (row.get "id").same key then row.putAll ((changes.fields?).getD []) else row } })
  | upsert {rows : Value} {s : Session} {executor written : Nat} {b c : Backend} {collection : String}
      (ask : allowed (.upsert rows)) (there : s.Writable executor b collection)
      (done : b.upsert collection rows = (c, .ok written)) :
      Effect allowed (.looking, s) (.owing, (s.afterWrite executor c).renew (·.invalidate))
  -- Behind the back of the browser.
  | affect {number : Nat} {command : BackendCommand} {s : Session} {b c : Backend}
      (ask : allowed (.backend number command)) (there : s.backend? number = some b)
      (affects : BackendCommand.Affects command b c) :
      Effect allowed (.looking, s) (.looking, s.setBackend number c)
  | openGate (s : Session) (gate : Gate) : Effect allowed (.looking, s) (.looking, s.openGate gate)
  | send {number : Nat} {collection : String} {request : Fields}
      (ask : allowed (.backend number (.request collection request))) (s : Session) :
      Effect allowed (.looking, s) (.looking, (s.send number collection request).1)
  | hear (s : Session) (sent : Sent) : Effect allowed (.looking, s) (.looking, (s.respond sent).1)
  | failArchive {tasks : List ArchiveTask} (ask : allowed (.failArchive tasks)) (s : Session) :
      Effect allowed (.looking, s) (.looking, s.update fun b =>
        { b with history :=
            { b.history with archive := b.history.archive.map ({ · with failing := tasks }) } })

/-- Effects, one after another. -/
def Effects (allowed : Command → Prop) : Phase × Session → Phase × Session → Prop :=
  ReflTransGen (Effect allowed)

namespace Effects

variable {m n o : Phase × Session}

theorem refl (m : Phase × Session) : Effects allowed m m := ReflTransGen.refl

theorem trans (hmn : Effects allowed m n) (hno : Effects allowed n o) : Effects allowed m o :=
  ReflTransGen.trans hmn hno

/-- What every effect keeps is kept by all of them. -/
theorem keeps {I : Phase × Session → Prop} (h : Effects allowed m n)
    (heffect : ∀ {m n}, Effect allowed m n → I m → I n) (hm : I m) : I n := by
  induction h with
  | refl => exact hm
  | tail _ hlast ih => exact heffect hlast ih

end Effects

theorem Effect.single {m n : Phase × Session} (h : Effect allowed m n) : Effects allowed m n :=
  ReflTransGen.single h

/-! ## What comes of an action -/

/-- What comes of an action from some phase of it on. -/
inductive Ensues (allowed : Command → Prop) (m : Phase × Session) :
    Session × Outcome Pause Reply → Prop where
  | done {phase : Phase} {t : Session} (effects : Effects allowed m (phase, t))
      (settled : phase ≠ .owing) (reply : Reply) : Ensues allowed m (t, .done reply)
  | raised {phase : Phase} {t : Session} (effects : Effects allowed m (phase, t))
      (early : phase.isEarly = true) (f : Fault) : Ensues allowed m (t, .raised f)
  | strands {t : Session} {f : Fault} (effects : Effects allowed m (.changed, t))
      (unforeseen : f.unforeseen = true) : Ensues allowed m (t, .raised f)
  /-- The first page is not loaded, since a schema cannot be taken over. -/
  | untaught {t : Session} {query : SchemaQuery} {f : Fault}
      (effects : Effects allowed m (.owing, t)) (taken : (t.takeSchema query).2 = .error f) :
      Ensues allowed m (t, .raised f)
  | load {t : Session} (effects : Effects allowed m (.looking, t)) (page : Value) (forced : Bool)
      (after : AfterLoad) : Ensues allowed m (thenReply (t.loadDocuments page forced) after)
  | reload {t : Session} (effects : Effects allowed m (.owing, t))
      (idle : t.browser.isLoading = false) (after : AfterLoad) :
      Ensues allowed m (thenReply (t.loadDocuments (.int 1) true) after)
  | schema {t : Session} {forced : Bool} {query : SchemaQuery} {after : AfterSchema}
      (effects : Effects allowed m (after.waiting, t))
      (held : t.loadSchema forced = (t, .paused query)) :
      Ensues allowed m (t, .paused (.schema query after))
  | request {t : Session} {sent : Sent} (effects : Effects allowed m (.looking, t))
      (held : t.isHeld sent.backend = true) : Ensues allowed m (t, .paused (.request sent))
  | background {t : Session} (effects : Effects allowed m (.looking, t)) :
      Ensues allowed m (t, .paused .background)
  | web {r : Session × Outcome Pause Reply} (ensues : Ensues allowed m r) (before : Option Nat)
      (waits : Bool) : Ensues allowed m (onWeb before waits r)

namespace Ensues

variable {m n : Phase × Session} {r : Session × Outcome Pause Reply}

theorem after (hmn : Effects allowed m n) (h : Ensues allowed n r) : Ensues allowed m r := by
  induction h with
  | done effects settled reply => exact .done (hmn.trans effects) settled reply
  | raised effects early f => exact .raised (hmn.trans effects) early f
  | strands effects unforeseen => exact .strands (hmn.trans effects) unforeseen
  | untaught effects taken => exact .untaught (hmn.trans effects) taken
  | load effects page forced after => exact .load (hmn.trans effects) page forced after
  | reload effects idle after => exact .reload (hmn.trans effects) idle after
  | schema effects held => exact .schema (hmn.trans effects) held
  | request effects held => exact .request (hmn.trans effects) held
  | background effects => exact .background (hmn.trans effects)
  | web _ before waits ih => exact .web ih before waits

/-- An action that changes nothing, and is over. -/
theorem still (s : Session) (reply : Reply) : Ensues allowed (.looking, s) (s, .done reply) :=
  .done (.refl _) (by nofun) reply

/-- An action goes on that needs to know no attributes. -/
theorem informed (h : Ensues allowed (.informed, s) r) : Ensues allowed (.looking, s) r :=
  .after (Effect.inform s).single h

theorem orRaise {α : Type} (s : Session) (result : Except Fault α)
    {next : α → Session × Outcome Pause Reply}
    (hnext : ∀ a, result = .ok a → Ensues allowed (.looking, s) (next a)) :
    Ensues allowed (.looking, s) (s.orRaise result next) := by
  cases result with
  | ok a => exact hnext a rfl
  | error f => exact .raised (.refl _) rfl f

theorem ended {α : Type} (view : α → Reply) {r : Session × Except Fault α}
    (hr : Effects allowed m (.looking, r.1)) : Ensues allowed m (Session.ended view r) := by
  obtain ⟨t, result⟩ := r
  cases result with
  | ok a => exact .done hr (by nofun) _
  | error f => exact .raised hr rfl f

end Ensues

/-! ## Changes of the query -/

theorem reloadFirst_ensues (s : Session) (after : AfterLoad) :
    Ensues allowed (.owing, s) (s.reloadFirst after) := by
  unfold reloadFirst
  split
  · rename_i hloading
    exact .done (Effect.putOff hloading).single (by nofun) _
  · rename_i hidle
    exact .reload (.refl _) (Bool.eq_false_iff.mpr hidle) after

theorem change_ensues (s : Session) (config : QueryConfig) (filters : Bool) (after : AfterLoad) :
    Ensues allowed (.informed, s) (s.change config filters after) := by
  have hchanged : Effects allowed (.informed, s) (.owing, (s.reconfigure config filters).cancelRun) :=
    (Effect.reconfigure s config filters).single.trans (Effect.cancel _).single
  exact .after hchanged (reloadFirst_ensues _ after)

/-- An action goes on once the attributes are known. -/
theorem withAttributes_ensues (s : Session) (after : AfterSchema) :
    Ensues allowed (after.phase, s) (s.withAttributes after) := by
  cases after with
  | addFilter attr operator value =>
    refine .after (Effect.newId .informed s).single ?_
    unfold withAttributes
    dsimp only
    split
    · exact change_ensues _ _ _ _
    · exact .raised (.refl _) rfl _
  | replaceFilter existing attr operator value =>
    unfold withAttributes
    dsimp only
    split
    · exact change_ensues _ _ _ _
    · exact .raised (.refl _) rfl _
  | reload => exact reloadFirst_ensues s _
  | attributes => exact .done (.refl _) (by nofun) _

/-- Where a schema cannot be taken over an action stops, and so does a reload. -/
theorem untaught_ensues {query : SchemaQuery} {f : Fault} (taken : (s.takeSchema query).2 = .error f)
    (after : AfterSchema) : Ensues allowed (after.phase, s) (s, .raised f) := by
  cases after with
  | reload => exact .untaught (.refl _) taken
  | _ => exact .raised (.refl _) rfl f

theorem learn_effects (s : Session) (forced : Bool) (after : AfterSchema) :
    Effects allowed (after.waiting, s) (after.phase, (s.loadSchema forced).1) := by
  cases after with
  | reload => exact (Effect.learnAnew s forced).single
  | _ => exact (Effect.learn s forced).single

/-- An action that has to know the attributes first. -/
theorem afterSchema_ensues (s : Session) (forced : Bool) (after : AfterSchema) :
    Ensues allowed (after.waiting, s)
      (andThen (s.loadSchema forced) (.schema · after) fun s _ => s.withAttributes after) := by
  have hlearned : Effects allowed (after.waiting, s) (after.phase, (s.loadSchema forced).1) :=
    learn_effects s forced after
  cases hl : s.loadSchema forced with
  | mk t outcome =>
    rw [hl] at hlearned
    cases outcome with
    | done known => exact .after hlearned (withAttributes_ensues t after)
    | raised f =>
      obtain ⟨rfl, query, -, hquery⟩ := loadSchema_raised hl
      exact .after hlearned (untaught_ensues hquery after)
    | paused query =>
      obtain ⟨rfl, -⟩ := loadSchema_paused hl
      exact .schema (.refl _) hl

theorem afterAttributes_ensues (s : Session) (after : AfterSchema) (hknown : after.phase = .informed) :
    Ensues allowed (.looking, s)
      (andThen s.ensureAttributes (.schema · after) fun s _ => s.withAttributes after) := by
  have hwaiting : after.waiting = .looking := by cases after <;> first | rfl | cases hknown
  unfold ensureAttributes
  rw [← hwaiting]
  split
  · exact afterSchema_ensues s false after
  · rw [hwaiting]
    exact .informed (hknown ▸ withAttributes_ensues s after)

theorem withFilter_ensues (s : Session) (id : String)
    {next : Predicate → Session × Outcome Pause Reply}
    (hnext : ∀ p, Ensues allowed (.looking, s) (next p)) :
    Ensues allowed (.looking, s) (s.withFilter id next) := by
  unfold withFilter
  split
  · exact hnext _
  · exact .raised (.refl _) rfl _

/-! ## Actions that drop all pages -/

/-- All pages that are kept are dropped before anything else follows from an action. -/
def EmptiesFirst (allowed : Command → Prop) (s : Session) (r : Session × Outcome Pause Reply) :
    Prop :=
  ∃ m : Phase × Session, Effects allowed (.looking, s) m ∧ m.2.browser.cache.pages = [] ∧
    Ensues allowed m r

theorem EmptiesFirst.ensues {r : Session × Outcome Pause Reply} (h : EmptiesFirst allowed s r) :
    Ensues allowed (.looking, s) r := by
  obtain ⟨m, heffects, -, hensues⟩ := h
  exact .after heffects hensues

theorem refresh_emptiesFirst (s : Session) : EmptiesFirst allowed s s.refresh :=
  ⟨_, (Effect.refresh s).single, rfl, afterSchema_ensues _ true .reload⟩

/-- For another connection nothing stays that is kept. -/
theorem useBackend_drops {connection : String} (backend : Nat)
    (hother : s.browser.connection ≠ some connection) :
    (s.useBackend connection backend).browser.cache.pages = [] ∧
      (s.useBackend connection backend).browser.unfiltered = none := by
  unfold useBackend update note
  dsimp only
  rw [if_pos (bne_iff_ne.mpr hother)]
  exact ⟨rfl, rfl⟩

/-- A connection is made: it is another one, there may be an attempt, and it succeeds. -/
structure Connects (s : Session) (connection : String) : Prop where
  other : ¬ (s.browser.executor.isSome = true ∧ s.browser.connection = some connection)
  allowed : s.browser.attempts < s.browser.settings.connectAttempts
  made : ∃ provider backend, s.provider = some provider ∧
    (provider.connect connection).2 = .ok backend

theorem Connects.apart {connection : String} (h : s.Connects connection) :
    s.browser.executor = none ∨ s.browser.connection ≠ some connection := by
  have hother := h.other
  rwa [not_and_or, Option.not_isSome_iff_eq_none] at hother

/-- Connecting comes to nothing, or uses the backend that the provider hands out. -/
theorem connect_cases (s : Session) (connection : String) :
    (¬ s.Connects connection ∧ s.browser.connection = some connection ∧
      s.connect connection = (s, .done (.verdict true))) ∨
    (¬ s.Connects connection ∧ ∃ t message, (t = s ∨ ∃ handed, t = s.attempted handed) ∧
      s.connect connection = t.refuseConnection message) ∨
    s.Connects connection ∧ ∃ provider handed backend, s.provider = some provider ∧
      provider.connect connection = (handed, .ok backend) ∧
      s.connect connection =
        ((s.attempted handed).useBackend connection backend, .done (.verdict true)) := by
  unfold connect
  dsimp only
  split
  · rename_i hthere
    rw [Bool.and_eq_true, beq_iff_eq] at hthere
    exact .inl ⟨fun h => h.other hthere, hthere.2, rfl⟩
  · rename_i hother
    rw [Bool.and_eq_true, beq_iff_eq] at hother
    right
    split
    · rename_i hnone
      refine .inl ⟨fun h => ?_, s, _, .inl rfl, rfl⟩
      obtain ⟨provider, -, hsome, -⟩ := h.made
      rw [hnone] at hsome
      cases hsome
    · rename_i provider hprovider
      split
      · rename_i hmany
        exact .inl ⟨fun h => absurd h.allowed (Int.not_lt.mpr hmany), s, _, .inl rfl, rfl⟩
      · rename_i hfew
        split
        · rename_i handed f hfailed
          refine .inl ⟨fun h => ?_, _, _, .inr ⟨handed, rfl⟩, rfl⟩
          obtain ⟨own, backend, hown, hmade⟩ := h.made
          cases hprovider.symm.trans hown
          rw [hfailed] at hmade
          cases hmade
        · rename_i handed backend hmade
          refine .inr ⟨⟨hother, Int.not_le.mp hfew, provider, backend, hprovider, ?_⟩, provider, handed,
            backend, hprovider, hmade, rfl⟩
          rw [hmade]

theorem connect_ensues (s : Session) {connection : String} (ask : allowed (.connect connection)) :
    Ensues allowed (.looking, s) (s.connect connection) := by
  rcases connect_cases s connection with
    ⟨-, -, h⟩ | ⟨-, t, message, htried, h⟩ | ⟨hmade, -, handed, backend, -, -, h⟩
  · rw [h]
    exact .still s _
  · have heffects : Effects allowed (.looking, s) (.looking, t) := by
      rcases htried with rfl | ⟨handed, rfl⟩
      · exact .refl _
      · exact (Effect.attempt s handed).single
    rw [h]
    exact .done (heffects.trans (Effect.trouble _ _).single) (by nofun) _
  · have hconnected : Effects allowed (.looking, s.attempted handed)
        (.changed, (s.attempted handed).useBackend connection backend) :=
      (Effect.connect ask (by exact hmade.apart) backend).single
    rw [h]
    exact .done ((Effect.attempt s handed).single.trans hconnected) (by nofun) _

theorem connect_emptiesFirst {connection : String} (ask : allowed (.connect connection))
    (hother : s.browser.connection ≠ some connection)
    (hconnected : (s.connect connection).2 = .done (.verdict true)) :
    EmptiesFirst allowed s (s.connect connection) := by
  rcases connect_cases s connection with
    ⟨-, hthere, -⟩ | ⟨-, t, message, -, h⟩ | ⟨hmade, -, handed, backend, -, -, h⟩
  · exact absurd hthere hother
  · rw [h] at hconnected
    cases hconnected
  · have hlast : Effects allowed (.looking, s.attempted handed)
        (.changed, (s.attempted handed).useBackend connection backend) :=
      (Effect.connect ask (by exact hmade.apart) backend).single
    exact ⟨_, (Effect.attempt s handed).single.trans hlast,
      (useBackend_drops backend (by exact hother)).1, h ▸ .done (.refl _) (by nofun) _⟩

/-! ## Writing documents -/

theorem checkKeys_unforeseen {keys : List Value} {f : Fault} (h : checkKeys keys = .error f) :
    f.unforeseen = true := by
  induction keys with
  | nil => cases h
  | cons key rest ih =>
    unfold checkKeys at h
    split at h
    · exact ih h
    · cases h
      rfl

theorem rowsWithout_unforeseen {keys : List Value} {rows : List Fields} {f : Fault}
    (h : rowsWithout keys rows = .error f) : f.unforeseen = true := by
  induction rows with
  | nil => cases h
  | cons row rest ih =>
    unfold rowsWithout at h
    dsimp only at h
    cases hkey : checkKeys [row.get "id"] with
    | error fault =>
      rw [hkey] at h
      cases h
      exact checkKeys_unforeseen hkey
    | ok _ =>
      rw [hkey] at h
      cases hrest : rowsWithout keys rest with
      | error fault =>
        rw [hrest] at h
        cases h
        exact ih hrest
      | ok others =>
        rw [hrest] at h
        cases h

/-- What comes of an action that writes documents: it is refused, or drops all pages first. -/
inductive WriteEnsues (allowed : Command → Prop) (s : Session) (r : Session × Outcome Pause Reply) :
    Prop where
  | refused {t : Session} {f : Fault} (effects : Effects allowed (.looking, s) (.looking, t))
      (raised : r = (t, .raised f))
  | written (empties : EmptiesFirst allowed s r)

namespace WriteEnsues

variable {r : Session × Outcome Pause Reply}

theorem ensues (h : WriteEnsues allowed s r) : Ensues allowed (.looking, s) r := by
  cases h with
  | refused effects raised =>
    rw [raised]
    exact .raised effects rfl _
  | written empties => exact empties.ensues

theorem emptiesFirst (h : WriteEnsues allowed s r) (hsucceeds : ∀ f, r.2 ≠ .raised f) :
    EmptiesFirst allowed s r := by
  cases h with
  | refused _ raised => exact absurd (congrArg Prod.snd raised) (hsucceeds _)
  | written empties => exact empties

theorem orRaise {α : Type} (s : Session) (result : Except Fault α)
    {next : α → Session × Outcome Pause Reply}
    (hnext : ∀ a, result = .ok a → WriteEnsues allowed s (next a)) :
    WriteEnsues allowed s (s.orRaise result next) := by
  cases result with
  | ok a => exact hnext a rfl
  | error f => exact .refused (.refl _) rfl

end WriteEnsues

theorem write_writes {α : Type} (s : Session) {f : Backend → String → Backend × Except Fault α}
    {next : Session → α → Session × Outcome Pause Reply}
    (hrefused : ∀ {b collection c fault}, f b collection = (c, .error fault) →
      Refuses allowed b collection c)
    (hdone : ∀ {executor b collection c a}, s.Writable executor b collection →
      f b collection = (c, .ok a) → EmptiesFirst allowed s (next (s.afterWrite executor c) a)) :
    WriteEnsues allowed s (s.write f next) := by
  unfold write
  split
  · rename_i executor collection hexecutor hcurrent
    unfold onBackend
    cases hb : s.backend? executor with
    | none => exact .refused (Effect.trouble s _).single rfl
    | some b =>
      have hthere : s.Writable executor b collection := ⟨hexecutor, hcurrent, hb⟩
      dsimp only
      cases hwritten : f b collection with
      | mk c result =>
        cases result with
        | ok a => exact .written (hdone hthere hwritten)
        | error fault =>
          have hfailed := (Effect.refuse hthere (hrefused hwritten)).single
          cases fault with
          | browser f => exact .refused hfailed rfl
          | _ => exact .refused (hfailed.trans (Effect.trouble _ _).single) rfl
  · exact .refused (.refl _) rfl

theorem delete_writes (s : Session) {given : Value} (ask : allowed (.delete given)) :
    WriteEnsues allowed s (s.delete given) := by
  refine .orRaise s _ fun keys hkeys => .orRaise s _ fun _ hchecked => ?_
  have hgiven : KeysGiven given keys := by
    refine ⟨?_, hchecked⟩
    cases helements : Collection.elements given with
    | error f => simp [helements, Except.mapError] at hkeys
    | ok found =>
      rw [helements] at hkeys
      cases hkeys
      rfl
  refine write_writes s (fun hrefused => .delete ask hgiven hrefused) fun hthere hdeleted => ?_
  cases hleft : rowsWithout keys s.browser.view.rows with
  | error f =>
    have hshown : ∀ executor c, rowsWithout keys (s.afterWrite executor c).browser.view.rows =
      .error f := fun _ _ => hleft
    rw [hshown]
    exact ⟨_, (Effect.strand ask hgiven hthere hdeleted hleft).single, rfl,
      .strands (.refl _) (rowsWithout_unforeseen hleft)⟩
  | ok kept =>
    have hshown : ∀ executor c, rowsWithout keys (s.afterWrite executor c).browser.view.rows =
      .ok kept := fun _ _ => hleft
    rw [hshown]
    exact ⟨_, (Effect.delete ask hgiven hthere hdeleted hleft).single, rfl, .done (.refl _) (by nofun) _⟩

theorem updateDocument_writes (s : Session) {key changes : Value}
    (ask : allowed (.update key changes)) : WriteEnsues allowed s (s.updateDocument key changes) :=
  write_writes s (fun hrefused => .update ask hrefused) fun hthere hupdated =>
    ⟨_, (Effect.update ask hthere hupdated).single, rfl, .done (.refl _) (by nofun) _⟩

theorem upsert_writes (s : Session) {rows : Value} (ask : allowed (.upsert rows)) :
    WriteEnsues allowed s (s.upsert rows) :=
  write_writes s (fun hrefused => .upsert ask hrefused) fun hthere hwritten =>
    ⟨_, (Effect.upsert ask hthere hwritten).single, rfl, reloadFirst_ensues _ _⟩

/-! ## Intents -/

theorem dispatch_ensues (s : Session) (intent : Intent)
    (htardy : ∀ text, intent = .setSearchText text →
      ∃ command, allowed command ∧ ¬ Command.Prompt command) :
    Ensues allowed (.looking, s) (s.dispatch intent) := by
  cases intent with
  | addFilter attr operator value =>
    exact afterAttributes_ensues s (.addFilter attr operator value) rfl
  | updateFilter filter attr operator value =>
    exact withFilter_ensues s filter fun existing =>
      afterAttributes_ensues s (.replaceFilter existing attr operator value) rfl
  | removeFilter filter =>
    exact withFilter_ensues s filter fun existing => (change_ensues s _ _ _).informed
  | clearFilters => exact (change_ensues s _ _ _).informed
  | setSearchText text =>
    obtain ⟨command, ask, tardy⟩ := htardy text rfl
    have hreconfigured : Effects allowed (.looking, s)
        (.owing, s.reconfigure { s.browser.config with searchText := text } true) :=
      (Effect.inform s).single.trans (Effect.reconfigure s _ true).single
    exact .done (hreconfigured.trans (Effect.postpone ask tardy _).single) (by nofun) _
  | setPageSize size => exact .after (Effect.resize s size).single (reloadFirst_ensues _ _)
  | goToPage page => exact .load (.refl _) _ _ _
  | refresh => exact (refresh_emptiesFirst s).ensues
  | setCollection name => exact .done (Effect.select s name).single (by nofun) _
  | _ => exact (change_ensues s _ _ _).informed

/-! ## Filters that are remembered -/

theorem atPlace_ensues (s : Session) {next : String → String → Session × Outcome Pause Reply}
    (hnext : ∀ connection collection, Ensues allowed (.looking, s) (next connection collection)) :
    Ensues allowed (.looking, s) (s.atPlace next) := by
  unfold atPlace
  split
  · exact hnext _ _
  · exact .raised (.refl _) rfl _

theorem saveFilter_ensues (s : Session) {given : Value} (ask : allowed (.saveFilter given)) :
    Ensues allowed (.looking, s) (s.saveFilter given) :=
  atPlace_ensues s fun _ _ => .orRaise s _ fun _ _ =>
    .done ((Effect.newId .looking s).single.trans (Effect.save ask _ _ _ _).single) (by nofun) _

theorem deleteSaved_ensues (s : Session) {id : String} (ask : allowed (.deleteSaved id)) :
    Ensues allowed (.looking, s) (s.deleteSaved id) :=
  atPlace_ensues s fun _ _ => .done (Effect.unsave ask s _ _).single (by nofun) _

theorem applySaved_ensues (s : Session) {id : String} (ask : allowed (.applySaved id)) :
    Ensues allowed (.looking, s) (s.applySaved id) := by
  refine atPlace_ensues s fun connection collection => ?_
  dsimp only
  split
  · exact .still s _
  · exact .after (Effect.mark ask s _ _).single (change_ensues _ _ _ _).informed

theorem applyRecent_ensues (s : Session) (id : String) :
    Ensues allowed (.looking, s) (s.applyRecent id) := by
  refine atPlace_ensues s fun connection collection => ?_
  split
  · exact .still s _
  · exact (change_ensues s _ _ _).informed

/-! ## Commands -/

theorem visit_ensues (s : Session) {request : Web.WebRequest} (ask : allowed (.web request)) :
    Ensues allowed (.looking, s) (s.visit request) := by
  unfold visit
  split
  · exact .still s _
  · exact .still s _
  · rename_i intent hread
    refine .web (dispatch_ensues s intent fun text htext => ⟨_, ask, fun hprompt => ?_⟩) _ _
    simp only [Command.Prompt, hread, htext, Intent.prompt] at hprompt
    cases hprompt
  · rename_i text waits hread
    refine .web (dispatch_ensues s _ fun _ _ => ⟨_, ask, fun hprompt => ?_⟩) _ _
    simp only [Command.Prompt, hread] at hprompt

theorem updateBackend_effects (s : Session) {number : Nat} {command : BackendCommand}
    (ask : allowed (.backend number command)) {f : Backend → Backend}
    (haffects : ∀ b, BackendCommand.Affects command b (f b)) :
    Effects allowed (.looking, s) (.looking, s.updateBackend number f) := by
  unfold updateBackend
  cases hb : s.backend? number with
  | none => exact .refl _
  | some b => exact (Effect.affect ask hb (haffects b)).single

theorem onBackend_effects {α : Type} (s : Session) {number : Nat} {command : BackendCommand}
    (ask : allowed (.backend number command)) {f : Backend → Backend × Except Fault α}
    (haffects : ∀ b, BackendCommand.Affects command b (f b).1) :
    Effects allowed (.looking, s) (.looking, (s.onBackend number f).1) := by
  unfold onBackend
  cases hb : s.backend? number with
  | none => exact .refl _
  | some b => exact (Effect.affect ask hb (haffects b)).single

/-- A backend that is only looked at stays as it is. -/
theorem onBackend_look {α : Type} (s : Session) (number : Nat) (view : Backend → Except Fault α) :
    (s.onBackend number fun b => (b, view b)).1 = s := by
  unfold onBackend backend?
  cases hb : s.backends[number]? with
  | none => rfl
  | some b =>
    obtain ⟨hlt, rfl⟩ := List.getElem?_eq_some_iff.mp hb
    simp [setBackend]

theorem performAt_ensues (s : Session) {number : Nat} {command : BackendCommand}
    (ask : allowed (.backend number command)) :
    Ensues allowed (.looking, s) (s.performAt number command) := by
  have hlooks : ∀ {α : Type} (view : α → Reply) (look : Backend → Except Fault α),
      Ensues allowed (.looking, s) (ended view (s.onBackend number fun b => (b, look b))) := by
    intro α view look
    refine .ended view ?_
    rw [onBackend_look]
    exact .refl _
  have hupdated : ∀ {f : Backend → Backend}, (∀ b, BackendCommand.Affects command b (f b)) →
      Ensues allowed (.looking, s) (s.updateBackend number f).silent := fun haffects =>
    .done (updateBackend_effects s ask haffects) (by nofun) _
  have hopened : ∀ {f : Backend → Backend} (gate : Gate),
      (∀ b, BackendCommand.Affects command b (f b)) →
      Ensues allowed (.looking, s) ((s.updateBackend number f).openGate gate).silent :=
    fun gate haffects =>
      .done ((updateBackend_effects s ask haffects).trans (Effect.openGate _ gate).single) (by nofun) _
  cases command with
  | request collection request =>
    have hsent : Effects allowed (.looking, s) (.looking, (s.send number collection request).1) :=
      (Effect.send ask s).single
    unfold performAt
    dsimp only
    split
    · rename_i hheld
      exact .request hsent hheld
    · exact .ended _ (hsent.trans (Effect.hear _ _).single)
  | schema collection => exact hlooks _ _
  | contents => exact hlooks _ _
  | delete collection keys =>
    exact .ended _ (onBackend_effects s ask fun b => .delete collection keys b)
  | update collection key changes =>
    exact .ended _ (onBackend_effects s ask fun b => .update collection key changes b)
  | upsert collection rows =>
    exact .ended _ (onBackend_effects s ask fun b => .upsert collection rows b)
  | failNext fault => exact hupdated (.failNext fault)
  | hold => exact hupdated .hold
  | release keep => exact hopened _ (.release keep)
  | holdSchemas => exact hupdated .holdSchemas
  | releaseSchemas => exact hopened _ .releaseSchemas
  | failSchemas fault => exact hupdated (.failSchemas fault)
  | failDeletes fault => exact hupdated (.failDeletes fault)

/-- What comes of whatever is asked for. -/
theorem perform_ensues (s : Session) {command : Command} (ask : allowed command) :
    Ensues allowed (.looking, s) (s.perform command) := by
  cases command with
  | dispatch given =>
    refine .orRaise s _ fun intent hread => dispatch_ensues s intent fun text htext =>
      ⟨_, ask, fun hprompt => ?_⟩
    have hnow := hprompt intent hread
    rw [htext] at hnow
    cases hnow
  | dispatchOther => exact .raised (.refl _) rfl _
  | load page forced => exact .load (.refl _) page forced _
  | loadSchema forced => exact afterSchema_ensues s forced .attributes
  | connect connection => exact connect_ensues s ask
  | resetAttempts => exact .done (Effect.resetAttempts s).single (by nofun) _
  | delete given => exact (delete_writes s ask).ensues
  | update key changes => exact (updateDocument_writes s ask).ensues
  | upsert rows => exact (upsert_writes s ask).ensues
  | saveFilter given => exact saveFilter_ensues s ask
  | deleteSaved id => exact deleteSaved_ensues s ask
  | applySaved id => exact applySaved_ensues s ask
  | applyRecent id => exact applyRecent_ensues s id
  | snapshot => exact .orRaise s _ fun _ _ => .still s _
  | wait =>
    change Ensues allowed (.looking, s) s.wait
    unfold wait
    split
    · exact .background (.refl _)
    · exact .still s _
  | web request => exact visit_ensues s ask
  | mergeAttributes given =>
    exact .orRaise s _ fun found _ => .done (Effect.merge ask s found).single (by nofun) _
  | clearAttributes => exact .done (Effect.clear ask s).single (by nofun) _
  | failArchive tasks => exact .done (Effect.failArchive ask s).single (by nofun) _
  | backend number command => exact performAt_ensues s ask
  | savedFilters | recentFilters | attributes => exact .still s _

/-! ## Actions that go on -/

/-- What the backend has shown that an action waits for is taken over. -/
def taught (s : Session) : Pause → Session
  | .schema query _ => (s.takeSchema query).1
  | .web _ _ pause => s.taught pause
  | _ => s

theorem taught_apprised (s : Session) (pause : Pause) : Apprised s (s.taught pause) := by
  induction pause with
  | schema query after => exact takeSchema_apprised s query
  | web before waits pause ih => exact ih
  | _ => exact .refl s

/-- What comes of whatever is gone on with, if it is no load that has waited. -/
theorem resume_ensues (s : Session) {pause : Pause} (hnone : pause.loadPause? = none) :
    Ensues allowed (pause.phase, s.taught pause) (s.resume pause) := by
  induction pause with
  | load p after => cases hnone
  | schema query after =>
    change Ensues allowed (after.phase, (s.takeSchema query).1) (s.resumeSchema query after)
    unfold resumeSchema
    cases htaken : s.takeSchema query with
    | mk t taken =>
      cases taken with
      | ok known => exact withAttributes_ensues t after
      | error f =>
        obtain rfl := takeSchema_error htaken
        exact untaught_ensues (congrArg Prod.snd htaken) after
  | request sent => exact .ended _ (Effect.hear s sent).single
  | background => exact .still s _
  | web before waits pause ih => exact .web (ih hnone) before waits

end Session

end Folio
