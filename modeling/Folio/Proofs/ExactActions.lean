-- Actions and the number of all documents. Documents are deleted, changed and stored through the
-- browser; it then counts down, keeps the number or forgets it, so that what is known of the number
-- stays exact. Whatever else is asked for changes no documents before it loads.
import Folio.Proofs.KnownNumbers

namespace Folio

/-- Whether a command to a backend leaves its documents as they are, and lets nothing wait. -/
def BackendCommand.isHarmless : BackendCommand → Bool
  | .delete _ _ | .update _ _ _ | .upsert _ _ | .hold | .release true | .holdSchemas => false
  | _ => true

/-- A command stores rows only that carry ids, changes no id, and leaves what is behind the backends
alone. -/
def Command.KeepsIds : Command → Prop
  | .upsert rows => ∀ given, Collection.elements rows = .ok given → ∀ row ∈ given, CarriesId row
  | .update _ changes => ∀ fields, changes = .object fields → SparesId fields
  | .backend _ command => command.isHarmless = true
  | _ => True

namespace Session

variable {texts : List UInt8 → Prop} {s t u : Session}

/-! ## What is done keeps what is known exact -/

/-- What is known has stayed exact before anything is loaded. -/
structure Readies (texts : List UInt8 → Prop) (s t : Session) : Prop where
  journal : s.journal <+: t.journal
  shown : ∀ showing, .shown showing ∉ s.since t
  exact : Exact texts t

/-- What is known stays exact before anything is loaded. -/
def Prepares (texts : List UInt8 → Prop) (s t : Session) : Prop := Exact texts s → Readies texts s t

theorem Forgets.prepares (h : Forgets s t) : Prepares texts s t := fun hs =>
  ⟨h.journal, h.shown, h.exact hs⟩

theorem Still.prepares (h : Still s t) : Prepares texts s t := h.forgets.prepares

theorem Prepares.trans (hst : Prepares texts s t) (htu : Prepares texts t u) :
    Prepares texts s u := by
  intro hs
  have hbefore := hst hs
  have hafter := htu hbefore.exact
  refine ⟨hbefore.journal.trans hafter.journal, fun showing hmem => ?_, hafter.exact⟩
  rw [since_trans hbefore.journal hafter.journal] at hmem
  rcases List.mem_append.mp hmem with h | h
  · exact hbefore.shown showing h
  · exact hafter.shown showing h

/-- What is known is exact, and what was shown for a query that browses all has told the number of
documents. -/
structure Told (texts : List UInt8 → Prop) (s t : Session) : Prop where
  exact : Exact texts t
  shown : ∀ showing, .shown showing ∈ s.since t → showing.config.browsesAll = true →
    t.Tells showing.view.total

/-- So it is when an action is over, which may still wait for the background. -/
structure Upkept (texts : List UInt8 → Prop) (s : Session) (r : Session × Outcome Pause Reply) :
    Prop extends Told texts s r.1 where
  idle : ∀ pause, r.2 = .paused pause → pause.isIdle = true

/-- What is done keeps what is known exact. -/
def Abides (texts : List UInt8 → Prop) (s t : Session) : Prop :=
  Exact texts s → s.journal <+: t.journal ∧ (Covers texts s t → Told texts s t)

/-- An action keeps what is known exact. -/
def Upholds (texts : List UInt8 → Prop) (s : Session) (r : Session × Outcome Pause Reply) : Prop :=
  Exact texts s → s.journal <+: r.1.journal ∧ (Covers texts s r.1 → Upkept texts s r)

namespace Abides

theorem prepared (h : Prepares texts s t) : Abides texts s t := fun hs =>
  ⟨(h hs).journal, fun _ => ⟨(h hs).exact, fun showing hmem => absurd hmem ((h hs).shown showing)⟩⟩

theorem after (hst : Prepares texts s t) (htu : Abides texts t u) : Abides texts s u := by
  intro hs
  have hbefore := hst hs
  obtain ⟨hjournal, htold⟩ := htu hbefore.exact
  refine ⟨hbefore.journal.trans hjournal, fun hcovers => ?_⟩
  have hafter := htold (hcovers.later hbefore.journal hjournal)
  refine ⟨hafter.exact, fun showing hmem => hafter.shown showing ?_⟩
  rw [since_trans hbefore.journal hjournal] at hmem
  exact (List.mem_append.mp hmem).resolve_left (hbefore.shown showing)

end Abides

namespace Upholds

variable {r : Session × Outcome Pause Reply}

theorem abides (h : Upholds texts s r) : Abides texts s r.1 := fun hs =>
  ⟨(h hs).1, fun hcovers => ((h hs).2 hcovers).toTold⟩

theorem prepared {outcome : Outcome Pause Reply} (h : Prepares texts s t)
    (hidle : ∀ pause, outcome = .paused pause → pause.isIdle = true) :
    Upholds texts s (t, outcome) := fun hs =>
  ⟨(h hs).journal, fun hcovers => ⟨(Abides.prepared h hs).2 hcovers, hidle⟩⟩

theorem done (h : Prepares texts s t) (reply : Reply) : Upholds texts s (t, .done reply) :=
  prepared h fun _ hp => by cases hp

theorem raised (h : Prepares texts s t) (f : Fault) : Upholds texts s (t, .raised f) :=
  prepared h fun _ hp => by cases hp

theorem after (hst : Prepares texts s t) (ht : Upholds texts t r) : Upholds texts s r := by
  intro hs
  have habides := Abides.after hst ht.abides hs
  refine ⟨habides.1, fun hcovers => ⟨habides.2 hcovers, ?_⟩⟩
  obtain ⟨hjournal, hupkept⟩ := ht (hst hs).exact
  exact (hupkept (hcovers.later (hst hs).journal hjournal)).idle

theorem thenReply {r : Session × Outcome LoadPause Bool} (hjournal : s.journal <+: r.1.journal)
    (hr : Advances texts s r) (after : AfterLoad) :
    Upholds texts s (Session.thenReply r after) := by
  obtain ⟨t, outcome⟩ := r
  intro hs
  cases outcome with
  | done shown =>
    refine ⟨hjournal, fun hcovers => ⟨⟨(hr hs hcovers).exact, (hr hs hcovers).shown⟩, ?_⟩⟩
    intro pause hp
    cases hp
  | raised f =>
    refine ⟨hjournal, fun hcovers => ⟨⟨(hr hs hcovers).exact, (hr hs hcovers).shown⟩, ?_⟩⟩
    intro pause hp
    cases hp
  | paused p => exact ⟨hjournal, fun hcovers => absurd rfl ((hr hs hcovers).ends p)⟩

end Upholds

/-! ## What is forgotten -/

theorem Forgets.of_loosens (h : Loosens s t) (standings : t.standings = s.standings)
    (rows : t.browser.view.rows ⊆ s.browser.view.rows)
    (collection : t.browser.unfiltered = none ∨ t.browser.collection = s.browser.collection) :
    Forgets s t where
  standings := standings
  connection := h.connection
  executor := h.executor
  rows := rows
  pages := h.pages
  unfiltered := by
    rcases collection with hnone | hsame
    · exact .inl hnone
    · exact h.unfiltered.symm.imp_right fun hkept => ⟨hkept, hsame⟩
  actions := h.actions
  journal := h.journal
  shown := h.shown

theorem reconfigure_forgets (s : Session) (config : QueryConfig) (filters : Bool) :
    Forgets s (s.reconfigure config filters) := by
  have hrest : (s.reconfigure config filters).standings = s.standings ∧
      (s.reconfigure config filters).browser = s.browser.reconfigure config := by
    unfold reconfigure
    dsimp only
    split <;> exact ⟨rfl, rfl⟩
  obtain ⟨hstandings, hbrowser⟩ := hrest
  refine .of_loosens (reconfigure_loosens s config filters) hstandings ?_ (.inr ?_)
  · rw [hbrowser]
    exact fun _ => id
  · rw [hbrowser]
    rfl

theorem cancelRun_still (s : Session) : Still s s.cancelRun := by
  have hsame := cancelRun_samePages s
  obtain ⟨_, _, _, _, loads, hcancelled⟩ := s.cancelRun_changes
  rw [hcancelled] at hsame ⊢
  exact ⟨hsame, rfl, rfl, rfl⟩

theorem scheduleRun_still (s : Session) : Still s s.scheduleRun := by
  have hcancelled := cancelRun_still s
  exact ⟨scheduleRun_samePages s, hcancelled.standings, hcancelled.rows, hcancelled.collection⟩

theorem selectCollection_forgets (s : Session) (collection : Option String) :
    Forgets s (s.selectCollection collection) := by
  obtain ⟨history, hbrowser⟩ := selectCollection_browser s collection
  refine .of_loosens (selectCollection_loosens s collection) (cancelRun_still s).standings ?_
    (.inl ?_)
  · rw [hbrowser]
    exact List.nil_subset _
  · rw [hbrowser]
    rfl

theorem renew_forgets {f : Browser → Browser} (h : Browser.Drops s.browser (f s.browser))
    (rows : (f s.browser).view.rows ⊆ s.browser.view.rows)
    (collection : (f s.browser).unfiltered = none ∨
      (f s.browser).collection = s.browser.collection) : Forgets s (s.renew f) :=
  .of_loosens (renew_loosens h) rfl rows collection

theorem newId_still (s : Session) : Still s s.newId.1 := ⟨newId_samePages s, rfl, rfl, rfl⟩

theorem logRecent_still (s : Session) : Still s s.logRecent := by
  have hsame := logRecent_samePages s
  rcases s.logRecent_cases with hstays | ⟨history, hlogged⟩
  · rw [hstays]
    exact .refl s
  · rw [hlogged] at hsame ⊢
    exact ⟨hsame, rfl, rfl, rfl⟩

theorem openGate_still (s : Session) (gate : Gate) : Still s (s.openGate gate) :=
  ⟨openGate_samePages s gate, rfl, rfl, rfl⟩

/-! ## Another connection -/

/-- Where no backend is used nothing is known. -/
theorem Exact.unconnected (hs : Exact texts s) (hnone : s.browser.executor = none) :
    s.browser.cache.pages = [] ∧ s.browser.unfiltered = none := by
  constructor
  · refine List.eq_nil_iff_forall_not_mem.mpr fun page hpage => ?_
    obtain ⟨backend, collection, config, number, size, hbackend, -⟩ := (hs.pages page hpage).made
    rw [hnone] at hbackend
    cases hbackend
  · refine Option.eq_none_iff_forall_ne_some.mpr fun n hn => ?_
    obtain ⟨backend, collection, hbackend, -⟩ := hs.unfiltered n hn
    rw [hnone] at hbackend
    cases hbackend

/-- All that is known is forgotten with the connection. -/
theorem useBackend_prepares {connection : String} (backend : Nat)
    (hother : s.browser.executor = none ∨ s.browser.connection ≠ some connection) :
    Prepares texts s (s.useBackend connection backend) := by
  intro hs
  have hjournal : (s.useBackend connection backend).journal = s.journal ++ [.connected backend] :=
    rfl
  have hforgot : (s.useBackend connection backend).browser.cache.pages = [] ∧
      (s.useBackend connection backend).browser.unfiltered = none := by
    by_cases hsame : s.browser.connection = some connection
    · have hnone := hs.unconnected (hother.resolve_right (not_not_intro hsame))
      have hkept : ¬ (s.browser.connection != some connection) = true := by simpa using hsame
      unfold useBackend update note
      dsimp only
      rw [if_neg hkept]
      exact hnone
    · exact useBackend_drops backend hsame
  have hrows : (s.useBackend connection backend).browser.view.rows = s.browser.view.rows := by
    unfold useBackend update note
    dsimp only
    split <;> rfl
  refine ⟨⟨_, hjournal.symm⟩, fun showing hmem => ?_, hs.filed, hs.calm, hs.idle, ?_, ?_, ?_⟩
  · rw [since_eq hjournal] at hmem
    simp at hmem
  · rw [hrows]
    exact hs.rows
  · rw [hforgot.1]
    exact fun page hpage => absurd hpage List.not_mem_nil
  · rw [hforgot.2]
    exact fun n hn => by cases hn

/-! ## Writing documents -/

theorem number_setBackend {backend : Nat} {b : Backend} (hb : s.backend? backend = some b)
    (c : Backend) (other : Nat) (collection : String) :
    (s.setBackend backend c).number other collection =
      if other = backend then c.number collection else s.number other collection := by
  have hlt := (List.getElem?_eq_some_iff.mp hb).1
  unfold Session.number setBackend backend?
  split
  · rename_i hsame
    rw [hsame, List.getElem?_set_self hlt]
    rfl
  · rename_i hother
    rw [List.getElem?_set_ne (Ne.symm hother)]

section

variable {α : Type} {backend : Nat} {b : Backend} {r : Backend × Except Fault α}
  (hs : Exact texts s) (hb : s.backend? backend = some b) (hw : b.Writes r)

include hs hb hw

theorem Exact.written {t : Session} (backends : t.backends = (s.setBackend backend r.1).backends) :
    (∀ c ∈ t.backends, c.Filed) ∧ ∀ c ∈ t.backends, c.held = false ∧ c.schemaHeld = false := by
  have hmem := List.mem_of_getElem? hb
  obtain ⟨hheld, hschema⟩ := hs.calm b hmem
  have hwritten : ∀ c ∈ t.backends, c ∈ s.backends ∨ c = r.1 := by
    rw [backends]
    exact fun c hc => List.mem_or_eq_of_mem_set hc
  refine ⟨fun c hc => ?_, fun c hc => ?_⟩
  · rcases hwritten c hc with hold | rfl
    · exact hs.filed c hold
    · exact hw.filed
  · rcases hwritten c hc with hold | rfl
    · exact hs.calm c hold
    · exact ⟨hw.held.trans hheld, hw.schemaHeld.trans hschema⟩

/-- A write that fails leaves what is known. -/
theorem Exact.unwritten {f : Fault} (hfails : r.2 = .error f) :
    Readies texts s (s.setBackend backend r.1) := by
  have hnumbers : ∀ other collection,
      (s.setBackend backend r.1).number other collection = s.number other collection := by
    intro other collection
    rw [number_setBackend hb]
    split
    · rename_i hsame
      rw [hw.fails f hfails, hsame, number_of_backend hb]
    · rfl
  obtain ⟨hfiled, hcalm⟩ := hs.written hb hw rfl
  exact ⟨List.prefix_rfl, (Still.refl s).shown, hfiled, hcalm, hs.idle, hs.rows,
    fun page hpage => (hs.pages page hpage).keep rfl rfl hnumbers,
    fun n hn => (hs.unfiltered n hn).keep rfl rfl hnumbers⟩

/-- A write drops all pages that are kept. -/
theorem Exact.cleared {t : Session} (backends : t.backends = (s.setBackend backend r.1).backends)
    (actions : t.actions ⊆ s.actions) (rows : ∀ row ∈ t.browser.view.rows, Identified row)
    (pages : t.browser.cache.pages = [])
    (unfiltered : ∀ n, t.browser.unfiltered = some n → t.Tells (some n)) : Exact texts t := by
  obtain ⟨hfiled, hcalm⟩ := hs.written hb hw backends
  refine ⟨hfiled, hcalm, fun w hw => hs.idle w (actions hw), rows, ?_, unfiltered⟩
  rw [pages]
  exact fun page hpage => absurd hpage List.not_mem_nil

end

theorem checkKeys_ok {keys : List Value} (h : checkKeys keys = .ok ()) :
    ∀ key ∈ keys, key.isKey = true := by
  induction keys with
  | nil => exact fun key hkey => absurd hkey List.not_mem_nil
  | cons key rest ih =>
    unfold checkKeys at h
    split at h
    · rename_i hkey
      exact List.forall_mem_cons.mpr ⟨hkey, ih h⟩
    · cases h

/-- Rows that carry ids can be looked through for keys. -/
theorem rowsWithout_ok (keys : List Value) {rows : List Fields}
    (h : ∀ row ∈ rows, Identified row) :
    ∃ kept, rowsWithout keys rows = .ok kept ∧ kept ⊆ rows := by
  induction rows with
  | nil => exact ⟨[], rfl, List.nil_subset _⟩
  | cons row rest ih =>
    obtain ⟨hrow, hrest⟩ := List.forall_mem_cons.mp h
    obtain ⟨others, hothers, hsub⟩ := ih hrest
    have hkey : checkKeys [row.get "id"] = .ok () := by
      unfold checkKeys
      rw [if_pos hrow.isKey]
      rfl
    refine ⟨if (row.get "id").occursIn keys then others else row :: others, ?_, ?_⟩
    · unfold rowsWithout
      dsimp only
      rw [hkey, hothers]
      rfl
    · split
      · exact List.subset_cons_of_subset row hsub
      · exact List.cons_subset_cons row hsub

theorem KeysGiven.isKey {given : Value} {keys : List Value} (names : KeysGiven given keys) :
    ∀ found, Collection.elements given = .ok found → ∀ key ∈ found, key.isKey = true := by
  intro found hfound
  cases names.elements.symm.trans hfound
  exact checkKeys_ok names.checked

/-- What comes of a write that is refused. -/
theorem Refuses.writes {b c : Backend} {collection : String}
    (h : Refuses Command.KeepsIds b collection c) (hb : b.Filed) :
    ∃ (α : Type) (f : Fault), b.Writes ((c, .error f) : Backend × Except Fault α) := by
  cases h with
  | delete _ names refused => exact ⟨Nat, _, refused ▸ (hb.delete collection names.isKey).1⟩
  | update ask refused => exact ⟨Unit, _, refused ▸ (hb.update collection ask).1⟩
  | upsert ask refused => exact ⟨Nat, _, refused ▸ hb.upsert collection ask⟩

section

variable {executor : Nat} {b c : Backend} {collection : String}
  (there : s.Writable executor b collection)

include there

/-- The number goes down by the documents that were deleted. -/
theorem delete_prepares {given : Value} {keys : List Value} {deleted : Nat} {kept : List Fields}
    (names : KeysGiven given keys) (done : b.delete collection given = (c, .ok deleted))
    (left : rowsWithout keys s.browser.view.rows = .ok kept) :
    Prepares texts s ((s.afterWrite executor c).lessen kept deleted) := by
  intro hs
  obtain ⟨hwrites, hless⟩ :=
    (hs.filed b (List.mem_of_getElem? there.backend)).delete collection names.isKey
  rw [done] at hwrites hless
  have hnumber : c.number collection + deleted = b.number collection := (hless deleted rfl).1
  obtain ⟨found, hfound, hsub⟩ := rowsWithout_ok keys hs.rows
  cases left.symm.trans hfound
  refine ⟨List.prefix_rfl, (Still.refl s).shown, ?_⟩
  refine hs.cleared there.backend hwrites rfl (fun _ => id)
    (fun row hrow => hs.rows row (hsub hrow)) rfl ?_
  intro n hn
  obtain ⟨before, hbefore, rfl⟩ := Option.map_eq_some_iff.mp hn
  obtain ⟨other, place, hother, hplace, htotal⟩ := hs.unfiltered before hbefore
  cases Option.some.inj (hother.symm.trans there.executor)
  cases Option.some.inj (hplace.symm.trans there.current)
  refine ⟨executor, collection, there.executor, there.current, congrArg some ?_⟩
  have hafter : ((s.afterWrite executor c).lessen kept deleted).number executor collection =
      c.number collection :=
    (number_setBackend there.backend c executor collection).trans (if_pos rfl)
  rw [number_of_backend there.backend] at htotal
  rw [hafter, Option.some.inj htotal]
  omega

/-- Changing fields other than the id leaves the number as it is. -/
theorem update_prepares {key changes : Value}
    (hchanges : ∀ fields, changes = .object fields → SparesId fields)
    (done : b.update collection key changes = (c, .ok ())) :
    Prepares texts s ((s.afterWrite executor c).update fun b =>
      { b with view := { b.view with
          rows := b.view.rows.map fun row =>
            if (row.get "id").same key then row.putAll ((changes.fields?).getD []) else row } }) := by
  intro hs
  obtain ⟨hwrites, hnumber⟩ :=
    (hs.filed b (List.mem_of_getElem? there.backend)).update collection hchanges
  rw [done] at hwrites hnumber
  have hspares : SparesId ((changes.fields?).getD []) := by
    cases changes with
    | object fields => exact hchanges fields rfl
    | _ => exact List.not_mem_nil
  refine ⟨List.prefix_rfl, (Still.refl s).shown, ?_⟩
  refine hs.cleared there.backend hwrites rfl (fun _ => id) ?_ rfl fun n hn => ?_
  · intro row hrow
    obtain ⟨shown, hshown, rfl⟩ := List.mem_map.mp hrow
    have hidentified := hs.rows shown hshown
    split
    · exact hidentified.of_get hspares.get_putAll
    · exact hidentified
  · refine (hs.unfiltered n hn).keep rfl rfl fun other place => ?_
    refine (number_setBackend there.backend _ other place).trans ?_
    split
    · rename_i hsame
      rw [hnumber, hsame, number_of_backend there.backend]
    · rfl

/-- After documents have been stored the number is counted anew. -/
theorem upsert_prepares {rows : Value} {written : Nat}
    (hrows : ∀ given, Collection.elements rows = .ok given → ∀ row ∈ given, CarriesId row)
    (done : b.upsert collection rows = (c, .ok written)) :
    Prepares texts s ((s.afterWrite executor c).renew (·.invalidate)) := by
  intro hs
  have hwrites := (hs.filed b (List.mem_of_getElem? there.backend)).upsert collection hrows
  rw [done] at hwrites
  refine ⟨List.prefix_append _ _, fun showing hmem => ?_, ?_⟩
  · rw [since_eq (s := s) (l := [.renewed]) rfl] at hmem
    simp at hmem
  · exact hs.cleared there.backend hwrites rfl (fun _ => id) hs.rows rfl fun n hn => by cases hn

end

/-! ## Effects -/

/-- A backend keeps its standing. -/
theorem setBackend_prepares {number : Nat} {b c : Backend} (there : s.backend? number = some b)
    (hc : b.held = false ∧ b.schemaHeld = false → c.standing = b.standing) :
    Prepares texts s (s.setBackend number c) := by
  intro hs
  have hsame := hc (hs.calm b (List.mem_of_getElem? there))
  have hforgets : Forgets s (s.setBackend number c) :=
    ⟨standings_setBackend there hsame, rfl, rfl, fun _ => id, fun _ => id, .inr ⟨rfl, rfl⟩,
      fun _ => id, List.prefix_rfl, (Still.refl s).shown⟩
  exact hforgets.prepares hs

/-- Every effect of what keeps ids leaves what is known exact. -/
theorem Effect.prepares {p q : Phase} (h : Effect Command.KeepsIds (p, s) (q, t)) :
    Prepares texts s t := by
  cases h with
  | learn _ forced | learnAnew _ forced =>
    exact (loadSchema_apprised s forced).still.prepares
  | inform => exact (Still.refl s).prepares
  | newId => exact (newId_still s).prepares
  | trouble _ f => exact (trouble_still s f).prepares
  | reconfigure _ config filters => exact (reconfigure_forgets s config filters).prepares
  | resize =>
    exact Forgets.prepares (renew_forgets ⟨rfl, rfl, rfl, Nat.le_succ _, fun _ => id, .inl rfl⟩
      (fun _ => id) (.inr rfl))
  | refresh =>
    exact Forgets.prepares (renew_forgets
      ⟨rfl, rfl, rfl, Nat.le_succ _, fun _ h => (by cases h), .inr rfl⟩ (fun _ => id) (.inl rfl))
  | cancel => exact (cancelRun_still s).prepares
  | postpone => exact (scheduleRun_still s).prepares
  | putOff =>
    have hpending : Still s (s.update ({ · with reloadPending := true })) :=
      ⟨.update rfl rfl rfl, rfl, rfl, rfl⟩
    exact (hpending.trans (.note _ rfl)).prepares
  | select _ collection => exact (selectCollection_forgets s collection).prepares
  | attempt _ provider => exact Still.prepares ⟨attempted_samePages s provider, rfl, rfl, rfl⟩
  | connect _ apart backend => exact useBackend_prepares backend apart
  | refuse there refuses =>
    intro hs
    obtain ⟨_, f, hwrites⟩ := refuses.writes (hs.filed _ (List.mem_of_getElem? there.backend))
    exact hs.unwritten there.backend hwrites rfl
  | delete _ names there done left => exact delete_prepares there names done left
  | @strand _ keys _ _ _ _ _ _ _ _ _ _ _ stuck =>
    intro hs
    obtain ⟨found, hfound, -⟩ := rowsWithout_ok keys hs.rows
    cases stuck.symm.trans hfound
  | update ask there done => exact update_prepares there ask done
  | upsert ask there done => exact upsert_prepares there ask done
  | affect ask there affects =>
    cases affects with
    | failNext | failSchemas | failDeletes => exact setBackend_prepares there fun _ => rfl
    | release keep =>
      cases keep with
      | true => cases ask
      | false =>
        refine setBackend_prepares there fun hb => ?_
        unfold Backend.standing
        rw [hb.1]
    | releaseSchemas =>
      refine setBackend_prepares there fun hb => ?_
      unfold Backend.standing
      rw [hb.2]
    | _ => cases ask
  | openGate _ gate => exact (openGate_still s gate).prepares
  | send => exact (send_still s _ _ _).prepares
  | hear _ sent => exact fun hs => (respond_still hs.filed sent).prepares hs
  | _ => exact Still.prepares ⟨.update rfl rfl rfl, rfl, rfl, rfl⟩

theorem Effects.prepares {m n : Phase × Session} (h : Effects Command.KeepsIds m n) :
    Prepares texts m.2 n.2 :=
  h.keeps (I := fun n => Prepares texts m.2 n.2) (fun heffect hm => hm.trans heffect.prepares)
    (Still.refl m.2).prepares

theorem onWeb_upholds {r : Session × Outcome Pause Reply} (hr : Upholds texts s r)
    (before : Option Nat) (waits : Bool) : Upholds texts s (onWeb before waits r) := by
  obtain ⟨t, outcome⟩ := r
  intro hs
  obtain ⟨hjournal, hupkept⟩ := hr hs
  cases outcome with
  | raised f => exact ⟨hjournal, fun hc => ⟨(hupkept hc).toTold, fun _ hp => by cases hp⟩⟩
  | done reply =>
    unfold onWeb
    dsimp only
    split
    · refine ⟨hjournal, fun hc => ⟨(hupkept hc).toTold, fun pause hp => ?_⟩⟩
      cases hp
      rfl
    · exact ⟨hjournal, fun hc => ⟨(hupkept hc).toTold, fun _ hp => by cases hp⟩⟩
  | paused pause =>
    refine ⟨hjournal, fun hc => ⟨(hupkept hc).toTold, fun other hp => ?_⟩⟩
    cases hp
    exact (hupkept hc).idle pause rfl

section

variable (hdigest : ∀ a b, texts a → texts b → Digest.Distinguishes a b)

include hdigest

/-- Whatever comes of an action keeps what is known exact: nothing is held back that it might have to
wait for before it loads. -/
theorem Ensues.upholds {m : Phase × Session} {r : Session × Outcome Pause Reply}
    (h : Ensues Command.KeepsIds m r) : Upholds texts m.2 r := by
  have hloads : ∀ (t : Session) page forced after,
      Upholds texts t (Session.thenReply (t.loadDocuments page forced) after) := fun t page forced =>
    .thenReply (loadDocuments_alongside t page forced).journal
      (loadDocuments_advances hdigest t page forced)
  induction h with
  | done effects _ reply => exact .done effects.prepares reply
  | raised effects _ f => exact .raised effects.prepares f
  | strands effects => exact .raised effects.prepares _
  | untaught effects => exact .raised effects.prepares _
  | load effects page forced after => exact .after effects.prepares (hloads _ page forced after)
  | reload effects _ after => exact .after effects.prepares (hloads _ (.int 1) true after)
  | @schema _ forced query _ effects held =>
    intro hs
    have hexact := (effects.prepares hs).exact
    exact absurd (congrArg Prod.snd held) (hexact.schema_shown forced query)
  | @request _ sent effects held =>
    intro hs
    have hexact := (effects.prepares hs).exact
    exact absurd held (Bool.eq_false_iff.mp (hexact.isHeld sent.backend))
  | background effects =>
    refine .prepared effects.prepares fun pause hp => ?_
    cases hp
    rfl
  | web _ before waits ih => exact onWeb_upholds ih before waits

/-- Whatever is asked for keeps what is known exact. -/
theorem perform_upholds (s : Session) {command : Command} (hc : command.KeepsIds) :
    Upholds texts s (s.perform command) := (perform_ensues s hc).upholds hdigest

theorem reloadFirst_upholds (s : Session) (after : AfterLoad) :
    Upholds texts s (s.reloadFirst after) := (reloadFirst_ensues s after).upholds hdigest

end

/-! ## Actions that wait -/

/-- An action that has waited for the background has nothing left to load. -/
theorem resume_upholds (s : Session) {pause : Pause} (hidle : pause.isIdle = true) :
    Upholds texts s (s.resume pause) := by
  induction pause with
  | background => exact .done (Still.refl s).prepares _
  | web before waits pause ih => exact onWeb_upholds (ih hidle) before waits
  | _ => cases hidle

/-- What is done after a load changes nothing that is known. -/
theorem Abides.ending (hst : Abides texts s t) (htu : Still t u) : Abides texts s u := by
  intro hs
  obtain ⟨hjournal, htold⟩ := hst hs
  refine ⟨hjournal.trans htu.journal, fun hcovers => ?_⟩
  have hbefore := htold (hcovers.earlier htu.footing htu.journal)
  refine ⟨htu.exact hbefore.exact, fun showing hmem hall => ?_⟩
  rw [since_trans hjournal htu.journal] at hmem
  have hold := (List.mem_append.mp hmem).resolve_right (htu.shown showing)
  exact htu.tells (hbefore.shown showing hold hall)

/-- An action that has to wait is put among those that do. -/
theorem park_abides {r : Session × Outcome Pause Reply} (hr : Upholds texts s r) {pause : Pause}
    (hpause : r.2 = .paused pause) {owner : Owner}
    (hsingle : ∀ c, owner = .client c → c.todo = []) :
    Abides texts s { r.1 with waiting := r.1.waiting ++ [⟨owner, pause⟩] } := by
  intro hs
  obtain ⟨hjournal, hupkept⟩ := hr hs
  refine ⟨hjournal, fun hcovers => ?_⟩
  have hafter := hupkept (hcovers.earlier rfl List.prefix_rfl)
  obtain ⟨hfiled, hcalm, hidle, hrows, hpages, hunfiltered⟩ := hafter.exact
  refine ⟨⟨hfiled, hcalm, fun w hw => ?_, hrows, fun page hpage => ?_, fun n hn => ?_⟩, ?_⟩
  · rcases mem_actions_park hw with hold | rfl
    · exact hidle w hold
    · exact ⟨hafter.idle pause hpause, hsingle⟩
  · exact (hpages page hpage).keep rfl rfl fun _ _ => rfl
  · exact (hunfiltered n hn).keep rfl rfl fun _ _ => rfl
  · exact fun showing hmem hall => (hafter.shown showing hmem hall).keep rfl rfl fun _ _ => rfl

theorem concluded_abides (h : Abides texts s u) (c : Client) : Abides texts s (u.serve c []) :=
  h.ending ⟨.of_browser rfl rfl rfl rfl (fun _ h => h) rfl, rfl, rfl, rfl⟩

/-- Somebody who asks for one thing has it done, or waits. -/
theorem serve_abides {command : Command} (hr : Upholds texts s (s.perform command)) (c : Client) :
    Abides texts s (s.serve c [command]) := by
  unfold serve
  cases hp : s.perform command with
  | mk u outcome =>
    rw [hp] at hr
    cases outcome with
    | done reply => exact concluded_abides hr.abides _
    | raised f => exact concluded_abides hr.abides _
    | paused pause =>
      refine park_abides hr rfl fun other hother => ?_
      cases hother
      rfl

theorem serveAfter_abides {c : Client} (hnone : c.todo = []) {r : Session × Outcome Pause Reply}
    (hr : Upholds texts s r) : Abides texts s (r.1.serveAfter c r.2) := by
  obtain ⟨u, outcome⟩ := r
  unfold serveAfter
  rw [hnone]
  cases outcome with
  | done reply => exact concluded_abides hr.abides _
  | raised f => exact concluded_abides hr.abides _
  | paused pause =>
    refine park_abides hr rfl fun other hother => ?_
    cases hother
    exact hnone

theorem runAfter_abides {r : Session × Outcome Pause Reply} (hr : Upholds texts s r) (run : Nat) :
    Abides texts s (r.1.runAfter run r.2) := by
  obtain ⟨u, outcome⟩ := r
  have hsettled : Abides texts s { u with debouncer := u.debouncer.settled run } :=
    hr.abides.ending ⟨.of_browser rfl rfl rfl rfl (fun _ h => h) rfl, rfl, rfl, rfl⟩
  cases outcome with
  | done reply => exact hsettled
  | raised f => exact hsettled
  | paused pause => exact park_abides hr rfl fun _ hother => by cases hother

end Session

end Folio
