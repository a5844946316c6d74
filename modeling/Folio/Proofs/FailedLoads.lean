-- What a load that fails leaves behind. It learns attributes and makes filters anew; but the page that
-- is shown, the walk and the pages that were kept are not touched before all of an answer has been
-- read.
import Folio.Proofs.StaleAnswers

namespace Folio

/-! ## Browsers that show the same -/

/-- All of a browser that an action must not touch when it fails, but for the query. -/
structure Outlook where
  settings : Settings
  connection : Option String
  collection : Option String
  executor : Option Nat
  cache : PageCache
  paging : Paging
  generation : Nat
  reloadPending : Bool
  view : View
  unfiltered : Option Int
  history : History

namespace Browser

def outlook (b : Browser) : Outlook :=
  ⟨b.settings, b.connection, b.collection, b.executor, b.cache, b.paging, b.generation,
    b.reloadPending, b.view, b.unfiltered, b.history⟩

/-- The second browser shows the same for the same query. -/
structure Unchanged (b c : Browser) : Prop where
  outlook : c.outlook = b.outlook
  config : c.config = b.config

/-- The second browser shows the same, and its query is the same but for filters that were made
anew. -/
structure Intact (b c : Browser) : Prop where
  outlook : c.outlook = b.outlook
  config : b.config.RetypedTo c.config

variable {b c d : Browser}

theorem Unchanged.refl (b : Browser) : b.Unchanged b := ⟨rfl, rfl⟩

theorem Unchanged.trans (h : b.Unchanged c) (h' : c.Unchanged d) : b.Unchanged d :=
  ⟨h'.outlook.trans h.outlook, h'.config.trans h.config⟩

theorem Unchanged.intact (h : b.Unchanged c) : b.Intact c :=
  ⟨h.outlook, h.config ▸ .refl _⟩

theorem Intact.refl (b : Browser) : b.Intact b := (Unchanged.refl b).intact

theorem Intact.trans (h : b.Intact c) (h' : c.Intact d) : b.Intact d :=
  ⟨h'.outlook.trans h.outlook, Relation.ReflTransGen.trans h.config h'.config⟩

theorem Intact.pending (h : b.Intact c) : c.reloadPending = b.reloadPending :=
  congrArg Outlook.reloadPending h.outlook

theorem fail_unchanged (b : Browser) (f : Fault) : b.Unchanged (b.fail f) := ⟨rfl, rfl⟩

theorem rest_unchanged (b : Browser) : b.Unchanged b.rest := ⟨rfl, rfl⟩

theorem begin_unchanged (b : Browser) : b.Unchanged b.begin := ⟨rfl, rfl⟩

theorem retype_intact (b : Browser) : b.Intact b.retype := ⟨rfl, .single ⟨b.registry, rfl⟩⟩

end Browser

/-! ## Faults that nobody has foreseen -/

theorem commit_unforeseen {p : Paging} {move : PageMove} {rows : List Value} {f : Fault}
    (h : p.commit move rows = .error f) : f.unforeseen = true := by
  have hchecked : ∀ last : Value, Checked.orFault (Paging.mk move.page p.pageSize
      <$> (Reader.nullable RowKey.read last).within "next_cursor" <*> p.entered move) = .error f →
      f.unforeseen = true := by
    intro last hlast
    unfold Checked.orFault at hlast
    split at hlast
    · cases hlast
    · cases hlast
      rfl
  unfold Paging.commit at h
  cases hlast : rows.getLast? with
  | none =>
    rw [hlast] at h
    exact hchecked .null h
  | some row =>
    rw [hlast] at h
    dsimp only at h
    cases hkey : Paging.keyOfRow row with
    | ok key =>
      rw [hkey] at h
      exact hchecked key h
    | error failure =>
      rw [hkey] at h
      cases h
      rfl

namespace Session

variable {b : Browser} {s : Session} {load : Load}

/-! ## The parts of a load -/

/-- A load shows rows, or leaves everything as it was. Faults that break it off are none that the
browser reports. -/
inductive Spares (b : Browser) : Session × Outcome LoadPause Bool → Prop where
  | shown {t : Session} (pending : t.browser.reloadPending = b.reloadPending) :
      Spares b (t, .done true)
  | unshown {t : Session} (intact : b.Intact t.browser) : Spares b (t, .done false)
  | waits {t : Session} (intact : b.Intact t.browser) (pause : LoadPause) :
      Spares b (t, .paused pause)
  | broken (t : Session) {f : Fault} (unforeseen : f.unforeseen = true) : Spares b (t, .raised f)

theorem orFault_unforeseen {α : Type} {checked : Checked α} {f : Fault}
    (h : checked.orFault = .error f) : f.unforeseen = true := by
  cases checked with
  | sound a => cases h
  | flawed flaws =>
    cases h
    rfl

theorem Apprised.unchanged {s t : Session} (h : Apprised s t) : s.browser.Unchanged t.browser := by
  obtain ⟨registry, known, rfl⟩ := h
  exact ⟨rfl, rfl⟩

theorem takeSchema_unforeseen {query : SchemaQuery} {f : Fault}
    (h : (s.takeSchema query).2 = .error f) : f.unforeseen = true := by
  unfold takeSchema at h
  cases hschema : s.schemaShown? query with
  | none =>
    rw [hschema] at h
    cases h
  | some schema =>
    rw [hschema] at h
    dsimp only at h
    cases hread : Discovery.ofSchema schema with
    | ok declared =>
      rw [hread] at h
      cases h
    | error failure =>
      rw [hread] at h
      cases h
      rfl

/-- Faults that break a load off are none that the browser reports. -/
theorem BreaksAt.unforeseen {leg : Leg} {f : Fault} (h : BreaksAt s leg load f) :
    f.unforeseen = true := by
  cases h with
  | schema executor taken => exact takeSchema_unforeseen taken
  | taught taken => exact takeSchema_unforeseen taken
  | target => rfl
  | showAgain recalled target found commit => exact commit_unforeseen commit
  | rows => rfl
  | commit read commit => exact commit_unforeseen commit
  | view unread => exact orFault_unforeseen unread

/-- What a load leaves of a browser that it has set out from, on each of its legs. Nothing of an answer
is shown before all of it has been read. -/
def Sparing (b : Browser) (s : Session) : Leg → Prop
  | .turned _ _ _ _ _ _ => s.browser.reloadPending = b.reloadPending
  | .stops _ outcome | .over outcome => Spares b (s, outcome)
  | _ => b.Intact s.browser

theorem Stride.spares {t : Session} {leg next : Leg} (hstride : Stride (s, leg) (t, next))
    (h : Sparing b s leg) : Sparing b t next := by
  have hrests : ∀ c : Browser, s.browser.Unchanged c → b.Intact s.browser → b.Intact c :=
    fun c hc hb => hb.trans hc.intact
  cases hstride with
  | idle => exact .unshown h
  | refuse => exact .unshown (hrests _ (Browser.fail_unchanged _ _) h)
  | begin => exact hrests _ (Browser.begin_unchanged _) h
  | learn known => exact hrests _ (apprised_of_ensure known).unchanged h
  | take taken => exact hrests _ (apprised_of_take taken).unchanged h
  | retype => exact h.trans (Browser.retype_intact s.browser)
  | decide | know | tell => exact h
  | showAgain recalled target found commit =>
    rw [showKept_committed commit]
    exact .shown h.pending
  | count unknown request | ask request =>
    cases request
    exact h
  | hear respond | receive respond =>
    have hintact : b.Intact s.browser := h
    rw [← respond_browser respond] at hintact
    exact hintact
  | turn => exact h.pending
  | @display _ sent load plan _ _ _ view =>
    obtain ⟨cache, hbrowser, -⟩ := showFetched_browser s load plan view
    exact .shown ((congrArg Browser.reloadPending hbrowser).trans h)
  | rest late =>
    cases late <;> exact .unshown (hrests _ (Browser.rest_unchanged _) h)
  | fail fails =>
    cases fails <;> exact .unshown (hrests _ (Browser.fail_unchanged _ _) h)
  | broken breaks => exact .broken s breaks.unforeseen
  | wait waits =>
    cases waits <;> exact .waits h _
  | close _ load outcome =>
    cases h with
    | shown pending => exact .shown pending
    | unshown intact => exact .unshown intact
    | waits intact pause => exact .waits intact pause
    | broken t unforeseen => exact .broken _ unforeseen

/-! ## Loads -/

/-- Where nothing has been put off nothing is taken up. -/
theorem drain_spares {r : Session × Outcome LoadPause Bool} (settled : b.reloadPending = false)
    (h : Spares b r) : Spares b (drain r) := by
  rcases drain_cases r with ⟨t, shown, rfl, hpending, -⟩ | ⟨hsame, -⟩
  · cases h with
    | shown pending =>
      rw [pending, settled] at hpending
      cases hpending
    | unshown intact =>
      rw [intact.pending, settled] at hpending
      cases hpending
  · rw [hsame]
    exact h

theorem beginLoad_spares (h : b.Intact s.browser) (page : Value) (forced : Bool) :
    Spares b (s.beginLoad page forced) :=
  (beginLoad_strides s page forced).keeps (I := Sparing b) (fun hstride => hstride.spares) h

theorem continueLoad_spares (h : b.Intact s.browser) (pause : LoadPause) :
    Spares b (s.continueLoad pause) :=
  (continueLoad_strides s pause).keeps (I := Sparing b) (fun hstride => hstride.spares)
    (by cases pause <;> exact h)

theorem loadDocuments_spares (settled : b.reloadPending = false) (h : b.Intact s.browser)
    (page : Value) (forced : Bool) : Spares b (s.loadDocuments page forced) :=
  drain_spares settled (beginLoad_spares h page forced)

theorem resumeLoad_spares (settled : b.reloadPending = false) (h : b.Intact s.browser)
    (pause : LoadPause) : Spares b (s.resumeLoad pause) :=
  drain_spares settled (continueLoad_spares h pause)

end Session

end Folio
