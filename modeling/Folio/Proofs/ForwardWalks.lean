-- Walks forward. From the first page on each page is entered behind the last document of the one
-- before. Whatever the ranking is, and however filters are made anew on the way, the keys rise, so a
-- walk comes to a page without documents; and there it stays.
import Folio.Proofs.RankedPages
import Folio.Proofs.UntoldAttributes

namespace Folio

namespace Paging

variable {p : Paging}

/-! ## Going on, and staying -/

theorem stacked_first (p : Paging) (rows : List Fields) :
    (p.advance ⟨1, none, .first⟩ rows).Stacked := rfl

theorem Stacked.one_le (h : p.Stacked) : 1 ≤ p.page := by
  unfold Stacked at h
  omega

theorem previous_forward (h : p.Stacked) (key : RowKey) (rows : List Fields) :
    (p.advance ⟨p.page + 1, some key, .forward⟩ rows).previous = p.previous ++ [key] := by
  unfold Stacked at h
  unfold advance
  simp only [if_neg (show ¬ p.page + 1 ≤ 1 by omega), Option.toList_some]
  rw [List.take_of_length_le (by omega)]

theorem stacked_forward (h : p.Stacked) (key : RowKey) (rows : List Fields) :
    (p.advance ⟨p.page + 1, some key, .forward⟩ rows).Stacked := by
  have hprevious := previous_forward h key rows
  unfold Stacked at h ⊢
  rw [hprevious, List.length_append, List.length_singleton]
  show p.page + 1 = _
  omega

/-- A page that was entered behind a key is entered behind it again. -/
theorem entryCursor_forward (h : p.Stacked) (key : RowKey) (rows : List Fields) :
    (p.advance ⟨p.page + 1, some key, .forward⟩ rows).entryCursor (p.page + 1) = some key := by
  have hprevious := previous_forward h key rows
  unfold Stacked at h
  unfold entryCursor
  rw [if_neg (by omega), hprevious, show (p.page + 1 - 2).toNat = p.previous.length by omega,
    List.getElem?_concat_length]

/-- Where no document is shown, nothing is left but to load the page again. -/
theorem plan_reload (h : p.Stacked) (hnext : p.next = none) :
    p.plan (p.page + 1) = ⟨p.page, p.entryCursor p.page, .reload⟩ := by
  have hpage := h.one_le
  rw [plan_of_page_lt (by omega) (by omega), hnext]

theorem Stacked.entry (h : p.Stacked) : p.page ≤ 1 ∨ (p.entryCursor p.page).isSome := by
  by_cases hfirst : p.page ≤ 1
  · exact .inl hfirst
  · obtain ⟨key, -, hkey⟩ := h.entryCursor (by omega) le_rfl
    exact .inr (hkey ▸ rfl)

/-- A page without documents that is loaded again leaves the walk where it stands. -/
theorem advance_reload (h : p.Stacked) (hnext : p.next = none) :
    p.advance ⟨p.page, p.entryCursor p.page, .reload⟩ [] = p := by
  have hprevious : (if p.page ≤ 1 then [] else
      p.previous.take (p.page - 2).toNat ++ (p.entryCursor p.page).toList) = p.previous := by
    unfold Stacked at h
    split
    · exact (List.eq_nil_of_length_eq_zero (by omega)).symm
    · rename_i hlater
      unfold entryCursor
      rw [if_neg hlater, ← List.take_add_one, List.take_of_length_le (by omega)]
  unfold advance
  simp only [hprevious, List.getLast?_nil, Option.map_none, ← hnext]

end Paging

namespace Session

open Collection

variable {s : Session} {collection : String} {docs : List Fields} {lifetime : Float}
  {start : Option RowKey}

/-! ## One page -/

/-- A query can be asked for, and the documents that pass are ranked from the start and behind every
key without a failure. -/
def Evaluates (c : QueryConfig) (registry : Registry) (docs : List Fields) : Prop :=
  ∃ ranking, Query.compileRank c registry = .ok ranking ∧
    ∀ start, (∀ key, start = some key → ∃ d ∈ docs, key = rowKey d) →
      ∃ all, ranked docs (Query.compileFilters c) ranking start = .ok all

/-- Documents of a page that was entered behind a key, or is the first. -/
structure EnteredAt (docs : List Fields) (start : Option RowKey) (rows : List Fields) : Prop where
  keys : ∀ d ∈ rows, d.get "id" = (rowKey d).toValue
  documents : ∀ d ∈ rows, ∃ e ∈ docs, rowKey e = rowKey d
  behind : ∀ key, start = some key → ∀ d ∈ rows, key.before (rowKey d) = true
  once : (rows.map rowKey).Nodup

theorem EnteredAt.take {rows : List Fields} (h : EnteredAt docs start rows) (size : Nat) :
    EnteredAt docs start (rows.take size) where
  keys := fun d hd => h.keys d (List.mem_of_mem_take hd)
  documents := fun d hd => h.documents d (List.mem_of_mem_take hd)
  behind := fun key hkey d hd => h.behind key hkey d (List.mem_of_mem_take hd)
  once := ((List.take_sublist size rows).map rowKey).nodup h.once

theorem enteredAt_of_ranked {matching all : List Fields} {filter ranking : Value}
    (hkeyed : Keyed docs) (hinside : ∀ key, start = some key → ∃ d ∈ docs, key = rowKey d)
    (hpassing : select filter docs = .ok matching)
    (hranked : ranked docs filter ranking start = .ok all) : EnteredAt docs start all := by
  have hperm := ranked_perm hkeyed hinside hpassing hranked
  have hsub : (start.elim matching (behind · matching)).Sublist docs := by
    cases start with
    | none => exact select_sublist hpassing
    | some key => exact List.filter_sublist.trans (select_sublist hpassing)
  have hmem : ∀ e ∈ all, ∃ d ∈ start.elim matching (behind · matching), noted ranking d = e :=
    fun e he => List.mem_map.mp (hperm.mem_iff.mp he)
  refine ⟨fun e he => ?_, fun e he => ?_, fun key hkey e he => ?_, ?_⟩
  · obtain ⟨d, hd, rfl⟩ := hmem e he
    rw [noted_get_id, rowKey_noted, hkeyed.get_id (hsub.subset hd)]
  · obtain ⟨d, hd, rfl⟩ := hmem e he
    exact ⟨d, hsub.subset hd, (rowKey_noted _ _).symm⟩
  · obtain ⟨d, hd, rfl⟩ := hmem e he
    subst hkey
    rw [rowKey_noted]
    exact (List.mem_filter.mp hd).2
  · have hsame : ((start.elim matching (behind · matching)).map (noted ranking)).map rowKey =
        (start.elim matching (behind · matching)).map rowKey := by
      rw [List.map_map]
      exact List.map_congr_left fun d _ => rowKey_noted _ d
    rw [(hperm.map rowKey).nodup_iff, hsame]
    exact List.pairwise_map.mpr (hkeyed.sublist hsub).rowKey_ne

/-- The documents that are ranked are those that pass behind the key. -/
theorem length_of_ranked {all : List Fields} {filter ranking : Value}
    (h : ranked docs filter ranking start = .ok all) :
    ∃ passing, select (Query.withCursor filter start) docs = .ok passing ∧
      all.length = passing.length := by
  unfold ranked at h
  cases hselect : select (Query.withCursor filter start) docs with
  | error f =>
    rw [hselect] at h
    cases h
  | ok passing =>
    rw [hselect] at h
    exact ⟨passing, rfl, (rank_perm h).length_eq.trans (List.length_map _)⟩

/-- A browser at rest, about to load a page of documents. -/
structure Prepared (s : Session) (collection : String) (docs : List Fields) (lifetime : Float) :
    Prop where
  quiet : Quiet s
  looks : LooksAt s collection docs
  rows : s.browser.config.aggregates = false
  candid : s.Candid collection
  lifetime : s.browser.cache.lifetime = lifetime

/-- What comes of a load that is forced. -/
structure Fetches (s : Session) (docs : List Fields) (move : PageMove) (start : Option RowKey)
    (after : Session) : Prop where
  config : after.browser.config = s.informed.browser.config
  paging : after.browser.paging = s.browser.paging.advance move after.browser.view.rows
  page : EnteredAt docs start after.browser.view.rows
  length : ∃ passing, select (Query.withCursor (Query.compileFilters s.informed.browser.config) start)
    docs = .ok passing ∧
    after.browser.view.rows.length = min s.browser.paging.pageSize.toNat passing.length
  /-- From a page without documents nothing is learned. -/
  blank : after.browser.view.rows = [] → ∃ paging total page,
    Noted (s.informed.showing s.informed.browser.config paging [] total
      (s.informed.browser.cache.put page)) after

theorem informed_aggregates (hl : LooksAt s collection docs) :
    s.informed.browser.config.aggregates = s.browser.config.aggregates := by
  obtain ⟨t, ht, _, _, _, _, _, _, rfl⟩ := ensureAttributes_learned hl
  unfold informed
  rw [ht]
  rfl

theorem ask_fetches_page (client : Nat) {page : Int} {move : PageMove}
    (hs : s.Prepared collection docs lifetime) (hkeyed : Keyed docs) (he : Enters s page move)
    (hstart : (if move.page > 1 then move.cursor else none) = start)
    (hinside : ∀ key, start = some key → ∃ d ∈ docs, key = rowKey d)
    (hevaluates : Evaluates s.informed.browser.config s.informed.browser.registry docs) :
    (s.ask client (.load (.int page) true)).Prepared collection docs lifetime ∧
      Fetches s docs move start (s.ask client (.load (.int page) true)) := by
  obtain ⟨ranking, hrank, hall⟩ := hevaluates
  obtain ⟨c, hc⟩ : ∃ c, s.informed.browser.config = c := ⟨_, rfl⟩
  have hrows : c.aggregates = false := hc ▸ (informed_aggregates hs.looks).trans hs.rows
  obtain ⟨hcandid, hundeclared⟩ := informed_candid hs.looks hs.candid
  have hcache : s.informed.browser.cache = s.browser.cache := by
    obtain ⟨_, _, _, _, _, _, hsame⟩ := informed_learned hs.looks
    rw [hsame]
    rfl
  rw [hc] at hrank hall
  have hf : Finds s c ranking := ⟨hc, hrank⟩
  obtain ⟨all, hranked⟩ := hall start hinside
  obtain ⟨whole, hwhole⟩ := hall none fun _ h => by cases h
  obtain ⟨matching, hpassing, -⟩ := length_of_ranked hwhole
  obtain ⟨passing, hselect, hlength⟩ := length_of_ranked hranked
  have hentered := enteredAt_of_ranked hkeyed hinside hpassing hranked
  have hexact := ask_fetches client hs.quiet hs.looks hf he hrows (.inl rfl)
    (fun d hd => hkeyed.get_id hd) hpassing (hstart ▸ hranked) hentered.keys
  have hlearned := (hf.showing_learned hs.looks _ _ _ _).trans hexact.learned
  generalize s.ask client (.load (.int page) true) = after at hexact hlearned ⊢
  have hafter : after.Candid collection := hcandid.shown hundeclared hexact
  obtain ⟨hprepared, hconfig, hpaging, hshown⟩ : after.Prepared collection docs lifetime ∧
      after.browser.config = c ∧
      after.browser.paging = s.browser.paging.advance move after.browser.view.rows ∧
      after.browser.view.rows = all.take s.browser.paging.pageSize.toNat := by
    obtain ⟨_, _, _, _, _, _, rfl⟩ := hlearned
    exact ⟨⟨⟨hs.quiet.ready, hs.quiet.waiting, rfl, hs.quiet.settled⟩,
      ⟨hs.looks.current, hs.looks.answering⟩, hrows, hafter, hs.lifetime⟩, rfl, rfl, rfl⟩
  refine ⟨hprepared, hconfig.trans hc.symm, hpaging, hshown ▸ hentered.take _,
    ⟨passing, hc ▸ hselect, ?_⟩, fun hnil => ?_⟩
  · rw [hshown, List.length_take, hlength]
  · rw [← hshown, hnil] at hexact
    exact ⟨_, _, _, hc ▸ hcache ▸ hexact⟩

/-! ## The turns of a walk -/

section

variable {turns : Nat → Turn} {k n : Nat}

/-- The session at the time of a turn. -/
def atTurn (s : Session) (turns : Nat → Turn) (k : Nat) : Session :=
  { s.walk turns k with clock := (turns k).clock }

/-- A walk from page to page in a collection: the browser is at rest, time goes on, no page is taken
as it was kept, and as long as documents are shown the query that is found can be evaluated. -/
structure WalksForward (s : Session) (turns : Nat → Turn) (collection : String) (docs : List Fields) :
    Prop where
  keyed : Keyed docs
  prepared : s.Prepared collection docs s.browser.cache.lifetime
  forced : ∀ k, (turns k).forced = true
  ages : Ages s.browser.cache.lifetime fun k => (turns k).clock
  evaluates : ∀ k, (∀ j < k, s.walked turns j ≠ []) →
    Evaluates (s.atTurn turns k).informed.browser.config
      (s.atTurn turns k).informed.browser.registry docs

/-- The key behind which a page of a walk is entered. -/
def boundary (s : Session) (turns : Nat → Turn) : Nat → Option RowKey
  | 0 => none
  | k + 1 => (s.walked turns k).getLast?.map rowKey

/-- The step to the next page after one of a walk. -/
def ahead (s : Session) (turns : Nat → Turn) (k : Nat) : PageMove :=
  let p := (s.walk turns (k + 1)).browser.paging
  p.plan (p.page + 1)

theorem Prepared.atTurn (h : (s.walk turns k).Prepared collection docs lifetime) :
    (s.atTurn turns k).Prepared collection docs lifetime :=
  ⟨⟨h.quiet.ready, h.quiet.waiting, h.quiet.idle, h.quiet.settled⟩,
    ⟨h.looks.current, h.looks.answering⟩, h.rows, h.candid, h.lifetime⟩

theorem Endures.atTurn {times : Nat → Float} {i : Nat}
    (h : (s.walk turns k).Endures collection times i) : (s.atTurn turns k).Endures collection times i :=
  ⟨h.candid, h.made, h.lasting.imp_right fun hblind =>
    ⟨hblind.unknown, hblind.undeclared, hblind.forgotten⟩⟩

/-- What holds when a page has been shown, and only pages with documents before it. -/
structure Turned (s : Session) (turns : Nat → Turn) (collection : String) (docs : List Fields)
    (k : Nat) : Prop where
  prepared : (s.walk turns (k + 1)).Prepared collection docs s.browser.cache.lifetime
  stacked : (s.walk turns (k + 1)).browser.paging.Stacked
  page : (s.walk turns (k + 1)).browser.paging.page = k + 1
  entry : (s.walk turns (k + 1)).browser.paging.entryCursor (k + 1) = s.boundary turns k
  next : (s.walk turns (k + 1)).browser.paging.next = s.boundary turns (k + 1)
  rows : EnteredAt docs (s.boundary turns k) (s.walked turns k)
  inside : ∀ key, s.boundary turns k = some key → ∃ d ∈ docs, key = rowKey d
  length : ∃ passing, select (Query.withCursor
      (Query.compileFilters (s.walk turns (k + 1)).browser.config) (s.boundary turns k)) docs =
      .ok passing ∧ (s.walked turns k).length =
        min (s.walk turns (k + 1)).browser.paging.pageSize.toNat passing.length
  endures : s.walked turns k = [] →
    (s.walk turns (k + 1)).Endures collection (fun k => (turns k).clock) (k + 1) ∧
      Evaluates (s.walk turns (k + 1)).browser.config (s.walk turns (k + 1)).browser.registry docs

/-- From a page without documents the query endures. -/
theorem Fetches.endures {move : PageMove} {start : Option RowKey} {after : Session}
    (h : WalksForward s turns collection docs) (hs : (s.walk turns k).Prepared collection docs
      s.browser.cache.lifetime) (hfetches : Fetches (s.atTurn turns k) docs move start after)
    (hevaluates : Evaluates (s.atTurn turns k).informed.browser.config
      (s.atTurn turns k).informed.browser.registry docs)
    (hnil : after.browser.view.rows = []) :
    after.Endures collection (fun k => (turns k).clock) (k + 1) ∧
      Evaluates after.browser.config after.browser.registry docs := by
  obtain ⟨paging, total, page, hnoted⟩ := hfetches.blank hnil
  have hages : Ages (s.atTurn turns k).browser.cache.lifetime fun k => (turns k).clock :=
    hs.atTurn.lifetime ▸ h.ages
  have hendures := informed_endures hs.atTurn.looks hs.atTurn.candid hages rfl
  refine ⟨((hendures.showing _ _ _ _ _).noted hnoted).later (Nat.le_succ k), ?_⟩
  have hregistry : after.browser.registry = (s.atTurn turns k).informed.browser.registry := by
    obtain ⟨_, _, _, _, rfl⟩ := hnoted
    rfl
  rw [hfetches.config, hregistry]
  exact hevaluates

theorem turned_of_move {page : Int} {move : PageMove} (h : WalksForward s turns collection docs)
    (hne : ∀ j < k, s.walked turns j ≠ [])
    (hs : (s.walk turns k).Prepared collection docs s.browser.cache.lifetime)
    (hturn : s.walk turns (k + 1) =
      (s.atTurn turns k).ask (turns k).client (.load (.int page) (turns k).forced))
    (he : Enters (s.atTurn turns k) page move) (hpage : move.page = k + 1)
    (hstart : (if move.page > 1 then move.cursor else none) = s.boundary turns k)
    (hinside : ∀ key, s.boundary turns k = some key → ∃ d ∈ docs, key = rowKey d)
    (hstacked : ∀ rows, ((s.walk turns k).browser.paging.advance move rows).Stacked ∧
      ((s.walk turns k).browser.paging.advance move rows).entryCursor (k + 1) =
        s.boundary turns k) :
    Turned s turns collection docs k := by
  rw [h.forced] at hturn
  have hevaluates := h.evaluates k hne
  obtain ⟨hprepared, hfetches⟩ :=
    ask_fetches_page (turns k).client hs.atTurn h.keyed he hstart hinside hevaluates
  rw [← hturn] at hprepared hfetches
  have hpaging : (s.walk turns (k + 1)).browser.paging =
    (s.walk turns k).browser.paging.advance move (s.walked turns k) := hfetches.paging
  refine ⟨hprepared, ?_, ?_, ?_, ?_, hfetches.page, hinside, ?_,
    hfetches.endures h hs hevaluates⟩
  · rw [hpaging]
    exact (hstacked _).1
  · rw [hpaging]
    exact hpage
  · rw [hpaging]
    exact (hstacked _).2
  · rw [hpaging]
    rfl
  · obtain ⟨passing, hselect, hlength⟩ := hfetches.length
    rw [hfetches.config, hpaging]
    exact ⟨passing, hselect, hlength⟩

theorem turned_first (h : WalksForward s turns collection docs) : Turned s turns collection docs 0 :=
  turned_of_move h (fun _ hj => absurd hj (Nat.not_lt_zero _)) h.prepared rfl ⟨rfl, .inl le_rfl⟩ rfl
    rfl (fun _ hkey => by cases hkey) fun rows => ⟨Paging.stacked_first _ rows, rfl⟩

/-- Behind a page with documents the next one is entered. -/
theorem Turned.forward (ht : Turned s turns collection docs k) (hne : s.walked turns k ≠ []) :
    ∃ key, s.boundary turns (k + 1) = some key ∧ (∃ d ∈ docs, key = rowKey d) ∧
      s.ahead turns k = ⟨(k + 2 : Nat), some key, .forward⟩ := by
  obtain ⟨d, hd⟩ := Option.ne_none_iff_exists'.mp (mt List.getLast?_eq_none_iff.mp hne)
  obtain ⟨e, he, hkey⟩ := ht.rows.documents d (List.mem_of_getLast? hd)
  have hboundary : s.boundary turns (k + 1) = some (rowKey d) := by
    show (s.walked turns k).getLast?.map rowKey = _
    rw [hd]
    rfl
  refine ⟨rowKey d, hboundary, ⟨e, he, hkey.symm⟩, ?_⟩
  show Paging.plan _ _ = _
  rw [Paging.plan_forward ht.stacked.one_le (ht.next.trans hboundary), ht.page]
  rfl

theorem Turned.succ (h : WalksForward s turns collection docs)
    (ht : Turned s turns collection docs k) (hne : ∀ j < k + 1, s.walked turns j ≠ []) :
    Turned s turns collection docs (k + 1) := by
  obtain ⟨key, hboundary, hinside, -⟩ := ht.forward (hne k (Nat.lt_succ_self k))
  have hnext := ht.next.trans hboundary
  have hpage := ht.page
  refine turned_of_move h hne ht.prepared rfl
    ⟨Paging.plan_forward ht.stacked.one_le hnext, .inr rfl⟩ ?_ ?_ (fun other hother => ?_)
    fun rows => ⟨Paging.stacked_forward ht.stacked key rows, ?_⟩
  · show (s.walk turns (k + 1)).browser.paging.page + 1 = _
    rw [hpage]
    rfl
  · rw [hboundary]
    exact if_pos (show (s.walk turns (k + 1)).browser.paging.page + 1 > 1 by omega)
  · rw [hboundary] at hother
    cases hother
    exact hinside
  · have hcast : ((k + 1 : Nat) : Int) + 1 = (s.walk turns (k + 1)).browser.paging.page + 1 := by
      rw [hpage]
      rfl
    rw [hboundary, hcast]
    exact Paging.entryCursor_forward ht.stacked key rows

/-- As long as documents are shown, pages are turned. -/
theorem turned (h : WalksForward s turns collection docs) (hne : ∀ j < k, s.walked turns j ≠ []) :
    Turned s turns collection docs k := by
  induction k with
  | zero => exact turned_first h
  | succ k ih =>
    exact (ih fun j hj => hne j (Nat.lt_succ_of_lt hj)).succ h hne

theorem rising_of_filled (h : WalksForward s turns collection docs)
    (hne : ∀ j < n, s.walked turns j ≠ []) : Rising docs (s.walked turns) n where
  filled := hne
  documents := fun k hk => (turned h fun j hj => hne j (hj.trans hk)).rows.documents
  rises := fun k hk c e hc he => by
    have ht : Turned s turns collection docs (k + 1) := turned h fun j hj => hne j (hj.trans hk)
    refine ht.rows.behind (rowKey c) ?_ e he
    show (s.walked turns k).getLast?.map rowKey = _
    rw [hc]
    rfl

/-! ## The end of a walk -/

/-- What holds from the first page without documents on. -/
structure Resting (s : Session) (turns : Nat → Turn) (collection : String) (docs : List Fields)
    (p : Paging) (k : Nat) : Prop where
  prepared : (s.walk turns (k + 1)).Prepared collection docs s.browser.cache.lifetime
  paging : (s.walk turns (k + 1)).browser.paging = p
  stacked : p.Stacked
  next : p.next = none
  inside : ∀ key, p.entryCursor p.page = some key → ∃ d ∈ docs, key = rowKey d
  rows : s.walked turns k = []
  nothing : ∃ passing, select (Query.withCursor
    (Query.compileFilters (s.walk turns (k + 1)).browser.config) (p.entryCursor p.page)) docs =
    .ok passing ∧ min p.pageSize.toNat passing.length = 0
  endures : (s.walk turns (k + 1)).Endures collection (fun k => (turns k).clock) (k + 1)
  evaluates : Evaluates (s.walk turns (k + 1)).browser.config
    (s.walk turns (k + 1)).browser.registry docs

theorem Turned.resting (ht : Turned s turns collection docs n) (hnil : s.walked turns n = []) :
    Resting s turns collection docs (s.walk turns (n + 1)).browser.paging n := by
  have hentry : (s.walk turns (n + 1)).browser.paging.entryCursor
      (s.walk turns (n + 1)).browser.paging.page = s.boundary turns n := by
    rw [ht.page]
    exact ht.entry
  obtain ⟨passing, hselect, hlength⟩ := ht.length
  obtain ⟨hendures, hevaluates⟩ := ht.endures hnil
  rw [hnil, List.length_nil] at hlength
  refine ⟨ht.prepared, rfl, ht.stacked, ?_, hentry ▸ ht.inside, hnil,
    ⟨passing, hentry ▸ hselect, hlength.symm⟩, hendures, hevaluates⟩
  rw [ht.next]
  show (s.walked turns n).getLast?.map rowKey = none
  rw [hnil]
  rfl

/-- The next turn is another load of the page, which finds the query as it was. -/
theorem Resting.succ {p : Paging} (h : WalksForward s turns collection docs)
    (hr : Resting s turns collection docs p k) : Resting s turns collection docs p (k + 1) := by
  have hplan : (s.atTurn turns (k + 1)).browser.paging.plan (p.page + 1) =
      ⟨p.page, p.entryCursor p.page, .reload⟩ := by
    show (s.walk turns (k + 1)).browser.paging.plan _ = _
    rw [hr.paging]
    exact Paging.plan_reload hr.stacked hr.next
  have hstart : (if p.page > 1 then p.entryCursor p.page else none) = p.entryCursor p.page := by
    unfold Paging.entryCursor
    split
    · rfl
    · rw [if_pos (by omega)]
  have hturn : s.walk turns (k + 1 + 1) = (s.atTurn turns (k + 1)).ask (turns (k + 1)).client
      (.load (.int (p.page + 1)) true) := by
    rw [← h.forced (k + 1), ← hr.paging]
    rfl
  obtain ⟨hfound, hregistry⟩ := hr.endures.atTurn.informed_same hr.prepared.atTurn.looks rfl
  have hevaluates : Evaluates (s.atTurn turns (k + 1)).informed.browser.config
      (s.atTurn turns (k + 1)).informed.browser.registry docs := by
    rw [hfound, hregistry]
    exact hr.evaluates
  obtain ⟨hprepared, hfetches⟩ := ask_fetches_page (turns (k + 1)).client hr.prepared.atTurn h.keyed
    ⟨hplan, hr.stacked.entry⟩ hstart hr.inside hevaluates
  rw [← hturn] at hprepared hfetches
  obtain ⟨passing, hselect, hnone⟩ := hr.nothing
  have hnil : s.walked turns (k + 1) = [] := by
    obtain ⟨again, hagain, hlength⟩ := hfetches.length
    rw [hfound] at hagain
    cases hselect.symm.trans hagain
    refine List.eq_nil_of_length_eq_zero (hlength.trans ?_)
    rw [← hr.paging] at hnone
    exact hnone
  obtain ⟨hendures, hstill⟩ := hfetches.endures h hr.prepared hevaluates hnil
  refine ⟨hprepared, ?_, hr.stacked, hr.next, hr.inside, hnil,
    ⟨passing, (hfetches.config.trans hfound) ▸ hselect, hnone⟩, hendures, hstill⟩
  rw [hfetches.paging, show (s.walk turns (k + 1 + 1)).browser.view.rows = [] from hnil]
  show (s.walk turns (k + 1)).browser.paging.advance _ [] = p
  rw [hr.paging]
  exact Paging.advance_reload hr.stacked hr.next

/-- From the first page without documents on there are no others. -/
theorem resting (h : WalksForward s turns collection docs) (hne : ∀ j < n, s.walked turns j ≠ [])
    (hnil : s.walked turns n = []) (hk : n ≤ k) :
    Resting s turns collection docs (s.walk turns (n + 1)).browser.paging k := by
  induction k, hk using Nat.le_induction with
  | base => exact (turned h hne).resting hnil
  | succ k _ ih => exact ih.succ h

/-- A walk that comes to an end after some pages with documents. -/
structure WalkEnds (s : Session) (turns : Nat → Turn) (docs : List Fields) (n : Nat) : Prop where
  filled : ∀ k < n, s.walked turns k ≠ []
  /-- Behind each of these pages the next one is entered by a key. -/
  forward : ∀ k < n, ∃ key, s.ahead turns k = ⟨(k + 2 : Nat), some key, .forward⟩
  rising : ∀ j k a b, j < k → k < n → (s.ahead turns j).cursor = some a →
    (s.ahead turns k).cursor = some b → a.before b = true
  behind : ∀ k < n, ∀ key, (s.ahead turns k).cursor = some key →
    ∀ d ∈ s.walked turns (k + 1), key.before (rowKey d) = true
  documents : ∀ k, ∀ d ∈ s.walked turns k,
    d.get "id" = (rowKey d).toValue ∧ ∃ e ∈ docs, rowKey e = rowKey d
  once : ∀ k, ((s.walked turns k).map rowKey).Nodup
  /-- Then no document is shown any more, and no other page is gone to. -/
  finished : ∀ k, n ≤ k → s.walked turns k = [] ∧
    ∃ entry, s.ahead turns k = ⟨(n + 1 : Nat), entry, .reload⟩

/-- The keys by which pages with documents are left rise. -/
theorem boundary_rises (h : WalksForward s turns collection docs)
    (hne : ∀ j < n, s.walked turns j ≠ []) {j : Nat} {a b : RowKey} (hjk : j < k) (hk : k < n)
    (ha : s.boundary turns (j + 1) = some a) (hb : s.boundary turns (k + 1) = some b) :
    a.before b = true := by
  have hstep : ∀ i c d, i + 1 < n → s.boundary turns (i + 1) = some c →
      s.boundary turns (i + 2) = some d → c.before d = true := by
    intro i c d hi hc hd
    obtain ⟨last, hlast, rfl⟩ := Option.map_eq_some_iff.mp hd
    exact (turned h fun j hj => hne j (hj.trans hi)).rows.behind c hc last
      (List.mem_of_getLast? hlast)
  induction k, hjk using Nat.le_induction generalizing b with
  | base => exact hstep j a b hk ha hb
  | succ k hjk ih =>
    obtain ⟨c, hc, -⟩ := (turned (k := k) h fun j hj => hne j (by omega)).forward (hne k (by omega))
    exact RowKey.before_trans (ih (by omega) hc) (hstep k c b hk hc hb)

/-- A walk forward comes to an end, at the latest when as many pages have been shown as there are
documents. -/
theorem forward_walk_ends (h : WalksForward s turns collection docs) :
    ∃ n ≤ docs.length, WalkEnds s turns docs n := by
  obtain ⟨n, hle, hne, hnil⟩ := exists_first_empty fun n => rising_of_filled (n := n) h
  have hturned : ∀ k ≤ n, Turned s turns collection docs k := fun k hk =>
    turned h fun j hj => hne j (by omega)
  have hrows : ∀ k, EnteredAt docs (s.boundary turns k) (s.walked turns k) := by
    intro k
    rcases Nat.le_total k n with hk | hk
    · exact (hturned k hk).rows
    · rw [(resting h hne hnil hk).rows]
      exact ⟨fun _ hd => absurd hd List.not_mem_nil, fun _ hd => absurd hd List.not_mem_nil,
        fun _ _ _ hd => absurd hd List.not_mem_nil, List.nodup_nil⟩
  have hcursor : ∀ k < n, (s.ahead turns k).cursor = s.boundary turns (k + 1) := by
    intro k hk
    obtain ⟨key, hboundary, -, hahead⟩ := (hturned k hk.le).forward (hne k hk)
    rw [hahead, hboundary]
  refine ⟨n, hle, hne, fun k hk => ?_, fun j k a b hjk hk ha hb => ?_, fun k hk key hkey => ?_,
    fun k d hd => ⟨(hrows k).keys d hd, (hrows k).documents d hd⟩, fun k => (hrows k).once,
    fun k hk => ?_⟩
  · obtain ⟨key, -, -, hahead⟩ := (hturned k hk.le).forward (hne k hk)
    exact ⟨key, hahead⟩
  · rw [hcursor j (hjk.trans hk)] at ha
    rw [hcursor k hk] at hb
    exact boundary_rises h hne hjk hk ha hb
  · rw [hcursor k hk] at hkey
    exact (hrows (k + 1)).behind key hkey
  · have hr := resting h hne hnil hk
    refine ⟨hr.rows, (s.walk turns (n + 1)).browser.paging.entryCursor (n + 1), ?_⟩
    show Paging.plan _ _ = _
    rw [hr.paging, Paging.plan_reload hr.stacked hr.next, (hturned n le_rfl).page]
    rfl

/-- Two documents are walked through by falling keys, one on a page. -/
theorem falling_walks_forward : WalksForward RankedQuery.fallingSession (fun _ => ⟨0.0, 1, true⟩)
    "docs" RankedQuery.risingDocs where
  keyed := RankedQuery.fallingQuery.keyed
  prepared := ⟨RankedQuery.fallingSession_fresh.quiet, RankedQuery.fallingSession_fresh.looks, rfl,
    (fun _ hrecord => by cases hrecord), rfl⟩
  forced := fun _ => rfl
  ages := fun _ _ _ _ hfresh => hfresh
  evaluates := fun k hne => by
    obtain ⟨hquery, hrank⟩ := RankedQuery.falling_found _ k hne
    unfold atTurn
    rw [hquery]
    exact ⟨_, hrank, fun start hinside => ⟨_, RankedQuery.falling_evaluated start hinside⟩⟩

theorem falling_walk_ends :
    ∃ n ≤ 2, WalkEnds RankedQuery.fallingSession (fun _ => ⟨0.0, 1, true⟩) RankedQuery.risingDocs n :=
  forward_walk_ends falling_walks_forward

end

end Session

end Folio
