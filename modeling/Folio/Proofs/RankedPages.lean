-- Pages under any ranking. A page is entered behind the key of the last document shown, whatever the
-- ranking. So the pages lose documents or show them twice, unless each of them goes on where the
-- ranking was left.
import Folio.Proofs.Calls
import Folio.Proofs.Fingerprints
import Folio.Proofs.Ranking
import Folio.Proofs.Visits
import Mathlib.Data.List.Nodup
import Mathlib.Data.Nat.Find

namespace Folio

namespace Collection

variable {docs : List Fields}

/-! ## Documents ranked behind a key -/

/-- Behind a key, or from the start, the matching documents there are ranked. -/
theorem ranked_perm {matching all : List Fields} {filter ranking : Value} {start : Option RowKey}
    (hkeyed : Keyed docs) (hinside : ∀ key, start = some key → ∃ d ∈ docs, key = rowKey d)
    (hpassing : select filter docs = .ok matching)
    (h : ranked docs filter ranking start = .ok all) :
    all.Perm ((start.elim matching (behind · matching)).map (noted ranking)) := by
  unfold ranked at h
  cases start with
  | none =>
    unfold Query.withCursor at h
    rw [hpassing] at h
    exact rank_perm h
  | some key =>
    obtain ⟨d, hd, rfl⟩ := hinside key rfl
    rw [select_withCursor hpassing (fun e he => hkeyed.get_id he) (hkeyed.ofKind hd)] at h
    exact rank_perm h

/-! ## Pages behind pages -/

/-- Pages of documents, each of which stands behind the last document of the page before. -/
structure Rising (docs : List Fields) (pages : Nat → List Fields) (n : Nat) : Prop where
  filled : ∀ k < n, pages k ≠ []
  documents : ∀ k < n, ∀ e ∈ pages k, ∃ d ∈ docs, rowKey d = rowKey e
  rises : ∀ k, k + 1 < n → ∀ c e, (pages k).getLast? = some c → e ∈ pages (k + 1) →
    (rowKey c).before (rowKey e) = true

/-- With every page fewer documents are left behind its last key. -/
theorem Rising.length_behind {pages : Nat → List Fields} {n k : Nat} {d : Fields}
    (h : Rising docs pages n) (hk : k < n) (hlast : (pages k).getLast? = some d) :
    (behind (rowKey d) docs).length + (k + 1) ≤ docs.length := by
  obtain ⟨f, hf, hkey⟩ := h.documents k hk d (List.mem_of_getLast? hlast)
  have hno : (rowKey d).before (rowKey f) = false := hkey ▸ RowKey.before_irrefl _
  induction k generalizing d f with
  | zero =>
    have hlt := length_behind_lt hf hno
    omega
  | succ k ih =>
    obtain ⟨c, hc⟩ := Option.ne_none_iff_exists'.mp
      (mt List.getLast?_eq_none_iff.mp (h.filled k (by omega)))
    obtain ⟨e, he, hekey⟩ := h.documents k (by omega) c (List.mem_of_getLast? hc)
    have hrest := ih (by omega) hc e he hekey (hekey ▸ RowKey.before_irrefl _)
    have hbefore := h.rises k hk c d hc (List.mem_of_getLast? hlast)
    have hmem : f ∈ behind (rowKey c) docs := List.mem_filter.mpr ⟨hf, by rwa [hkey]⟩
    have hlt := length_behind_lt hmem hno
    rw [behind_behind hbefore] at hlt
    omega

/-- So there are no more such pages than documents. -/
theorem Rising.le_length {pages : Nat → List Fields} {n : Nat} (h : Rising docs pages n) :
    n ≤ docs.length := by
  cases n with
  | zero => exact Nat.zero_le _
  | succ n =>
    obtain ⟨d, hd⟩ := Option.ne_none_iff_exists'.mp
      (mt List.getLast?_eq_none_iff.mp (h.filled n (Nat.lt_succ_self n)))
    have := h.length_behind (Nat.lt_succ_self n) hd
    omega

/-- The first page without documents. -/
theorem exists_first_empty {pages : Nat → List Fields}
    (h : ∀ n, (∀ k < n, pages k ≠ []) → Rising docs pages n) :
    ∃ n ≤ docs.length, (∀ k < n, pages k ≠ []) ∧ pages n = [] := by
  have hsome : ∃ n, pages n = [] := by
    by_contra hnone
    have := (h (docs.length + 1) fun k _ hk => hnone ⟨k, hk⟩).le_length
    omega
  classical
  have hfilled : ∀ k < Nat.find hsome, pages k ≠ [] := fun k hk => Nat.find_min hsome hk
  exact ⟨Nat.find hsome, (h _ hfilled).le_length, hfilled, Nat.find_spec hsome⟩

end Collection

/-- The next page is entered behind the last document shown. -/
theorem Paging.plan_forward {p : Paging} {key : RowKey} (hpage : 1 ≤ p.page)
    (hnext : p.next = some key) : p.plan (p.page + 1) = ⟨p.page + 1, some key, .forward⟩ := by
  rw [plan_of_page_lt (by omega) (by omega), hnext]

namespace Session

open Collection

/-! ## Walking from page to page -/

/-- One turn to the next page: when it is made, by whom, and whether kept pages are passed over. -/
structure Turn where
  clock : Float
  client : Nat
  forced : Bool

/-- The session when the first pages have been asked for, from the first one on: each time the page
behind the one shown. -/
def walk (s : Session) (turns : Nat → Turn) : Nat → Session
  | 0 => s
  | k + 1 =>
    let before := s.walk turns k
    before.call ⟨(turns k).clock, (turns k).client,
      if k = 0 then 1 else before.browser.paging.page + 1, (turns k).forced⟩

/-- The documents that one page of a walk shows; the first is page 0 here. -/
def walked (s : Session) (turns : Nat → Turn) (k : Nat) : List Fields :=
  (s.walk turns (k + 1)).browser.view.rows

/-- A query over a collection: the collection, the query, the size of a page, the ranking, the
matching documents, and their order from the start and behind any of their keys. -/
structure RankedQuery where
  connection : Option String
  collection : String
  docs : List Fields
  config : QueryConfig
  size : Nat
  ranking : Value
  matching : List Fields
  order : Option RowKey → List Fields
  keyed : Keyed docs
  nonempty : 1 ≤ size
  rows : config.aggregates = false
  passing : select (Query.compileFilters config) docs = .ok matching
  evaluated : ∀ start, (∀ key, start = some key → ∃ d ∈ matching, key = rowKey d) →
    ranked docs (Query.compileFilters config) ranking start = .ok (order start)
  /-- The digest tells apart all pages that can be reached. -/
  apart : Cache.TellsApart connection (some collection) config size (matching.length + 1 : Nat)

namespace RankedQuery

/-- The pages of a walk, each entered behind the last document of the one before. -/
def page (q : RankedQuery) : Nat → List Fields
  | 0 => (q.order none).take q.size
  | k + 1 =>
    match (page q k).getLast? with
    | some d => (q.order (some (rowKey d))).take q.size
    | none => []

variable (q : RankedQuery)

/-- A walk, until a page comes back empty, shows the ranking's order of the matching documents. -/
def Lossless (s : Session) (turns : Nat → Turn) : Prop :=
  ∃ n, (∀ k < n, s.walked turns k ≠ []) ∧ s.walked turns n = [] ∧
    (List.range n).flatMap (s.walked turns) = q.order none

/-- Behind the key of the last document of each block of the ranking, the ranking goes on with the
next block. -/
def Carried : Prop :=
  ∀ (k : Nat) d, (block (q.order none) q.size (k + 1)).getLast? = some d →
    (q.order (some (rowKey d))).take q.size = block (q.order none) q.size (k + 2)

/-- The ranking of the documents behind a key is the part of the ranking behind that key. -/
def Steady : Prop :=
  ∀ d ∈ q.matching, q.order (some (rowKey d)) = behind (rowKey d) (q.order none)

/-- The key of the last document of each block of the ranking is above all keys up to there and
below all that follow. -/
def Aligned : Prop :=
  ∀ (k : Nat) d, (block (q.order none) q.size (k + 1)).getLast? = some d →
    behind (rowKey d) (q.order none) = (q.order none).drop ((k + 1) * q.size)

variable {q}

/-! ## What is ranked -/

theorem get_id {d : Fields} (hd : d ∈ q.docs) : d.get "id" = (rowKey d).toValue :=
  q.keyed.get_id hd

theorem mem_docs {d : Fields} (hd : d ∈ q.matching) : d ∈ q.docs :=
  (select_sublist q.passing).subset hd

theorem matching_keyed : Keyed q.matching := q.keyed.sublist (select_sublist q.passing)

theorem order_perm (start : Option RowKey)
    (hinside : ∀ key, start = some key → ∃ d ∈ q.matching, key = rowKey d) :
    (q.order start).Perm ((start.elim q.matching (behind · q.matching)).map (noted q.ranking)) :=
  ranked_perm q.keyed (fun key hkey => (hinside key hkey).imp fun _ h => ⟨q.mem_docs h.1, h.2⟩)
    q.passing (q.evaluated start hinside)

theorem order_start_perm : (q.order none).Perm (q.matching.map (noted q.ranking)) :=
  order_perm none fun _ h => by cases h

theorem order_behind_perm {d : Fields} (hd : d ∈ q.matching) :
    (q.order (some (rowKey d))).Perm ((behind (rowKey d) q.matching).map (noted q.ranking)) :=
  order_perm (some (rowKey d)) fun _ hkey => ⟨d, hd, (Option.some.inj hkey).symm⟩

/-- Documents as they are shown stand for matching ones, under the same keys. -/
theorem exists_of_mem_start {e : Fields} (he : e ∈ q.order none) :
    ∃ d ∈ q.matching, rowKey d = rowKey e ∧ e.get "id" = (rowKey e).toValue := by
  obtain ⟨d, hd, rfl⟩ := List.mem_map.mp (q.order_start_perm.mem_iff.mp he)
  exact ⟨d, hd, (rowKey_noted _ _).symm, by
    rw [noted_get_id, rowKey_noted, q.get_id (q.mem_docs hd)]⟩

theorem exists_of_mem_behind {d e : Fields} (hd : d ∈ q.matching)
    (he : e ∈ q.order (some (rowKey d))) :
    ∃ f ∈ q.matching, rowKey f = rowKey e ∧ e.get "id" = (rowKey e).toValue ∧
      (rowKey d).before (rowKey e) = true := by
  obtain ⟨f, hf, rfl⟩ := List.mem_map.mp ((q.order_behind_perm hd).mem_iff.mp he)
  obtain ⟨hmem, hbefore⟩ := List.mem_filter.mp hf
  exact ⟨f, hmem, (rowKey_noted _ _).symm, by
    rw [noted_get_id, rowKey_noted, q.get_id (q.mem_docs hmem)], by rwa [rowKey_noted]⟩

theorem get_id_of_mem_order {start : Option RowKey}
    (hinside : ∀ key, start = some key → ∃ d ∈ q.matching, key = rowKey d) {e : Fields}
    (he : e ∈ q.order start) : e.get "id" = (rowKey e).toValue := by
  cases start with
  | none =>
    obtain ⟨-, -, -, hid⟩ := exists_of_mem_start he
    exact hid
  | some key =>
    obtain ⟨d, hd, rfl⟩ := hinside key rfl
    obtain ⟨-, -, -, hid, -⟩ := exists_of_mem_behind hd he
    exact hid

/-- Behind a key every matching document with a later key is ranked. -/
theorem mem_keys_behind {d f : Fields} (hd : d ∈ q.matching) (hf : f ∈ q.matching)
    (h : (rowKey d).before (rowKey f) = true) :
    rowKey f ∈ (q.order (some (rowKey d))).map rowKey := by
  have hmem : noted q.ranking f ∈ q.order (some (rowKey d)) :=
    (q.order_behind_perm hd).mem_iff.mpr
      (List.mem_map_of_mem (List.mem_filter.mpr ⟨hf, h⟩))
  exact rowKey_noted q.ranking f ▸ List.mem_map_of_mem hmem

/-- The ranking shows no key twice. -/
theorem keys_nodup : ((q.order none).map rowKey).Nodup := by
  have hmap : ((q.matching.map (noted q.ranking)).map rowKey) = q.matching.map rowKey := by
    rw [List.map_map]
    exact List.map_congr_left fun d _ => rowKey_noted _ d
  rw [(q.order_start_perm.map rowKey).nodup_iff, hmap]
  exact List.pairwise_map.mpr q.matching_keyed.rowKey_ne

/-! ## The pages of a walk -/

theorem page_succ {k : Nat} {d : Fields} (h : (q.page k).getLast? = some d) :
    q.page (k + 1) = (q.order (some (rowKey d))).take q.size := by
  conv => lhs; unfold page
  rw [h]

theorem page_succ_nil {k : Nat} (h : q.page k = []) : q.page (k + 1) = [] := by
  conv => lhs; unfold page
  rw [h]
  rfl

/-- A page with documents is the first, or comes behind one with documents. -/
theorem last_of_page_succ {k : Nat} (h : q.page (k + 1) ≠ []) :
    ∃ d, (q.page k).getLast? = some d := by
  cases hl : (q.page k).getLast? with
  | none => exact absurd (page_succ_nil (List.getLast?_eq_none_iff.mp hl)) h
  | some d => exact ⟨d, rfl⟩

/-- The documents of every page stand for matching ones, under the same keys. -/
theorem exists_of_mem_page {k : Nat} {e : Fields} (he : e ∈ q.page k) :
    ∃ d ∈ q.matching, rowKey d = rowKey e ∧ e.get "id" = (rowKey e).toValue := by
  induction k generalizing e with
  | zero => exact exists_of_mem_start (List.mem_of_mem_take he)
  | succ k ih =>
    obtain ⟨d, hl⟩ := last_of_page_succ (List.ne_nil_of_mem he)
    rw [page_succ hl] at he
    obtain ⟨f, hf, hkey, -⟩ := ih (List.mem_of_getLast? hl)
    rw [← hkey] at he
    obtain ⟨g, hg, hgkey, hid, -⟩ := exists_of_mem_behind hf (List.mem_of_mem_take he)
    exact ⟨g, hg, hgkey, hid⟩

/-- A page has its keys behind the last one of the page before. -/
theorem before_of_mem_page {k : Nat} {d e : Fields} (hl : (q.page k).getLast? = some d)
    (he : e ∈ q.page (k + 1)) : (rowKey d).before (rowKey e) = true := by
  obtain ⟨f, hf, hkey, -⟩ := exists_of_mem_page (List.mem_of_getLast? hl)
  rw [page_succ hl, ← hkey] at he
  obtain ⟨-, -, -, -, hbefore⟩ := exists_of_mem_behind hf (List.mem_of_mem_take he)
  rwa [hkey] at hbefore

theorem length_page_le (k : Nat) : (q.page k).length ≤ q.size := by
  cases k with
  | zero => exact List.length_take_le _ _
  | succ k =>
    cases hl : (q.page k).getLast? with
    | none => simp [page_succ_nil (List.getLast?_eq_none_iff.mp hl)]
    | some d =>
      rw [page_succ hl]
      exact List.length_take_le _ _

theorem rising {n : Nat} (h : ∀ k < n, q.page k ≠ []) : Rising q.matching q.page n where
  filled := h
  documents := fun k _ e he => by
    obtain ⟨d, hd, hkey, -⟩ := exists_of_mem_page he
    exact ⟨d, hd, hkey⟩
  rises := fun _ _ _ _ hlast he => before_of_mem_page hlast he

/-- Pages without documents are come to in the end. -/
theorem exists_last : ∃ n, (∀ k < n, q.page k ≠ []) ∧ q.page n = [] := by
  obtain ⟨n, -, hne, hend⟩ := exists_first_empty fun _ => q.rising
  exact ⟨n, hne, hend⟩

theorem le_length_of_pages {n : Nat} (h : ∀ k < n, q.page k ≠ []) : n ≤ q.matching.length :=
  (rising h).le_length

/-! ## When the pages are the ranking -/

/-- A page that is not full shows all that a later page can show. -/
theorem mem_keys_page {k : Nat} {d f : Fields} (hshort : (q.page k).length < q.size)
    (hl : (q.page k).getLast? = some d) (hf : f ∈ q.matching)
    (hbefore : (rowKey d).before (rowKey f) = true) : rowKey f ∈ (q.page k).map rowKey := by
  have hwhole : ∀ l : List Fields, (l.take q.size).length < q.size → l.take q.size = l := by
    intro l hlen
    rw [List.length_take] at hlen
    exact List.take_of_length_le (by omega)
  cases k with
  | zero =>
    have hpage : q.page 0 = q.order none := hwhole _ hshort
    rw [hpage, ← rowKey_noted q.ranking f]
    exact List.mem_map_of_mem (q.order_start_perm.mem_iff.mpr (List.mem_map_of_mem hf))
  | succ k =>
    obtain ⟨c, hc⟩ := last_of_page_succ (List.ne_nil_of_mem (List.mem_of_getLast? hl))
    obtain ⟨g, hg, hkey, -⟩ := exists_of_mem_page (List.mem_of_getLast? hc)
    have hpage := page_succ hc
    rw [hpage] at hshort
    rw [hpage, hwhole _ hshort, ← hkey]
    refine mem_keys_behind hg hf ?_
    rw [hkey]
    exact RowKey.before_trans (before_of_mem_page hc (List.mem_of_getLast? hl)) hbefore

/-- Where the pages put together are the ranking, they are its blocks. -/
theorem page_eq_block {n : Nat} (hne : ∀ k < n, q.page k ≠ [])
    (hwhole : (List.range n).flatMap q.page = q.order none) {k : Nat} (hk : k < n) :
    q.page k = block (q.order none) q.size (k + 1) := by
  have hdisjoint : ∀ k, k + 1 < n → ((q.page k).map rowKey).Disjoint
      ((q.page (k + 1)).map rowKey) := by
    intro k hk
    have hnodup := q.keys_nodup
    rw [← hwhole, List.map_flatMap] at hnodup
    have hpairs := List.pairwise_iff_getElem.mp (List.nodup_flatMap.mp hnodup).2 k (k + 1)
      (by rw [List.length_range]; omega) (by rw [List.length_range]; omega) (Nat.lt_succ_self k)
    rwa [List.getElem_range, List.getElem_range] at hpairs
  have hfull : ∀ k, k + 1 < n → (q.page k).length = q.size := by
    intro k hk
    by_contra hshort
    obtain ⟨d, hl⟩ := last_of_page_succ (hne (k + 1) hk)
    obtain ⟨e, he⟩ := List.exists_mem_of_ne_nil _ (hne (k + 1) hk)
    obtain ⟨f, hf, hkey, -⟩ := exists_of_mem_page he
    have hbefore := before_of_mem_page hl he
    rw [← hkey] at hbefore
    have hagain := mem_keys_page (lt_of_le_of_ne (length_page_le k) hshort) hl hf hbefore
    exact hdisjoint k hk hagain (hkey ▸ List.mem_map_of_mem he)
  rw [← hwhole]
  exact (block_of_flatMap (fun k _ => length_page_le k) hfull hk).symm

/-- The pages put together are the ranking just if each goes on where the ranking was left. -/
theorem whole_iff_carried : (∃ n, (∀ k < n, q.page k ≠ []) ∧ q.page n = [] ∧
    (List.range n).flatMap q.page = q.order none) ↔ q.Carried := by
  have hnat : ∀ k : Nat, ((k : Int) + 2) = ((k + 1 : Nat) : Int) + 1 := fun k => by omega
  constructor
  · rintro ⟨n, hne, hend, hwhole⟩ k d hd
    have hblock : ∀ k < n, q.page k = block (q.order none) q.size (k + 1) :=
      fun k hk => page_eq_block hne hwhole hk
    have hlength : (q.order none).length ≤ n * q.size := by
      have hfront := flatMap_block (q.order none) q.size n
      rw [← List.flatMap_congr fun k hk => hblock k (List.mem_range.mp hk), hwhole] at hfront
      have hlen := congrArg List.length hfront
      rw [List.length_take] at hlen
      omega
    have hbehind : ∀ k : Nat, n ≤ k → block (q.order none) q.size (k + 1) = [] := by
      intro k hk
      have hle := Nat.mul_le_mul_right q.size hk
      rw [block_succ, List.drop_eq_nil_of_le (by omega), List.take_nil]
    have hk : k < n := by
      by_contra hge
      rw [hbehind k (by omega)] at hd
      cases hd
    rw [hnat, ← page_succ (hblock k hk ▸ hd)]
    rcases Nat.lt_or_eq_of_le (Nat.succ_le_of_lt hk) with hlt | rfl
    · exact hblock (k + 1) hlt
    · rw [hbehind (k + 1) le_rfl, hend]
  · intro h
    have hblock : ∀ k : Nat, q.page k = block (q.order none) q.size (k + 1) := by
      intro k
      induction k with
      | zero => simp [page, block]
      | succ k ih =>
        rw [← hnat]
        cases hl : (q.page k).getLast? with
        | none =>
          have hnil := List.getLast?_eq_none_iff.mp hl
          rw [page_succ_nil hnil]
          rw [ih, block_succ, List.take_eq_nil_iff, List.drop_eq_nil_iff] at hnil
          rw [hnat, block_succ, eq_comm, List.take_eq_nil_iff, List.drop_eq_nil_iff]
          have := q.nonempty
          rw [Nat.add_mul]
          omega
        | some d =>
          rw [page_succ hl]
          exact h k d (ih ▸ hl)
    obtain ⟨n, hne, hend⟩ := q.exists_last
    refine ⟨n, hne, hend, ?_⟩
    rw [hblock, block_succ, List.take_eq_nil_iff, List.drop_eq_nil_iff] at hend
    have := q.nonempty
    rw [funext hblock, flatMap_block, List.take_of_length_le (by omega)]

theorem last_mem_matching {k : Nat} {d : Fields}
    (hd : (block (q.order none) q.size (k + 1)).getLast? = some d) :
    ∃ f ∈ q.matching, rowKey f = rowKey d := by
  have hmem := List.mem_of_getLast? hd
  rw [block_succ] at hmem
  obtain ⟨f, hf, hkey, -⟩ := exists_of_mem_start (List.mem_of_mem_drop (List.mem_of_mem_take hmem))
  exact ⟨f, hf, hkey⟩

/-- Where the blocks of a steady ranking are the pages, the keys of later blocks are behind that of
the last document of a block. -/
theorem before_of_carried (hsteady : q.Steady) (h : q.Carried) {k : Nat} {d : Fields}
    (hd : (block (q.order none) q.size (k + 1)).getLast? = some d) {e : Fields}
    (he : e ∈ (q.order none).drop ((k + 1) * q.size)) : (rowKey d).before (rowKey e) = true := by
  obtain ⟨n, hn⟩ : ∃ n, n = ((q.order none).drop ((k + 1) * q.size)).length := ⟨_, rfl⟩
  induction n using Nat.strongRecOn generalizing k d with
  | ind n ih =>
    have hnext : ∀ c ∈ block (q.order none) q.size ((k + 1 : Nat) + 1),
        (rowKey d).before (rowKey c) = true := by
      intro c hc
      obtain ⟨f, hf, hkey⟩ := last_mem_matching hd
      rw [show (((k + 1 : Nat) : Int) + 1) = (k : Int) + 2 by omega, ← h k d hd, ← hkey,
        hsteady f hf, hkey] at hc
      exact (List.mem_filter.mp (List.mem_of_mem_take hc)).2
    rw [← List.take_append_drop q.size ((q.order none).drop ((k + 1) * q.size)), ← block_succ,
      List.drop_drop, ← Nat.succ_mul] at he
    rcases List.mem_append.mp he with he | he
    · exact hnext e he
    · -- What comes even later is behind the last document of the next block.
      have hlater := List.length_pos_of_mem he
      rw [List.length_drop, Nat.succ_mul] at hlater
      have hne : block (q.order none) q.size ((k + 1 : Nat) + 1) ≠ [] := by
        rw [block_succ, ne_eq, List.take_eq_nil_iff, List.drop_eq_nil_iff]
        have := q.nonempty
        omega
      obtain ⟨c, hc⟩ := Option.ne_none_iff_exists'.mp (mt List.getLast?_eq_none_iff.mp hne)
      have hshorter : ((q.order none).drop ((k + 1 + 1) * q.size)).length < n := by
        rw [hn, List.length_drop, List.length_drop, Nat.succ_mul (k + 1)]
        have := q.nonempty
        omega
      exact RowKey.before_trans (hnext c (List.mem_of_getLast? hc)) (ih _ hshorter hc he rfl)

/-- Under a steady ranking each page goes on where the ranking was left just if the keys rise from
block to block. -/
theorem carried_iff_aligned (hsteady : q.Steady) : q.Carried ↔ q.Aligned := by
  have hbehind : ∀ (k : Nat) d, (block (q.order none) q.size (k + 1)).getLast? = some d →
      q.order (some (rowKey d)) = behind (rowKey d) (q.order none) := by
    intro k d hd
    obtain ⟨f, hf, hkey⟩ := last_mem_matching hd
    rw [← hkey]
    exact hsteady f hf
  have hnext : ∀ k : Nat, block (q.order none) q.size (k + 2) =
      ((q.order none).drop ((k + 1) * q.size)).take q.size := fun k =>
    block_succ (q.order none) q.size (k + 1)
  constructor
  · intro h k d hd
    have hrest : behind (rowKey d) ((q.order none).drop ((k + 1) * q.size)) =
        (q.order none).drop ((k + 1) * q.size) :=
      List.filter_eq_self.mpr fun e he => before_of_carried hsteady h hd he
    have hsplit : behind (rowKey d) (q.order none) =
        behind (rowKey d) ((q.order none).take ((k + 1) * q.size)) ++
          (q.order none).drop ((k + 1) * q.size) := by
      conv => rhs; rw [← hrest]
      unfold behind
      rw [← List.filter_append, List.take_append_drop]
    -- A document of an earlier block would be the first on the next page.
    have hnone : behind (rowKey d) ((q.order none).take ((k + 1) * q.size)) = [] := by
      cases hfront : behind (rowKey d) ((q.order none).take ((k + 1) * q.size)) with
      | nil => rfl
      | cons f rest =>
        have hpage := h k d hd
        rw [hbehind k d hd, hsplit, hfront, hnext] at hpage
        obtain ⟨size, hsize⟩ : ∃ size, q.size = size + 1 := ⟨q.size - 1, by have := q.nonempty; omega⟩
        have hlater : f ∈ (q.order none).drop ((k + 1) * q.size) := by
          refine List.mem_of_mem_take (i := q.size) (hpage ▸ ?_)
          rw [hsize, List.cons_append, List.take_succ_cons]
          exact List.mem_cons_self
        have hearlier : f ∈ (q.order none).take ((k + 1) * q.size) := by
          have hmem : f ∈ behind (rowKey d) ((q.order none).take ((k + 1) * q.size)) := by
            rw [hfront]
            exact List.mem_cons_self
          exact (List.mem_filter.mp hmem).1
        exact absurd hlater (List.disjoint_take_drop (q.keys_nodup.of_map _) le_rfl hearlier)
    rw [hsplit, hnone, List.nil_append]
  · intro h k d hd
    rw [hbehind k d hd, h k d hd, hnext]

/-! ## The pages that a walk shows -/

/-- What holds when the first pages have been shown, each with documents but for the last. -/
structure Walked (q : RankedQuery) (s : Session) (k : Nat) : Prop where
  quiet : Quiet s
  looks : LooksAt s q.collection q.docs
  config : s.browser.config = q.config
  connection : s.browser.connection = q.connection
  size : s.browser.paging.pageSize = q.size
  paging : k = 0 ∨ (s.browser.paging.page = k ∧
    s.browser.paging.next = (q.page (k - 1)).getLast?.map rowKey)
  kept : ∀ p ∈ s.browser.cache.pages, ∃ n : Nat, 1 ≤ n ∧ n ≤ k ∧
    p.fingerprint = Cache.fingerprint q.connection (some q.collection) q.config n q.size

/-- A turn enters its page at the start, or behind the last document shown. -/
theorem turn_enters {s : Session} {k : Nat} (h : q.Walked s k) (hne : ∀ j < k, q.page j ≠ []) :
    ∃ move start,
      s.browser.paging.plan (if k = 0 then 1 else s.browser.paging.page + 1) = move ∧
      move.page = k + 1 ∧ (move.page ≤ 1 ∨ move.cursor.isSome) ∧
      (if move.page > 1 then move.cursor else none) = start ∧
      (∀ key, start = some key → ∃ d ∈ q.matching, key = rowKey d) ∧
      (q.order start).take q.size = q.page k := by
  cases k with
  | zero =>
    refine ⟨_, none, rfl, rfl, Or.inl le_rfl, rfl, ?_, rfl⟩
    intro key hkey
    cases hkey
  | succ k =>
    obtain ⟨hpage, hnext⟩ := h.paging.resolve_left (Nat.succ_ne_zero k)
    obtain ⟨d, hd⟩ := Option.ne_none_iff_exists'.mp
      (mt List.getLast?_eq_none_iff.mp (hne k (Nat.lt_succ_self k)))
    obtain ⟨f, hf, hkey, -⟩ := exists_of_mem_page (List.mem_of_getLast? hd)
    rw [Nat.add_sub_cancel, hd, Option.map_some] at hnext
    refine ⟨_, some (rowKey d), Paging.plan_forward (by omega) hnext, ?_, Or.inr rfl, if_pos ?_, ?_,
      (page_succ hd).symm⟩
    · rw [hpage]
    · show s.browser.paging.page + 1 > 1
      omega
    · intro key hsome
      exact ⟨f, hf, by rw [hkey]; exact (Option.some.inj hsome).symm⟩

/-- One turn shows the next page. -/
theorem turn_shows {s : Session} {k : Nat} (turn : Turn) (h : q.Walked s k)
    (hne : ∀ j < k, q.page j ≠ [])
    (hf : Finds { s with clock := turn.clock } q.config q.ranking) :
    let after := s.call ⟨turn.clock, turn.client,
      if k = 0 then 1 else s.browser.paging.page + 1, turn.forced⟩
    q.Walked after (k + 1) ∧ after.browser.view.rows = q.page k := by
  let t : Session := { s with clock := turn.clock }
  have hq : Quiet t := ⟨h.quiet.ready, h.quiet.waiting, h.quiet.idle, h.quiet.settled⟩
  have hl : LooksAt t q.collection q.docs := ⟨h.looks.current, h.looks.answering⟩
  obtain ⟨move, start, hplan, hpage, hentry, hstart, hinside, htake⟩ := turn_enters h hne
  have hfingerprint : t.fingerprint q.collection q.config move.page =
      Cache.fingerprint q.connection (some q.collection) q.config (k + 1 : Nat) q.size := by
    unfold Session.fingerprint
    rw [show t.browser.connection = q.connection from h.connection,
      show t.browser.paging.pageSize = q.size from h.size, hpage, Int.natCast_succ]
  have hcount := le_length_of_pages hne
  have hmiss : t.browser.cache.get? (t.fingerprint q.collection q.config move.page) t.clock =
      none := by
    by_contra hsome
    obtain ⟨kept, hkept⟩ := Option.ne_none_iff_exists'.mp hsome
    obtain ⟨hfound, -⟩ := Option.filter_eq_some_iff.mp hkept
    obtain ⟨n, hn, hnk, hsame⟩ := h.kept kept (List.mem_of_find?_eq_some hfound)
    have hbeq := List.find?_some hfound
    have heq := (eq_of_beq hbeq).symm.trans hsame
    rw [hfingerprint] at heq
    have := q.apart.page_eq (by omega) (by omega) (by omega) (by omega) heq
    omega
  have hkept : turn.forced = true ∨ t.browser.cache.get?
      (t.fingerprint q.collection q.config move.page) t.clock = none := Or.inr hmiss
  have hask := ask_fetched turn.client hq hl hf ⟨hplan, hentry⟩ q.rows hkept
    (fun d hd => q.get_id hd) q.passing (hstart ▸ q.evaluated start hinside)
    (fun d hd => get_id_of_mem_order hinside hd)
  have hsize : t.browser.paging.pageSize.toNat = q.size := by
    rw [show t.browser.paging.pageSize = q.size from h.size]
    rfl
  rw [hsize, htake, hfingerprint] at hask
  dsimp only
  show q.Walked (t.ask _ _) (k + 1) ∧ (t.ask _ _).browser.view.rows = q.page k
  obtain ⟨r, known, sent, yielded, answered, journal, hu⟩ := hask
  rw [hu]
  refine ⟨⟨⟨hq.ready, hq.waiting, rfl, hq.settled⟩, ⟨hl.current, hl.answering⟩, rfl, h.connection,
    h.size, Or.inr ⟨?_, rfl⟩, ?_⟩, rfl⟩
  · show move.page = ((k + 1 : Nat) : Int)
    rw [hpage, Int.natCast_succ]
  · intro p hp
    rcases List.mem_cons.mp hp with rfl | hp
    · exact ⟨k + 1, by omega, le_rfl, rfl⟩
    · obtain ⟨n, hn, hnk, hsame⟩ := h.kept p (List.mem_filter.mp hp).1
      exact ⟨n, hn, by omega, hsame⟩

section

variable {s : Session} {turns : Nat → Turn}

/-- At every turn of a walk, until a page comes back empty, the query is found as it was, and
compiles to the ranking. -/
def Found (q : RankedQuery) (s : Session) (turns : Nat → Turn) : Prop :=
  ∀ k, (∀ j < k, s.walked turns j ≠ []) →
    Finds { s.walk turns k with clock := (turns k).clock } q.config q.ranking

/-- As long as pages with documents are shown, they are the pages of the query. -/
theorem walk_shows (h : q.Walked s 0) (hf : ∀ k, q.Walked (s.walk turns k) k →
      (∀ j < k, s.walked turns j ≠ []) →
      Finds { s.walk turns k with clock := (turns k).clock } q.config q.ranking)
    (k : Nat) (hne : ∀ j < k, s.walked turns j ≠ []) :
    q.Walked (s.walk turns k) k ∧ ∀ j < k, s.walked turns j = q.page j := by
  induction k with
  | zero => exact ⟨h, fun j hj => absurd hj (Nat.not_lt_zero j)⟩
  | succ k ih =>
    have hne' : ∀ j < k, s.walked turns j ≠ [] := fun j hj => hne j (by omega)
    obtain ⟨hwalked, hshown⟩ := ih hne'
    have hpages : ∀ j < k, q.page j ≠ [] := fun j hj => hshown j hj ▸ hne' j hj
    obtain ⟨hnext, hrows⟩ := turn_shows (turns k) hwalked hpages (hf k hwalked hne')
    refine ⟨hnext, fun j hj => ?_⟩
    rcases Nat.lt_or_eq_of_le (Nat.le_of_lt_succ hj) with hlt | rfl
    · exact hshown j hlt
    · exact hrows

/-- So is the page shown last, with documents or without. -/
theorem walked_eq (h : q.Walked s 0) (hf : q.Found s turns) (k : Nat)
    (hne : ∀ j < k, q.page j ≠ []) : s.walked turns k = q.page k := by
  induction k using Nat.strongRecOn with
  | ind k ih =>
    have hsome : ∀ j < k, s.walked turns j ≠ [] := by
      intro j hj
      rw [ih j hj fun i hi => hne i (by omega)]
      exact hne j hj
    obtain ⟨hwalked, -⟩ := walk_shows h (fun k _ hne => hf k hne) k hsome
    exact (turn_shows (turns k) hwalked hne (hf k hsome)).2

theorem lossless_iff_whole (h : q.Walked s 0) (hf : q.Found s turns) :
    q.Lossless s turns ↔ ∃ n, (∀ k < n, q.page k ≠ []) ∧ q.page n = [] ∧
      (List.range n).flatMap q.page = q.order none := by
  have hshown := walked_eq h hf
  constructor
  · rintro ⟨n, hne, hend, hwhole⟩
    obtain ⟨-, hsame⟩ := walk_shows h (fun k _ hne => hf k hne) n hne
    have hpages : ∀ k < n, q.page k ≠ [] := fun k hk => hsame k hk ▸ hne k hk
    refine ⟨n, hpages, hshown n hpages ▸ hend, ?_⟩
    rw [← hwhole]
    exact List.flatMap_congr fun k hk => (hsame k (List.mem_range.mp hk)).symm
  · rintro ⟨n, hne, hend, hwhole⟩
    have hsame : ∀ k < n, s.walked turns k = q.page k :=
      fun k hk => hshown k fun j hj => hne j (by omega)
    refine ⟨n, fun k hk => hsame k hk ▸ hne k hk, hshown n hne ▸ hend, ?_⟩
    rw [← hwhole]
    exact List.flatMap_congr fun k hk => hsame k (List.mem_range.mp hk)

theorem walked_of_fresh (h : Fresh q.connection q.collection q.docs q.config q.size s) :
    q.Walked s 0 := by
  refine ⟨h.quiet, h.looks, h.config, h.connection, by rw [h.paging]; rfl, Or.inl rfl, ?_⟩
  intro p hp
  rw [h.cache] at hp
  cases hp

/-- A query whose filters are made for good, and which ranks whatever is known about attributes,
stays as it is. -/
theorem found_of_typed (h : Fresh q.connection q.collection q.docs q.config q.size s)
    (htyped : ∀ p ∈ q.config.predicates, p.typeAssumed = false)
    (hrank : ∀ registry, Query.compileRank q.config registry = .ok q.ranking) :
    q.Found s turns := by
  have hfinds : ∀ k, q.Walked (s.walk turns k) k →
      Finds { s.walk turns k with clock := (turns k).clock } q.config q.ranking := by
    intro k hwalked
    have hconfig : ({ s.walk turns k with clock := (turns k).clock } : Session).browser.config =
      q.config := hwalked.config
    rw [← hconfig] at htyped hrank ⊢
    exact finds_of_typed ⟨hwalked.looks.current, hwalked.looks.answering⟩ htyped hrank
  intro k hne
  exact hfinds k (walk_shows (walked_of_fresh h) (fun k hwalked _ => hfinds k hwalked) k hne).1

/-- Sorted by texts or whole numbers of an attribute, documents are ranked steadily. -/
theorem steady_of_sorting {attr direction : Value} {down : Bool}
    (hranking : q.ranking = .list [attr, direction]) (hdirection : directionOf? direction = some down)
    (hvalues : SortsBy attr q.matching) : q.Steady := by
  have hrank : ∀ docs, rank docs q.ranking = byAttribute attr down docs := by
    intro docs
    unfold rank
    simp only [hranking, Value.isTrue, List.isEmpty_cons, Bool.not_false, Bool.not_true,
      Bool.false_eq_true, if_false, hdirection]
  intro d hd
  have hstart := q.evaluated none (fun _ h => by cases h)
  have hbehind := q.evaluated (some (rowKey d)) (fun key hkey => ⟨d, hd, by simpa using hkey.symm⟩)
  unfold ranked at hstart hbehind
  rw [select_withCursor q.passing (fun e he => q.get_id he) (q.keyed.ofKind (q.mem_docs hd))]
    at hbehind
  unfold Query.withCursor at hstart
  rw [q.passing] at hstart
  have hpart := byAttribute_filter hvalues ((hrank _).symm.trans hstart)
    (fun e => (rowKey d).before (rowKey e))
  exact Except.ok.inj (hbehind.symm.trans ((hrank _).trans hpart))

/-- From a browser that has loaded nothing yet, a walk to the first empty page shows the whole
ranking just if each page goes on where the ranking was left. Under a steady ranking that is so just
if the keys rise from page to page. -/
theorem walk_is_lossless_iff (q : RankedQuery) (s : Session) (turns : Nat → Turn)
    (h : Fresh q.connection q.collection q.docs q.config q.size s) (hf : q.Found s turns) :
    (q.Lossless s turns ↔ q.Carried) ∧ (q.Steady → (q.Lossless s turns ↔ q.Aligned)) := by
  have hcarried := (lossless_iff_whole (walked_of_fresh h) hf).trans whole_iff_carried
  exact ⟨hcarried, fun hsteady => hcarried.trans (carried_iff_aligned hsteady)⟩

/-- Two documents, the earlier key first. -/
def risingDocs : List Fields := [[("id", .int 1)], [("id", .int 2)]]

/-- All documents, by falling keys. -/
def fallingConfig : QueryConfig := { QueryConfig.initial with sortDirection := .descending }

theorem falling_evaluated (start : Option RowKey)
    (h : ∀ key, start = some key → ∃ d ∈ risingDocs, key = rowKey d) :
    ranked risingDocs (Query.compileFilters fallingConfig) (.list [.text "id", .text "desc"]) start =
      .ok (start.elim risingDocs (behind · risingDocs)).reverse := by
  cases start with
  | none => rfl
  | some key =>
    obtain ⟨d, hd, rfl⟩ := h key rfl
    rcases List.mem_cons.mp hd with rfl | hd
    · rfl
    · obtain rfl := List.mem_singleton.mp hd
      rfl

theorem falling_apart :
    Cache.TellsApart (some "main") (some "docs") fallingConfig (1 : Nat) (2 + 1 : Nat) :=
  Cache.tellsApart_of_nodup (by decide +kernel)

/-- Both documents by falling keys, one on a page. -/
def fallingQuery : RankedQuery where
  connection := some "main"
  collection := "docs"
  docs := risingDocs
  config := fallingConfig
  size := 1
  ranking := .list [.text "id", .text "desc"]
  matching := risingDocs
  order start := (start.elim risingDocs (behind · risingDocs)).reverse
  keyed := ⟨Or.inr (by simp [risingDocs, Fields.get, Named.get?]),
    by simp [risingDocs, Fields.get, Named.get?]⟩
  nonempty := le_rfl
  rows := rfl
  passing := rfl
  evaluated := falling_evaluated
  apart := falling_apart

/-- A browser of these documents. -/
def fallingSession : Session :=
  let documents : Documents := risingDocs.map (fun d => ⟨d.get "id", d⟩)
  let s : Session := .start
    (.start { Settings.default with pageSize := 1 } (some "main") (some "docs") (some 0) none)
    [.ofSource (.store ⟨[("docs", documents)], []⟩ true)] none
  s.querying fallingConfig

theorem fallingSession_fresh :
    Fresh (some "main") "docs" risingDocs fallingConfig 1 fallingSession where
  quiet := ⟨rfl, rfl, rfl, rfl⟩
  looks := ⟨rfl, 0, _, rfl, rfl, ⟨_, _, _, rfl, (fun _ _ h => by cases h), rfl, rfl⟩, rfl, rfl, rfl⟩
  config := rfl
  connection := rfl
  paging := rfl
  cache := rfl
  unfiltered := rfl

theorem falling_found (turns : Nat → Turn) : fallingQuery.Found fallingSession turns :=
  found_of_typed fallingSession_fresh (fun p hp => by cases hp) (fun _ => rfl)

/-- Behind the highest key nothing is left, so the lower one is never shown. -/
theorem falling_keys_are_lost :
    Fresh (some "main") "docs" risingDocs fallingConfig 1 fallingSession ∧
    fallingQuery.Found fallingSession (fun _ => ⟨0.0, 1, true⟩) ∧
    ¬ fallingQuery.Lossless fallingSession (fun _ => ⟨0.0, 1, true⟩) := by
  refine ⟨fallingSession_fresh, falling_found _, ?_⟩
  have hfirst : (fallingSession.walked (fun _ => ⟨0.0, 1, true⟩) 0).map rowKey = [.int 2] := by
    decide +kernel
  have hsecond : (fallingSession.walked (fun _ => ⟨0.0, 1, true⟩) 1).map rowKey = [] := by
    decide +kernel
  have hlength : (fallingQuery.order none).length = 2 := rfl
  rintro ⟨n, hne, hend, hwhole⟩
  rcases n with _ | _ | n
  · rw [hend] at hfirst
    cases hfirst
  · rw [← hwhole, List.range_one, List.flatMap_singleton, ← List.length_map rowKey,
      hfirst] at hlength
    cases hlength
  · exact hne 1 (by omega) (List.map_eq_nil_iff.mp hsecond)

/-- For falling keys the walk would be lossless just if they did not fall. -/
theorem falling_walk_is_lossless_iff :
    fallingQuery.Lossless fallingSession (fun _ => ⟨0.0, 1, true⟩) ↔ fallingQuery.Aligned := by
  have hsteady : fallingQuery.Steady := by
    refine steady_of_sorting rfl rfl ?_
    intro d hd
    exact Or.inr ⟨rowKey d, congrArg Except.ok (fallingQuery.get_id hd)⟩
  exact (walk_is_lossless_iff fallingQuery fallingSession _ fallingSession_fresh
    (falling_found _)).2 hsteady

end

end RankedQuery

end Session

end Folio
