-- Pages in the order of the keys. When a query ranks documents by their keys, the pages that are
-- shown are the blocks of the matching documents in that order, whatever pages are asked for and
-- whether they are fetched or were kept. The invariant ties every remembered key to the boundary
-- between two blocks, and every kept page to its block.
import Folio.Proofs.Fingerprints
import Folio.Proofs.Calls

namespace Folio

/-! ## Blocks -/

/-- Behind the last document of a block stands what follows the block. -/
theorem Collection.Ascending.behind_block {docs : List Fields} {size : Nat} {page : Int}
    {d : Fields} (h : Ascending docs) (hpage : 1 ≤ page)
    (hd : (block docs size page).getLast? = some d) :
    behind (rowKey d) docs = docs.drop (page.toNat * size) := by
  obtain ⟨front, hfront⟩ := List.getLast?_eq_some_iff.mp hd
  unfold block at hfront
  have hstart : page.toNat * size = (page - 1).toNat * size + size := by
    have : page.toNat = (page - 1).toNat + 1 := by omega
    rw [this, Nat.add_mul, Nat.one_mul]
  have hsplit : docs = (docs.take ((page - 1).toNat * size) ++ front) ++
      d :: docs.drop (page.toNat * size) := by
    conv => lhs; rw [← List.take_append_drop ((page - 1).toNat * size) docs,
      ← List.take_append_drop size (docs.drop ((page - 1).toNat * size)), hfront, List.drop_drop,
      ← hstart]
    simp
  rw [hsplit] at h
  have hbehind := h.behind_of_split
  rwa [← hsplit] at hbehind

/-! ## Queries that rank by keys -/

/-- If a query ranks by keys it does so whatever is known about attributes. -/
theorem Query.compileRank_keyOrder {c : QueryConfig} {registry : Registry}
    (h : compileRank c registry = .ok Collection.keyOrder) (other : Registry) :
    compileRank c other = .ok Collection.keyOrder := by
  have htext : ∀ r, compileTextRank c r ≠ .ok Collection.keyOrder := by
    intro r
    unfold compileTextRank Collection.keyOrder
    split
    · split <;> simp [textRank]
    · simp [textRank]
    · simp
  have hsimple : ∀ r, (if c.queryMode == .fulltext && c.search != "" then compileTextRank c r
      else if c.queryMode == .vector then .ok ((vectorRank? c).getD (sortRank c))
      else .ok (sortRank c)) = .ok Collection.keyOrder →
      (if c.queryMode == .fulltext && c.search != "" then compileTextRank c other
      else if c.queryMode == .vector then .ok ((vectorRank? c).getD (sortRank c))
      else .ok (sortRank c)) = .ok Collection.keyOrder := by
    intro r hr
    split at hr
    · exact absurd hr (htext r)
    · rename_i hbrowse
      rw [if_neg hbrowse]
      exact hr
  unfold compileRank at h ⊢
  cases hmode : c.rankingMode with
  | simple =>
    simp only [hmode] at h ⊢
    exact hsimple registry h
  | expression =>
    cases hnode : c.ranking with
    | none =>
      simp only [hmode, hnode] at h ⊢
      exact hsimple registry h
    | some node =>
      simp only [hmode, hnode] at h ⊢
      exact h

namespace Session

open Collection

/-! ## The invariant of a walk -/

/-- A query over a collection whose documents it ranks by their keys: the collection, the query,
the size of a page, and the matching documents in the order of their keys. -/
structure KeyQuery where
  connection : Option String
  collection : String
  docs : List Fields
  config : QueryConfig
  size : Nat
  matching : List Fields
  ordered : List Fields
  registry : Registry
  keyed : Keyed docs
  nonempty : 1 ≤ size
  rows : config.aggregates = false
  typed : ∀ p ∈ config.predicates, p.typeAssumed = false
  ranking : Query.compileRank config registry = .ok keyOrder
  passing : select (Query.compileFilters config) docs = .ok matching
  perm : ordered.Perm matching
  ascending : Ascending ordered
  /-- The digest tells apart all pages that can be reached. -/
  apart : Cache.TellsApart connection (some collection) config size
    (fullPages ordered.length size + 1 : Nat)

namespace KeyQuery

variable (q : KeyQuery)

/-- The documents of a page. -/
def page (n : Int) : List Fields := block q.ordered q.size n

def fingerprint (n : Int) : String :=
  Cache.fingerprint q.connection (some q.collection) q.config n q.size

/-- A key behind which a page starts. -/
def Opens (key : RowKey) (n : Int) : Prop :=
  behind key q.ordered = q.ordered.drop ((n - 1).toNat * q.size) ∧ OfKind key q.docs

/-- A page that is the first, or comes behind one with documents. -/
def Reachable (n : Int) : Prop := n = 1 ∨ (2 ≤ n ∧ q.page (n - 1) ≠ [])

/-- What holds between the calls of a walk. -/
structure Walking (s : Session) : Prop where
  quiet : Quiet s
  looks : LooksAt s q.collection q.docs
  config : s.browser.config = q.config
  connection : s.browser.connection = q.connection
  size : s.browser.paging.pageSize = q.size
  reachable : q.Reachable s.browser.paging.page
  entered : (s.browser.paging.previous.length : Int) + 1 = s.browser.paging.page
  previous : ∀ (i : Nat) key, s.browser.paging.previous[i]? = some key → q.Opens key (i + 2) ∧
    q.Reachable (i + 2)
  next : ∀ key, s.browser.paging.next = some key → q.Opens key (s.browser.paging.page + 1) ∧
    q.page s.browser.paging.page ≠ []
  kept : ∀ p ∈ s.browser.cache.pages, ∃ n, q.Reachable n ∧ p.fingerprint = q.fingerprint n ∧
    p.rows = q.page n ∧ p.total = some (q.ordered.length : Int)
  counted : q.config.browsesAll = true → ∀ n, s.browser.unfiltered = some n →
    n = q.ordered.length

/-- What is shown after a call. -/
structure Showing (s : Session) : Prop where
  state : s.browser.state = .success
  rows : s.browser.view.rows = q.page s.browser.paging.page
  total : s.browser.view.total = some (q.ordered.length : Int)
  next : s.browser.paging.next = none ↔ s.browser.view.rows = []

variable {q} {s : Session}

theorem mem_docs {d : Fields} (hd : d ∈ q.ordered) : d ∈ q.docs :=
  (select_sublist q.passing).subset (q.perm.mem_iff.mp hd)

theorem mem_page {d : Fields} {n : Int} (hd : d ∈ q.page n) : d ∈ q.ordered :=
  List.mem_of_mem_drop (List.mem_of_mem_take hd)

theorem get_id {d : Fields} (hd : d ∈ q.docs) : d.get "id" = (rowKey d).toValue :=
  q.keyed.get_id hd

theorem Reachable.one_le {n : Int} (h : q.Reachable n) : 1 ≤ n := by
  rcases h with h | h <;> omega

/-- Pages that can be reached are among those that the digest tells apart. -/
theorem Reachable.le {n : Int} (h : q.Reachable n) :
    n ≤ (fullPages q.ordered.length q.size + 1 : Nat) := by
  rcases h with rfl | ⟨h2, hne⟩
  · exact Int.ofNat_le.mpr (Nat.le_add_left 1 _)
  · have hlt : (n - 1 - 1).toNat * q.size < q.ordered.length := by
      by_contra hge
      exact hne ((block_eq_nil_iff q.nonempty).mpr (Nat.le_of_not_lt hge))
    have hdiv : (n - 1 - 1).toNat + 1 ≤ fullPages q.ordered.length q.size := by
      unfold fullPages
      rw [Nat.le_div_iff_mul_le q.nonempty, Nat.add_mul, Nat.one_mul]
      omega
    omega

theorem Reachable.page_eq {m n : Int} (hm : q.Reachable m) (hn : q.Reachable n)
    (h : q.fingerprint m = q.fingerprint n) : m = n :=
  q.apart.page_eq hm.one_le hm.le hn.one_le hn.le h

/-- The documents behind the key of a page, as they are ranked. -/
theorem ranked_opens {key : RowKey} {n : Int} (h : q.Opens key n) :
    ranked q.docs (Query.compileFilters q.config) keyOrder (some key) =
      .ok (q.ordered.drop ((n - 1).toNat * q.size)) := by
  unfold ranked
  rw [select_withCursor q.passing (fun d hd => q.get_id hd) h.2]
  have hkeyed : Keyed (behind key q.matching) :=
    q.keyed.sublist (List.filter_sublist.trans (select_sublist q.passing))
  have hperm : (behind key q.ordered).Perm (behind key q.matching) := q.perm.filter _
  have hrank := rank_keyOrder hkeyed hperm (ascending_behind q.ascending key)
  rw [h.1] at hrank
  exact hrank

theorem ranked_start :
    ranked q.docs (Query.compileFilters q.config) keyOrder none = .ok q.ordered := by
  unfold ranked Query.withCursor
  rw [q.passing]
  exact rank_keyOrder (q.keyed.sublist (select_sublist q.passing)) q.perm q.ascending

/-- The key of the last document of a page opens the next one. -/
theorem opens_last {n : Int} {d : Fields} (hn : 1 ≤ n) (hd : (q.page n).getLast? = some d) :
    q.Opens (rowKey d) (n + 1) := by
  refine ⟨?_, q.keyed.ofKind (q.mem_docs (q.mem_page (List.mem_of_getLast? hd)))⟩
  rw [q.ascending.behind_block hn hd]
  congr 2
  omega

/-! ## One call -/

/-- The page that a call leads to. -/
def landing (s : Session) (n : Int) : Int :=
  if n ≤ 1 then 1
  else if n ≤ s.browser.paging.page then n
  else if s.browser.paging.next.isSome then s.browser.paging.page + 1
  else s.browser.paging.page

/-- Every page that a call leads to is entered where it starts. -/
theorem plan_spec (h : q.Walking s) (n : Int) {move : PageMove}
    (hmove : s.browser.paging.plan n = move) :
    move.page = landing s n ∧ q.Reachable move.page ∧
      (move.page = 1 ∨ ∃ key, move.cursor = some key ∧ q.Opens key move.page) ∧
      ((move.page - 2).toNat ≤ s.browser.paging.previous.length) := by
  have hpage := h.reachable.one_le
  have hentered := h.entered
  -- The key of a page that has been entered is remembered.
  have hknown : ∀ m, 2 ≤ m → m ≤ s.browser.paging.page → ∃ key,
      s.browser.paging.entryCursor m = some key ∧ q.Opens key m ∧ q.Reachable m := by
    intro m hm hle
    have hlt : (m - 2).toNat < s.browser.paging.previous.length := by omega
    refine ⟨s.browser.paging.previous[(m - 2).toNat], ?_, ?_⟩
    · unfold Paging.entryCursor
      rw [if_neg (by omega), List.getElem?_eq_getElem hlt]
    · have hprev := h.previous _ _ (List.getElem?_eq_getElem hlt)
      rwa [show ((m - 2).toNat : Int) + 2 = m by omega] at hprev
  subst hmove
  unfold Paging.plan landing
  by_cases h1 : n ≤ 1
  · have : max 1 n = 1 := max_eq_left h1
    simp only [this, h1, if_true]
    exact ⟨trivial, Or.inl rfl, Or.inl trivial, by omega⟩
  · have hmax : max 1 n = n := max_eq_right (by omega)
    simp only [hmax, h1, if_false, show n ≠ 1 by omega]
    by_cases heq : n = s.browser.paging.page
    · subst heq
      obtain ⟨key, hkey, hopens, hreach⟩ := hknown s.browser.paging.page (by omega) le_rfl
      simp only [hkey, le_refl, if_true]
      exact ⟨trivial, hreach, Or.inr ⟨key, rfl, hopens⟩, by omega⟩
    · simp only [heq, if_false]
      by_cases hgt : s.browser.paging.page < n
      · simp only [gt_iff_lt, hgt, if_true, show ¬ n ≤ s.browser.paging.page by omega, if_false]
        cases hnext : s.browser.paging.next with
        | none =>
          simp only [Option.isSome_none, Bool.false_eq_true, if_false]
          refine ⟨trivial, h.reachable, ?_, by omega⟩
          by_cases hone : s.browser.paging.page = 1
          · exact Or.inl hone
          · obtain ⟨key, hkey, hopens, -⟩ := hknown s.browser.paging.page (by omega) le_rfl
            exact Or.inr ⟨key, hkey, hopens⟩
        | some key =>
          simp only [Option.isSome_some, if_true]
          obtain ⟨hopens, hne⟩ := h.next key hnext
          refine ⟨trivial, Or.inr ⟨by omega, ?_⟩, Or.inr ⟨key, rfl, hopens⟩, by omega⟩
          rwa [show s.browser.paging.page + 1 - 1 = s.browser.paging.page by omega]
      · simp only [gt_iff_lt, hgt, if_false, show n ≤ s.browser.paging.page by omega, if_true]
        obtain ⟨key, hkey, hopens, hreach⟩ := hknown n (by omega) (by omega)
        simp only [hkey]
        exact ⟨trivial, hreach, Or.inr ⟨key, rfl, hopens⟩, by omega⟩

/-- The keys by which pages were entered, once a page is shown. -/
theorem advance_previous (h : q.Walking s) {move : PageMove} (rows : List Fields)
    (hreach : q.Reachable move.page)
    (hentry : move.page = 1 ∨ ∃ key, move.cursor = some key ∧ q.Opens key move.page)
    (hlen : (move.page - 2).toNat ≤ s.browser.paging.previous.length) :
    ((s.browser.paging.advance move rows).previous.length : Int) + 1 = move.page ∧
      ∀ (i : Nat) key, (s.browser.paging.advance move rows).previous[i]? = some key →
        q.Opens key (i + 2) ∧ q.Reachable (i + 2) := by
  have hone := hreach.one_le
  unfold Paging.advance
  dsimp only
  split
  · rename_i hle
    exact ⟨by simp; omega, fun i key hkey => by simp at hkey⟩
  · rename_i hgt
    obtain ⟨cursor, hcursor, hopens⟩ := hentry.resolve_left (by omega)
    have htake : (s.browser.paging.previous.take (move.page - 2).toNat).length =
      (move.page - 2).toNat := by rw [List.length_take]; omega
    rw [hcursor, Option.toList_some]
    refine ⟨by rw [List.length_append, htake, List.length_singleton]; omega, ?_⟩
    intro i key hkey
    rcases Nat.lt_or_ge i (move.page - 2).toNat with hlt | hge
    · rw [List.getElem?_append_left (by omega), List.getElem?_take_of_lt hlt] at hkey
      exact h.previous i key hkey
    · rw [List.getElem?_append_right (by omega), htake] at hkey
      obtain ⟨hi, hkey⟩ := List.getElem?_eq_some_iff.mp hkey
      rw [List.length_singleton] at hi
      have hidx : i - (move.page - 2).toNat = 0 := by omega
      simp only [hidx, List.getElem_cons_zero] at hkey
      subst hkey
      rw [show ((i : Int) + 2) = move.page by omega]
      exact ⟨hopens, hreach⟩

/-- Once the documents of a page are shown, the walk stands at that page. -/
theorem shown (h : q.Walking s) {u : Session} {move : PageMove} {cache : PageCache}
    (hreach : q.Reachable move.page)
    (hentry : move.page = 1 ∨ ∃ key, move.cursor = some key ∧ q.Opens key move.page)
    (hlen : (move.page - 2).toNat ≤ s.browser.paging.previous.length)
    (hcache : ∀ p ∈ cache.pages, ∃ n, q.Reachable n ∧ p.fingerprint = q.fingerprint n ∧
      p.rows = q.page n ∧ p.total = some (q.ordered.length : Int))
    (hu : Learned ((s.querying q.config).showing q.config
      (s.browser.paging.advance move (q.page move.page)) (q.page move.page)
      (some (q.ordered.length : Int)) cache) u) :
    q.Walking u ∧ q.Showing u ∧ u.browser.paging.page = move.page := by
  obtain ⟨hentered, hprevious⟩ := advance_previous h (q.page move.page) hreach hentry hlen
  obtain ⟨r, k, sent, yielded, answered, journal, rfl⟩ := hu
  have hlooks : LooksAt ((s.querying q.config).showing q.config
      (s.browser.paging.advance move (q.page move.page)) (q.page move.page)
      (some (q.ordered.length : Int)) cache) q.collection q.docs :=
    ⟨h.looks.current, h.looks.answering⟩
  refine ⟨⟨⟨h.quiet.ready, h.quiet.waiting, rfl, h.quiet.settled⟩,
    ⟨hlooks.current, hlooks.answering⟩, rfl, h.connection, h.size, hreach, hentered, hprevious, ?_,
    hcache, ?_⟩, ⟨rfl, rfl, rfl, ?_⟩, rfl⟩
  · intro key hkey
    obtain ⟨d, hd, rfl⟩ := Option.map_eq_some_iff.mp hkey
    exact ⟨opens_last hreach.one_le hd, List.ne_nil_of_mem (List.mem_of_getLast? hd)⟩
  · intro hall n hn
    simp only [querying, showing, update, Browser.present, hall, if_true, View.ofRows,
      Option.some.injEq] at hn
    exact hn.symm
  · show (q.page move.page).getLast?.map rowKey = none ↔ q.page move.page = []
    rw [Option.map_eq_none_iff, List.getLast?_eq_none_iff]

/-- One call keeps the invariant, shows the documents of the page it leads to, and their number. -/
theorem call_walks (h : q.Walking s) (c : Call) : q.Walking (s.call c) ∧ q.Showing (s.call c) ∧
    (s.call c).browser.paging.page = landing s c.page := by
  let t : Session := { s with clock := c.clock }
  have ht : q.Walking t := ⟨⟨h.quiet.ready, h.quiet.waiting, h.quiet.idle, h.quiet.settled⟩,
    ⟨h.looks.current, h.looks.answering⟩, h.config, h.connection, h.size, h.reachable, h.entered,
    h.previous, h.next, h.kept, h.counted⟩
  obtain ⟨move, hmove⟩ : ∃ move, t.browser.paging.plan c.page = move := ⟨_, rfl⟩
  obtain ⟨hland, hreach, hentry, hlen⟩ := plan_spec ht c.page hmove
  have he : Enters t c.page move := by
    refine ⟨hmove, ?_⟩
    rcases hentry with hone | ⟨key, hkey, -⟩
    · exact Or.inl (by omega)
    · exact Or.inr (by rw [hkey]; rfl)
  have hf : Finds t q.config keyOrder := by
    have htyped : ∀ p ∈ t.browser.config.predicates, p.typeAssumed = false := by
      rw [ht.config]; exact q.typed
    have hrank := q.ranking
    rw [← ht.config] at hrank ⊢
    exact finds_of_typed ht.looks htyped (Query.compileRank_keyOrder hrank)
  have hfingerprint : t.fingerprint q.collection q.config move.page = q.fingerprint move.page := by
    unfold Session.fingerprint KeyQuery.fingerprint
    rw [ht.connection, ht.size]
  have hpageid : ∀ d ∈ q.page move.page, d.get "id" = (rowKey d).toValue :=
    fun d hd => q.get_id (q.mem_docs (q.mem_page hd))
  rw [← show landing t c.page = landing s c.page from rfl, ← hland]
  by_cases hhit : c.forced = false ∧
      (t.browser.cache.get? (q.fingerprint move.page) t.clock).isSome
  · obtain ⟨hforced, hsome⟩ := hhit
    obtain ⟨kept, hkept⟩ := Option.isSome_iff_exists.mp hsome
    have hmem : kept ∈ t.browser.cache.pages ∧ kept.fingerprint = q.fingerprint move.page := by
      obtain ⟨hfound, -⟩ := Option.filter_eq_some_iff.mp hkept
      have hsame := List.find?_some hfound
      exact ⟨List.mem_of_find?_eq_some hfound, eq_of_beq hsame⟩
    obtain ⟨n, hn, hnf, hrows, htotal⟩ := ht.kept kept hmem.1
    obtain rfl : n = move.page := hn.page_eq hreach (hnf.symm.trans hmem.2)
    have hask := ask_kept c.client ht.quiet ht.looks hf he q.rows hforced
      (hfingerprint ▸ hkept) (hrows ▸ hpageid)
    rw [hrows, htotal] at hask
    exact shown ht hreach hentry hlen ht.kept hask
  · have hmiss : c.forced = true ∨
        t.browser.cache.get? (t.fingerprint q.collection q.config move.page) t.clock = none := by
      rw [hfingerprint]
      cases hforced : c.forced with
      | true => exact Or.inl rfl
      | false => exact Or.inr (by simpa [hforced] using hhit)
    have hall : ranked q.docs (Query.compileFilters q.config) keyOrder
        (if move.page > 1 then move.cursor else none) =
          .ok (q.ordered.drop ((move.page - 1).toNat * q.size)) := by
      rcases hentry with hone | ⟨key, hkey, hopens⟩
      · rw [if_neg (by omega), hone]
        simpa using ranked_start
      · split
        · rw [hkey]
          exact ranked_opens hopens
        · have hone : move.page = 1 := by have := hreach.one_le; omega
          rw [hone]
          simpa using ranked_start
    have hask := ask_fetched c.client ht.quiet ht.looks hf he q.rows hmiss
      (fun d hd => q.get_id hd) q.passing hall
      (fun d hd => q.get_id (q.mem_docs (List.mem_of_mem_drop hd)))
    have htotal : (t.browser.knownTotal? q.config c.forced).getD (q.matching.length : Int) =
        q.ordered.length := by
      unfold Browser.knownTotal?
      split
      · rename_i hbrowse
        cases hu : t.browser.unfiltered with
        | none => simp [q.perm.length_eq]
        | some n => exact ht.counted (by simp_all) n hu
      · simp [q.perm.length_eq]
    have hrows : (q.ordered.drop ((move.page - 1).toNat * q.size)).take
        t.browser.paging.pageSize.toNat = q.page move.page := by
      rw [ht.size]
      rfl
    rw [htotal, hrows, hfingerprint] at hask
    refine shown ht hreach hentry hlen ?_ hask
    intro p hp
    rcases List.mem_cons.mp hp with rfl | hp
    · exact ⟨move.page, hreach, rfl, rfl, rfl⟩
    · exact ht.kept p (List.mem_filter.mp hp).1

/-- So do any calls, in any order. -/
theorem calls_walk (h : q.Walking s) (cs : List Call) : q.Walking (s.calls cs) := by
  induction cs generalizing s with
  | nil => exact h
  | cons c rest ih => exact ih (call_walks h c).1

/-! ## The law -/

theorem walking_of_fresh (h : Fresh q.connection q.collection q.docs q.config q.size s) :
    q.Walking s where
  quiet := h.quiet
  looks := h.looks
  config := h.config
  connection := h.connection
  size := by rw [h.paging]; rfl
  reachable := by rw [h.paging]; exact Or.inl rfl
  entered := by rw [h.paging]; rfl
  previous := by intro i key hkey; rw [h.paging] at hkey; simp [Paging.start] at hkey
  next := by intro key hkey; rw [h.paging] at hkey; simp [Paging.start] at hkey
  kept := by intro p hp; rw [h.cache] at hp; cases hp
  counted := by intro _ n hn; rw [h.unfiltered] at hn; cases hn

/-- After any calls a further call shows exactly the documents of the page it leads to, with the
number of all that match. It leads to the page asked for, but never further than one page behind
the one shown, and not at all behind a page without documents. -/
theorem every_page_is_its_block (q : KeyQuery) (s : Session)
    (h : Fresh q.connection q.collection q.docs q.config q.size s) (cs : List Call) (c : Call) :
    let before := s.calls cs
    let after := before.call c
    after.browser.state = .success ∧
    after.browser.view.rows = block q.ordered q.size after.browser.paging.page ∧
    after.browser.view.total = some (q.ordered.length : Int) ∧
    after.browser.paging.page =
      if c.page ≤ 1 ∨ cs = [] then 1
      else if c.page ≤ before.browser.paging.page then c.page
      else if before.browser.view.rows = [] then before.browser.paging.page
      else before.browser.paging.page + 1 := by
  have hwalk := calls_walk (walking_of_fresh h) cs
  obtain ⟨-, hshow, hpage⟩ := call_walks hwalk c
  refine ⟨hshow.state, hshow.rows, hshow.total, hpage.trans ?_⟩
  unfold landing
  rcases List.eq_nil_or_concat cs with rfl | ⟨first, last, rfl⟩
  · have hstart : (s.calls []).browser.paging = .start q.size := h.paging
    simp only [hstart, Paging.start, Option.isSome_none, Bool.false_eq_true, if_false, or_true,
      if_true]
    split <;> rfl
  · have hlast : s.calls (first ++ [last]) = (s.calls first).call last := by
      unfold calls
      rw [List.foldl_append]
      rfl
    obtain ⟨-, hbefore, -⟩ := call_walks (calls_walk (walking_of_fresh h) first) last
    rw [← hlast] at hbefore
    have hnext := hbefore.next
    rw [List.concat_eq_append]
    simp only [List.append_eq_nil_iff, List.cons_ne_nil, and_false, or_false]
    cases hn : (s.calls (first ++ [last])).browser.paging.next with
    | none => simp [hnext.mp hn]
    | some key =>
      have hne : (s.calls (first ++ [last])).browser.view.rows ≠ [] := fun hnil => by
        rw [hnext.mpr hnil] at hn
        cases hn
      simp [hne]

/-- Two documents, the later key first. -/
def twoDocs : List Fields := [[("id", .int 2)], [("id", .int 1)]]

theorem twoDocs_apart :
    Cache.TellsApart (some "main") (some "docs") .initial (2 : Nat) (fullPages 2 2 + 1 : Nat) :=
  Cache.tellsApart_of_nodup (by decide +kernel)

/-- All documents of a collection, two on a page. -/
def twoDocsQuery : KeyQuery where
  connection := some "main"
  collection := "docs"
  docs := twoDocs
  config := .initial
  size := 2
  matching := twoDocs
  ordered := twoDocs.reverse
  registry := .empty
  keyed := ⟨Or.inr (by simp [twoDocs, Fields.get, Named.get?]),
    by simp [twoDocs, Fields.get, Named.get?]⟩
  nonempty := by decide
  rows := rfl
  typed := by decide
  ranking := rfl
  passing := rfl
  perm := List.reverse_perm _
  ascending := by simp [twoDocs, Ascending, rowKey, Fields.get, Named.get?, RowKey.ofValue,
    RowKey.before]
  apart := twoDocs_apart

/-- A browser of these documents. -/
def twoDocsSession : Session :=
  let documents : Documents := twoDocs.map (fun d => ⟨d.get "id", d⟩)
  .start (.start { Settings.default with pageSize := 2 } (some "main") (some "docs") (some 0) none)
    [.ofSource (.store ⟨[("docs", documents)], []⟩ true)] none

theorem twoDocsSession_fresh :
    Fresh (some "main") "docs" twoDocs .initial 2 twoDocsSession where
  quiet := ⟨rfl, rfl, rfl, rfl⟩
  looks := ⟨rfl, 0, _, rfl, rfl, ⟨_, _, _, rfl, (fun _ _ h => by cases h), rfl, rfl⟩, rfl, rfl, rfl⟩
  config := rfl
  connection := rfl
  paging := rfl
  cache := rfl
  unfiltered := rfl

/-- Behind the last page nothing is shown; and the first page is shown again as it was kept. -/
theorem two_documents_are_shown_again :
    ((twoDocsSession.calls [⟨0.0, 1, 1, false⟩, ⟨1.0, 1, 2, false⟩]).call
      ⟨2.0, 1, 1, false⟩).browser.view.rows = twoDocs.reverse := by
  obtain ⟨-, hrows, -, hpage⟩ := every_page_is_its_block twoDocsQuery twoDocsSession
    twoDocsSession_fresh [⟨0.0, 1, 1, false⟩, ⟨1.0, 1, 2, false⟩] ⟨2.0, 1, 1, false⟩
  rw [if_pos (Or.inl (by decide))] at hpage
  rw [hpage] at hrows
  exact hrows

end KeyQuery

end Session

end Folio
