-- Calls for pages. A browser is asked for one page after another while nothing else goes on, and
-- what it shows is measured by the blocks of a list of documents.
import Folio.Proofs.OneLoad

namespace Folio

/-! ## Blocks -/

/-- The documents of a page, when pages of a size are cut from a list one after another. -/
def block (docs : List Fields) (size : Nat) (page : Int) : List Fields :=
  (docs.drop ((page - 1).toNat * size)).take size

/-- How many pages of a size a number of documents takes. -/
def fullPages (count size : Nat) : Nat := (count + size - 1) / size

theorem block_eq_nil_iff {docs : List Fields} {size : Nat} {page : Int} (hsize : 1 ≤ size) :
    block docs size page = [] ↔ docs.length ≤ (page - 1).toNat * size := by
  unfold block
  rw [List.take_eq_nil_iff, List.drop_eq_nil_iff]
  omega

theorem block_succ (docs : List Fields) (size k : Nat) :
    block docs size (k + 1) = (docs.drop (k * size)).take size := by
  unfold block
  rw [show ((k : Int) + 1 - 1).toNat = k by omega]

/-- The first blocks of a list make up its beginning. -/
theorem flatMap_block (docs : List Fields) (size n : Nat) :
    (List.range n).flatMap (fun k : Nat => block docs size (k + 1)) = docs.take (n * size) := by
  induction n with
  | zero => simp
  | succ n ih =>
    rw [List.range_succ, List.flatMap_append, ih, List.flatMap_singleton, block_succ,
      Nat.add_mul, Nat.one_mul, List.take_add]

/-- Where lists of one length are put together, they are the blocks of what they make up. The last
of them may be shorter. -/
theorem block_of_flatMap {f : Nat → List Fields} {size n : Nat}
    (hle : ∀ k < n, (f k).length ≤ size) (hfull : ∀ k, k + 1 < n → (f k).length = size)
    {k : Nat} (hk : k < n) : block ((List.range n).flatMap f) size (k + 1) = f k := by
  have hfront : ∀ m, m < n → ((List.range m).flatMap f).length = m * size := by
    intro m hm
    induction m with
    | zero => simp
    | succ m ih =>
      rw [List.range_succ, List.flatMap_append, List.length_append, ih (by omega),
        List.flatMap_singleton, hfull m hm, Nat.add_mul, Nat.one_mul]
  obtain ⟨r, rfl⟩ : ∃ r, n = k + 1 + r := ⟨n - (k + 1), by omega⟩
  have hsplit : (List.range (k + 1 + r)).flatMap f = (List.range k).flatMap f ++
      (f k ++ ((List.range r).map (k + 1 + ·)).flatMap f) := by
    rw [List.range_add, List.flatMap_append, List.range_succ, List.flatMap_append,
      List.flatMap_singleton, List.append_assoc]
  rw [block_succ, hsplit, ← hfront k hk, List.drop_left]
  rcases Nat.eq_zero_or_pos r with rfl | hr
  · simpa using List.take_of_length_le (hle k hk)
  · rw [← hfull k (by omega), List.take_left]

/-! ## Queries that stay as they are -/

/-- Filters whose attributes were known when they were made are never made anew. -/
theorem Predicate.retype_of_known {p : Predicate} (h : p.typeAssumed = false)
    (registry : Registry) : p.retype registry = p := by
  unfold Predicate.retype
  simp [h]

namespace Session

/-- A query whose filters are made for good, and which ranks whatever is known about attributes, is
found as it is. -/
theorem finds_of_typed {s : Session} {collection : String} {docs : List Fields} {ranking : Value}
    (hl : LooksAt s collection docs)
    (htyped : ∀ p ∈ s.browser.config.predicates, p.typeAssumed = false)
    (hrank : ∀ registry, Query.compileRank s.browser.config registry = .ok ranking) :
    Finds s s.browser.config ranking := by
  obtain ⟨t, ht, r, k, sent, yielded, answered, journal, rfl⟩ := ensureAttributes_learned hl
  have hmap : s.browser.config.predicates.map (·.retype r) = s.browser.config.predicates := by
    conv => rhs; rw [← List.map_id s.browser.config.predicates]
    refine List.map_congr_left fun p hp => ?_
    exact Predicate.retype_of_known (htyped p hp) r
  refine ⟨?_, hrank _⟩
  unfold informed
  rw [ht]
  simp only [update, Browser.retype, hmap]

/-! ## Calls -/

/-- A call for a page, made at some time. -/
structure Call where
  clock : Float
  client : Nat
  page : Int
  forced : Bool

/-- The session after a call for a page. -/
def call (s : Session) (c : Call) : Session :=
  ({ s with clock := c.clock } : Session).ask c.client (.load (.int c.page) c.forced)

/-- The session after calls for pages, made one after another. -/
def calls (s : Session) (cs : List Call) : Session := cs.foldl call s

/-- A browser that looks at a collection and has loaded nothing of it yet: paging starts over, no
page is kept, and no number of documents is known. -/
structure Fresh (connection : Option String) (collection : String) (docs : List Fields)
    (c : QueryConfig) (size : Nat) (s : Session) : Prop where
  quiet : Quiet s
  looks : LooksAt s collection docs
  config : s.browser.config = c
  connection : s.browser.connection = connection
  paging : s.browser.paging = .start size
  cache : s.browser.cache.pages = []
  unfiltered : s.browser.unfiltered = none

end Session

end Folio
