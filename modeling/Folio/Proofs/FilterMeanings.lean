-- What the filter of a query means. Unless a pattern is looked for, each test has an answer for every
-- document; and a document passes the whole filter just when it passes each part, whatever the
-- attributes are named. The number of documents and a page with room for all are asked for with the
-- same filter, so they are of the same documents.
import Folio.Proofs.Answers
import Folio.Proofs.Ranking

namespace Folio

namespace Collection

variable {doc : Fields}

/-! ## One test -/

theorem passes_negation (doc : Fields) (filter : Value) :
    passes doc (Query.negation filter) = (passes doc filter).map (!·) := by
  simp [Query.negation, passes]

/-- A list can always be asked for a member. -/
theorem memberOf_list (v : Value) (items : List Value) :
    memberOf v (.list items) = .ok (v.occursIn items) := by
  cases items with
  | nil => rfl
  | cons first rest => rfl

theorem stands_iff {v reference : Value} {r : Relation} :
    stands v r reference = true ↔ v.compare r reference = .ok true := by
  unfold stands
  cases v.compare r reference <;> simp

/-- A filter that looks for no pattern has an answer for every document. -/
theorem compilePredicate_answers {p : Predicate} (h : p.operator ≠ .pattern) (doc : Fields) :
    ∃ b, passes doc (Query.compilePredicate p) = .ok b := by
  unfold Query.compilePredicate
  cases hop : p.operator with
  | pattern => exact absurd hop h
  | equals =>
    dsimp only
    split <;> exact ⟨_, passes_test ..⟩
  | notEquals =>
    dsimp only
    split
    · rw [passes_negation, passes_test]
      exact ⟨_, rfl⟩
    · exact ⟨_, passes_test ..⟩
  | contains =>
    dsimp only
    split <;> exact ⟨_, passes_test ..⟩
  | isIn | notIn =>
    dsimp only
    rw [passes_test]
    simp only [Operator.token, testValue, memberOf_list]
    exact ⟨_, rfl⟩
  | _ => exact ⟨_, passes_test ..⟩

/-! ## All parts of a filter -/

theorem passesAll_iff {filters : List Value} :
    passesAll doc filters = .ok true ↔ ∀ f ∈ filters, passes doc f = .ok true := by
  induction filters with
  | nil => simp [passesAll]
  | cons f rest ih =>
    unfold passesAll
    rw [List.forall_mem_cons, ← ih]
    cases hf : passes doc f with
    | error e => simp [bind, Except.bind]
    | ok b => cases b <;> simp [bind, Except.bind, pure, Except.pure]

theorem passesAll_answers {filters : List Value} (h : ∀ f ∈ filters, ∃ b, passes doc f = .ok b) :
    ∃ b, passesAll doc filters = .ok b := by
  induction filters with
  | nil => exact ⟨true, rfl⟩
  | cons f rest ih =>
    obtain ⟨⟨b, hb⟩, hrest⟩ := List.forall_mem_cons.mp h
    unfold passesAll
    rw [hb]
    cases b with
    | true => exact ih hrest
    | false => exact ⟨false, rfl⟩

theorem combine_many (f g : Value) (rest : List Value) :
    Query.combine (f :: g :: rest) = Query.conjunction (f :: g :: rest) := rfl

/-- Joined filters let through what each of them lets through. -/
theorem passes_combine_iff {filters : List Value} :
    passes doc (Query.combine filters) = .ok true ↔ ∀ f ∈ filters, passes doc f = .ok true := by
  match filters with
  | [] => simp [Query.combine, passes]
  | [f] => simp [Query.combine]
  | f :: g :: rest => rw [combine_many, passes_conjunction_eq, passesAll_iff]

theorem combine_answers {filters : List Value} (h : ∀ f ∈ filters, ∃ b, passes doc f = .ok b) :
    ∃ b, passes doc (Query.combine filters) = .ok b := by
  match filters with
  | [] => exact ⟨true, rfl⟩
  | [f] => exact h f List.mem_cons_self
  | f :: g :: rest =>
    rw [combine_many, passes_conjunction_eq]
    exact passesAll_answers h

end Collection

/-! ## The filter of a query -/

namespace QueryConfig

open Collection

variable {c : QueryConfig} {doc : Fields}

/-- No pattern is looked for. -/
def PatternFree (c : QueryConfig) : Prop := ∀ p ∈ c.predicates, p.operator ≠ .pattern

/-- The search text is found in the key of a document, where it is looked for there. -/
def FindsKey (c : QueryConfig) (doc : Fields) : Prop :=
  c.queryMode = .browse → c.search ≠ "" →
    ∃ key, doc.get "id" = .text key ∧ Text.globMatches ("*" ++ c.search ++ "*") key = true

/-- A document stands behind the key where a page starts. -/
def IsBehind (start : Option RowKey) (doc : Fields) : Prop :=
  ∀ key, start = some key → (doc.get "id").compare .more key.toValue = .ok true

theorem passes_search_iff (part : String) (doc : Fields) :
    passes doc (Query.test Query.keyAttribute "Glob" (Query.around part)) = .ok true ↔
      ∃ key, doc.get "id" = .text key ∧ Text.globMatches ("*" ++ part ++ "*") key = true := by
  have htest : passes doc (Query.test Query.keyAttribute "Glob" (Query.around part)) =
      .ok (fitsGlob (doc.get "id") (.text ("*" ++ part ++ "*"))) := passes_test ..
  have hshown : (Value.text ("*" ++ part ++ "*")).shown = "*" ++ part ++ "*" := rfl
  rw [htest, Except.ok.injEq]
  unfold fitsGlob
  split
  · rename_i key hkey
    rw [hshown, hkey]
    constructor
    · exact fun h => ⟨key, rfl, h⟩
    · rintro ⟨_, ⟨⟩, h⟩
      exact h
  · rename_i hno
    constructor
    · intro h
      cases h
    · rintro ⟨key, hkey, _⟩
      exact absurd hkey (hno key)

theorem passes_boundary_iff (key : RowKey) (doc : Fields) :
    passes doc (Query.test Query.keyAttribute "Gt" key.toValue) = .ok true ↔
      (doc.get "id").compare .more key.toValue = .ok true := by
  have htest : passes doc (Query.test Query.keyAttribute "Gt" key.toValue) =
    .ok (!(doc.get "id").isNull && stands (doc.get "id") .more key.toValue) := passes_test ..
  rw [htest, Except.ok.injEq, Bool.and_eq_true, stands_iff, and_iff_right_iff_imp]
  intro hmore
  cases hid : doc.get "id" with
  | null =>
    rw [hid] at hmore
    cases key <;> simp [RowKey.toValue, Value.compare] at hmore
  | _ => rfl

/-- The filter of a query lets through what each of its filters lets through and what the search
finds. -/
theorem passes_compileFilters_iff :
    passes doc (Query.compileFilters c) = .ok true ↔
      (∀ p ∈ c.predicates, passes doc (Query.compilePredicate p) = .ok true) ∧ c.FindsKey doc := by
  unfold Query.compileFilters Query.filtersOf
  rw [passes_combine_iff, List.forall_mem_append, List.forall_mem_map, and_comm]
  refine and_congr_right fun _ => ?_
  unfold FindsKey
  split
  · rename_i hsearch
    rw [Bool.and_eq_true, bne_iff_ne, beq_iff_eq] at hsearch
    rw [List.forall_mem_singleton, passes_search_iff]
    exact ⟨fun h _ _ => h, fun h => h hsearch.2 hsearch.1⟩
  · rename_i hno
    rw [Bool.and_eq_true, bne_iff_ne, beq_iff_eq] at hno
    exact ⟨fun _ hmode hsearch => absurd ⟨hsearch, hmode⟩ hno, fun _ _ hf => nomatch hf⟩

theorem compileFilters_answers (h : c.PatternFree) (doc : Fields) :
    ∃ b, passes doc (Query.compileFilters c) = .ok b := by
  refine combine_answers fun f hf => ?_
  rcases List.mem_append.mp hf with hsearch | hpredicate
  · split at hsearch
    · rw [List.mem_singleton.mp hsearch]
      exact ⟨_, passes_test ..⟩
    · cases hsearch
  · obtain ⟨p, hp, rfl⟩ := List.mem_map.mp hpredicate
    exact compilePredicate_answers (h p hp) doc

theorem withCursor_of_some {filter : Value} (h : filter.isNull = false) (key : RowKey) :
    Query.withCursor filter (some key) =
      Query.conjunction [filter, Query.test Query.keyAttribute "Gt" key.toValue] := by
  simp [Query.withCursor, h]

/-- With the start of a page, what stands behind it is let through. -/
theorem passes_withCursor_iff (filter : Value) (start : Option RowKey) :
    passes doc (Query.withCursor filter start) = .ok true ↔
      passes doc filter = .ok true ∧ IsBehind start doc := by
  cases start with
  | none => simp [Query.withCursor, IsBehind]
  | some key =>
    have hbehind : IsBehind (some key) doc ↔
        (doc.get "id").compare .more key.toValue = .ok true := by simp [IsBehind]
    rw [hbehind, ← passes_boundary_iff]
    cases filter with
    | null => simp [Query.withCursor, Value.isNull, passes]
    | _ =>
      rw [withCursor_of_some rfl, passes_conjunction_eq, passesAll_iff, List.forall_mem_cons,
        List.forall_mem_singleton]

theorem withCursor_answers {filter : Value} (h : ∃ b, passes doc filter = .ok b)
    (start : Option RowKey) : ∃ b, passes doc (Query.withCursor filter start) = .ok b := by
  cases start with
  | none => exact h
  | some key =>
    have hboundary : ∃ b, passes doc (Query.test Query.keyAttribute "Gt" key.toValue) = .ok b :=
      ⟨_, passes_test ..⟩
    cases filter with
    | null => exact hboundary
    | _ =>
      rw [withCursor_of_some rfl, passes_conjunction_eq]
      exact passesAll_answers (List.forall_mem_cons.mpr ⟨h, List.forall_mem_singleton.mpr hboundary⟩)

/-! ## As many documents as are counted -/

variable {docs all : List Fields} {page : PageRequest} {registry : Registry} {ranking : Value}

/-- A page that starts nowhere in particular and has room for all shows as many documents as are
counted. -/
theorem page_as_counted (hid : ∀ d ∈ docs, (d.get "id").isNull = false)
    (haggregates : c.aggregates = false) (hstart : page.page ≤ 1 ∨ page.cursor = none)
    (hroom : (docs.length : Int) ≤ page.pageSize)
    (hrank : Query.compileRank c registry = .ok ranking)
    (hall : ranked docs (Query.compileFilters c) ranking none = .ok all) :
    ∃ request, Query.compilePage c page registry = .ok request ∧
      answer docs request.toFields = .ok (rowsAnswer all) ∧
      answer docs (Query.compileCount c).toFields = .ok (countAnswer all.length) := by
  have hnone : (if page.page > 1 then page.cursor else none) = none := by
    rcases hstart with hfirst | hcursor
    · rw [if_neg (by omega)]
    · simp [hcursor]
  obtain ⟨request, hrequest⟩ : ∃ request, Query.compilePage c page registry = .ok request := by
    unfold Query.compilePage
    rw [haggregates, hrank]
    exact ⟨_, rfl⟩
  obtain ⟨matching, hmatching, hranked⟩ : ∃ matching,
      select (Query.compileFilters c) docs = .ok matching ∧ rank matching ranking = .ok all := by
    unfold ranked Query.withCursor at hall
    cases hm : select (Query.compileFilters c) docs with
    | error e => rw [hm] at hall; cases hall
    | ok matching => rw [hm] at hall; exact ⟨matching, rfl, hall⟩
  have hlength : all.length = matching.length := by
    rw [(rank_perm hranked).length_eq, List.length_map]
  have htake : all.take page.pageSize.toNat = all := by
    refine List.take_of_length_le ?_
    have := (select_sublist hmatching).length_le
    omega
  refine ⟨request, hrequest, ?_, ?_⟩
  · rw [answer_page haggregates hrank hrequest (by rw [hnone]; exact hall), htake]
  · rw [answer_count hmatching hid, hlength]

/-- A document passes the filter of a query just when it passes each of the filters on its own, the
search text is found in its key where it is looked for, and it stands behind the start of the page.
Where no pattern is looked for there is an answer for every document. As many documents are counted
as a page with room for all shows. -/
theorem filter_is_conjunction (c : QueryConfig) :
    (∀ start doc, passes doc (Query.withCursor (Query.compileFilters c) start) = .ok true ↔
      (∀ p ∈ c.predicates, passes doc (Query.compilePredicate p) = .ok true) ∧
        c.FindsKey doc ∧ IsBehind start doc) ∧
    (c.PatternFree → ∀ start doc,
      ∃ b, passes doc (Query.withCursor (Query.compileFilters c) start) = .ok b) ∧
    ∀ (docs : List Fields) (page : PageRequest) (registry : Registry) (ranking : Value)
      (all : List Fields), (∀ d ∈ docs, (d.get "id").isNull = false) → c.aggregates = false →
      (page.page ≤ 1 ∨ page.cursor = none) → (docs.length : Int) ≤ page.pageSize →
      Query.compileRank c registry = .ok ranking →
      ranked docs (Query.compileFilters c) ranking none = .ok all →
      ∃ request rows, Query.compilePage c page registry = .ok request ∧
        answer docs request.toFields = .ok (rowsAnswer rows) ∧
        answer docs (Query.compileCount c).toFields = .ok (countAnswer rows.length) := by
  refine ⟨fun start doc => ?_, fun hfree start doc => ?_, ?_⟩
  · rw [passes_withCursor_iff, passes_compileFilters_iff, and_assoc]
  · exact withCursor_answers (compileFilters_answers hfree doc) start
  · intro docs page registry ranking all hid haggregates hstart hroom hrank hall
    obtain ⟨request, hrequest, hpage, hcount⟩ :=
      page_as_counted hid haggregates hstart hroom hrank hall
    exact ⟨request, all, hrequest, hpage, hcount⟩

/-- Filters on attributes with the names of what joins filters. -/
def oddlyNamed : QueryConfig :=
  { QueryConfig.initial with
    searchText := " a "
    predicates := [
      ⟨"1", "And", "int", false, .equals, .one (.int 1), "1"⟩,
      ⟨"2", "Not", "[]string", false, .notContainsAny, .many [.text "x"], "[x]"⟩] }

def oddDocs : List Fields := [
  [("id", .text "ab"), ("And", .int 1), ("Not", .list [.text "y"])],
  [("id", .text "ac"), ("And", .int 1), ("Not", .list [.text "x"])],
  [("id", .text "ad"), ("And", .int 1)]]

theorem oddly_named_conjunction :
    (∀ start doc, ∃ b, passes doc (Query.withCursor (Query.compileFilters oddlyNamed) start) =
      .ok b) ∧
    ∃ request rows, Query.compilePage oddlyNamed ⟨1, 3, none⟩ .empty = .ok request ∧
      answer oddDocs request.toFields = .ok (rowsAnswer rows) ∧
      answer oddDocs (Query.compileCount oddlyNamed).toFields =
        .ok (countAnswer rows.length) := by
  obtain ⟨_, hanswers, hcounted⟩ := filter_is_conjunction oddlyNamed
  refine ⟨hanswers ?_, ?_⟩
  · intro p hp
    simp only [oddlyNamed, List.mem_cons, List.not_mem_nil, or_false] at hp
    rcases hp with rfl | rfl <;> decide
  · refine hcounted oddDocs ⟨1, 3, none⟩ .empty keyOrder
      [[("id", .text "ab"), ("And", .int 1), ("Not", .list [.text "y"])],
        [("id", .text "ad"), ("And", .int 1)]] ?_ rfl (.inl (by decide)) (by decide) rfl ?_
    · intro d hd
      simp only [oddDocs, List.mem_cons, List.not_mem_nil, or_false] at hd
      rcases hd with rfl | rfl | rfl <;> rfl
    · rfl

end QueryConfig

end Folio
