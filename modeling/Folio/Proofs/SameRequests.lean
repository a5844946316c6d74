-- What queries of the same shape ask for. Two requests for one page of such queries differ in two
-- things at most: the key behind which the page starts, and the ranking, where that depends on what
-- is known of attributes or has numbers that are not finite.
import Folio.Proofs.PageTexts
import Folio.Query.Compile

namespace Folio

/-! ## Rankings -/

namespace RankNode

theorem compileAll_eq (nodes : List RankNode) : compileAll nodes = nodes.map compile := by
  induction nodes with
  | nil => rfl
  | cons n rest ih => rw [compileAll, ih, List.map_cons]

theorem finiteAll_eq (nodes : List RankNode) : finiteAll nodes = nodes.map finite := by
  induction nodes with
  | nil => rfl
  | cons n rest ih => rw [finiteAll, ih, List.map_cons]

end RankNode

namespace Value

theorem finiteItems_eq (items : List Value) : finiteItems items = items.map finite := by
  induction items with
  | nil => rfl
  | cons v rest ih => rw [finiteItems, ih, List.map_cons]

/-- A value as it goes into the text of a page: with fields in order, and without numbers that are
not finite. -/
def settled (v : Value) : Value := v.finite.inOrder

theorem settled_ofOption_text (a : Option String) :
    (ofOption .text a).settled = ofOption .text a := by
  cases a <;> rfl

theorem settled_list (items : List Value) : (list items).settled = .list (items.map settled) := by
  unfold settled
  rw [finite, finiteItems_eq, inOrder_list, List.map_map]
  rfl

end Value

namespace RankNode

/-- The ranking in a request, made of the ranking as it goes into the text of a page. -/
theorem compile_settled (n : RankNode) : n.finite.inOrder.compile = n.compile.settled := by
  induction n using operands_induction with
  | node kind attr constant operator operands ih =>
    rw [finite, inOrder, inOrderAll_eq, finiteAll_eq, List.map_map]
    cases kind with
    | attr => rw [compile, compile, Value.settled_ofOption_text]
    | constant => rw [compile, compile, Value.settled]
    | operator =>
      have hoperands : (operands.map (inOrder ∘ finite)).map compile =
          (operands.map compile).map Value.settled := by
        rw [List.map_map, List.map_map]
        exact List.map_congr_left ih
      rw [compile, compile, compileAll_eq, compileAll_eq, Value.settled_list, List.map_cons,
        hoperands, Value.settled_ofOption_text]

end RankNode

/-! ## Queries -/

namespace QueryConfig.SameShape

variable {c d : QueryConfig}

theorem search (h : c.SameShape d) : c.search = d.search := by
  unfold QueryConfig.search
  rw [h.searchText]

/-- Queries of the same shape have the same filters. -/
theorem compileFilters (h : c.SameShape d) : Query.compileFilters c = Query.compileFilters d := by
  -- what a filter asks is all that its request is made of
  let bare (shape : (String × Operator × Operand) × String) : Predicate :=
    ⟨"", shape.1.1, shape.2, false, shape.1.2.1, shape.1.2.2, ""⟩
  have hbare (predicates : List Predicate) : predicates.map Query.compilePredicate =
      (predicates.map Predicate.shape).map (Query.compilePredicate ∘ bare) := by
    rw [List.map_map]
    rfl
  unfold Query.compileFilters Query.filtersOf
  rw [h.search, h.queryMode, hbare, hbare, h.predicates]

theorem aggregates (h : c.SameShape d) : c.aggregates = d.aggregates := by
  unfold QueryConfig.aggregates
  rw [h.aggregations]

/-- Queries of the same shape that are ranked by what is known of the same attributes are ranked
alike. -/
theorem compileRank (h : c.SameShape d) {registry : Registry} {v w : Value}
    (hv : Query.compileRank c registry = .ok v) (hw : Query.compileRank d registry = .ok w) :
    v.settled = w.settled := by
  obtain ⟨predicates, searchText, queryMode, rankingMode, sortAttr, sortDirection, vectorQuery,
    vectorField, textFields, combination, ranking, aggregations, groupBy⟩ := c
  obtain ⟨predicates', searchText', queryMode', rankingMode', sortAttr', sortDirection',
    vectorQuery', vectorField', textFields', combination', ranking', aggregations', groupBy'⟩ := d
  have hranking := h.ranking
  have hsearch := h.searchText
  cases h.queryMode
  cases h.rankingMode
  cases h.sortAttr
  cases h.sortDirection
  cases h.vectorQuery
  cases h.vectorField
  cases h.textFields
  cases h.combination
  dsimp only at hranking hsearch
  subst hsearch
  cases rankingMode with
  | simple => rw [Except.ok.inj (hv.symm.trans hw)]
  | expression =>
    rcases ranking with _ | n <;> rcases ranking' with _ | m
    · rw [Except.ok.inj (hv.symm.trans hw)]
    · cases hranking
    · cases hranking
    · -- only here do constants come in
      have hsame : n.finite.inOrder = m.finite.inOrder := Option.some.inj hranking
      rw [← Except.ok.inj hv, ← Except.ok.inj hw, ← RankNode.compile_settled, hsame,
        RankNode.compile_settled]

end QueryConfig.SameShape

/-! ## Requests that are the same -/

namespace Value

theorem isNull_inOrder (v : Value) : v.inOrder.isNull = v.isNull := by
  cases v <;> rfl

theorem eq_null_of_isNull {v : Value} (h : v.isNull = true) : v = .null := by
  cases v <;> first | rfl | cases h

/-- The names of fields that are set are among the names of all. -/
theorem mem_names_of_set {fields : List (String × Value)} {field : String × Value}
    (h : field ∈ (fields.filter (!·.2.isNull)).map fieldInOrder) : field.1 ∈ fields.map (·.1) := by
  obtain ⟨other, hother, rfl⟩ := List.mem_map.mp h
  exact List.mem_map.mpr ⟨other, (List.mem_filter.mp hother).1, rfl⟩

/-- Fields of the same distinct names are the same when those of them are that are set. -/
theorem set_fields_iff {xs ys : List (String × Value)} (hnames : xs.map (·.1) = ys.map (·.1))
    (hnodup : (xs.map (·.1)).Nodup) :
    ((xs.filter (!·.2.isNull)).map fieldInOrder).Perm ((ys.filter (!·.2.isNull)).map fieldInOrder) ↔
      xs.map fieldInOrder = ys.map fieldInOrder := by
  induction xs generalizing ys with
  | nil =>
    cases List.map_eq_nil_iff.mp hnames.symm
    exact ⟨fun _ => rfl, fun _ => .refl _⟩
  | cons x xs ih =>
    rcases ys with _ | ⟨y, ys⟩
    · cases hnames
    · obtain ⟨name, v⟩ := x
      obtain ⟨name', w⟩ := y
      obtain ⟨hname, hrest⟩ := List.cons.inj hnames
      obtain ⟨hnew, hnodup'⟩ := List.nodup_cons.mp hnodup
      dsimp only at hname hnew hrest
      subst hname
      have hnew' : name ∉ ys.map (·.1) := hrest ▸ hnew
      have hrest' := ih hrest hnodup'
      simp only [List.map_cons, List.cons.injEq, ← hrest']
      cases hv : v.isNull <;> cases hw : w.isNull <;>
        simp only [List.filter_cons, hv, hw, Bool.not_true, Bool.not_false, if_true, if_false,
          Bool.false_eq_true, List.map_cons]
      · constructor
        · intro h
          rcases List.mem_cons.mp (h.mem_iff.mp List.mem_cons_self) with hsame | hin
          · rw [hsame] at h
            exact ⟨hsame, h.cons_inv⟩
          · exact absurd (mem_names_of_set hin) hnew'
        · rintro ⟨hsame, h⟩
          rw [hsame]
          exact h.cons _
      · constructor
        · intro h
          exact absurd (mem_names_of_set (h.mem_iff.mp List.mem_cons_self)) hnew'
        · rintro ⟨hsame, -⟩
          have hnull := congrArg isNull (Prod.mk.inj hsame).2
          rw [isNull_inOrder, isNull_inOrder, hv, hw] at hnull
          cases hnull
      · constructor
        · intro h
          exact absurd (mem_names_of_set (h.mem_iff.mpr List.mem_cons_self)) hnew
        · rintro ⟨hsame, -⟩
          have hnull := congrArg isNull (Prod.mk.inj hsame).2
          rw [isNull_inOrder, isNull_inOrder, hv, hw] at hnull
          cases hnull
      · rw [eq_null_of_isNull hv, eq_null_of_isNull hw]
        exact ⟨fun h => ⟨rfl, h⟩, fun h => h.2⟩

end Value

namespace Request

/-- Two requests are the same on the wire when each of their fields is. -/
theorem toFields_iff (r q : Request) :
    (Value.object r.toFields).inOrder = (Value.object q.toFields).inOrder ↔
      r.fields.map Value.fieldInOrder = q.fields.map Value.fieldInOrder := by
  have hnodup (r : Request) : (r.fields.map (·.1)).Nodup := by
    show ["filters", "rank_by", "top_k", "include_attributes", "aggregate_by", "group_by"].Nodup
    decide
  have hset : (r.toFields.map (·.1)).Nodup :=
    (hnodup r).sublist (List.filter_sublist.map _)
  rw [Value.inOrder_object_iff hset]
  exact Value.set_fields_iff rfl (hnodup r)

end Request

namespace Query

theorem key_inOrder_iff (a b : RowKey) : a.toValue.inOrder = b.toValue.inOrder ↔ a = b := by
  cases a <;> cases b <;> simp [RowKey.toValue, Value.inOrder_scalar]

/-- A filter with a start of the page is never the filter alone. -/
theorem withCursor_ne (filter : Value) (key : RowKey) :
    (withCursor filter (some key)).inOrder ≠ filter.inOrder := by
  intro h
  cases hnull : filter.isNull with
  | true =>
    rw [Value.eq_null_of_isNull hnull] at h
    simp [withCursor, test, Value.isNull, Value.inOrder_list, Value.inOrder] at h
  | false =>
    -- the filter would stand inside itself
    simp only [withCursor, hnull, Bool.false_eq_true, if_false, conjunction, Value.inOrder_list,
      List.map_cons, List.map_nil] at h
    have hsize := congrArg sizeOf h
    simp at hsize
    omega

/-- A start of a page is told from another one. -/
theorem withCursor_iff (filter : Value) (a b : Option RowKey) :
    (withCursor filter a).inOrder = (withCursor filter b).inOrder ↔ a = b := by
  rcases a with _ | a <;> rcases b with _ | b
  · exact ⟨fun _ => rfl, fun _ => rfl⟩
  · exact ⟨fun h => absurd h.symm (withCursor_ne filter b), fun h => nomatch h⟩
  · exact ⟨fun h => absurd h (withCursor_ne filter a), fun h => nomatch h⟩
  · cases hnull : filter.isNull <;>
      simp [withCursor, hnull, conjunction, test, Value.inOrder_list, key_inOrder_iff]

/-- Two requests for a page of one query: they differ in the key behind which the page starts and in
the ranking at most, and are the same on the wire when these two are. -/
structure AskAlike (filter : Value) (start : Option RowKey) (r : Request) (start' : Option RowKey)
    (q : Request) : Prop where
  filters : r.filters = withCursor filter start ∧ q.filters = withCursor filter start'
  topK : r.topK = q.topK
  includeAttributes : r.includeAttributes = q.includeAttributes
  aggregateBy : r.aggregateBy = q.aggregateBy
  groupBy : r.groupBy = q.groupBy
  same : (Value.object r.toFields).inOrder = (Value.object q.toFields).inOrder ↔
    start = start' ∧ r.rankBy.inOrder = q.rankBy.inOrder

theorem AskAlike.of_fields {filter : Value} {start start' : Option RowKey} {r q : Request}
    (filters : r.filters = withCursor filter start ∧ q.filters = withCursor filter start')
    (topK : r.topK = q.topK) (includeAttributes : r.includeAttributes = q.includeAttributes)
    (aggregateBy : r.aggregateBy = q.aggregateBy) (groupBy : r.groupBy = q.groupBy) :
    AskAlike filter start r start' q where
  filters := filters
  topK := topK
  includeAttributes := includeAttributes
  aggregateBy := aggregateBy
  groupBy := groupBy
  same := by
    rw [Request.toFields_iff]
    simp only [Request.fields, List.map_cons, List.map_nil, Value.fieldInOrder, filters.1, filters.2,
      topK, includeAttributes, aggregateBy, groupBy, List.cons.injEq, Prod.mk.injEq, true_and,
      and_true, withCursor_iff]

/-- The key behind which a page starts; the first page starts at the front. -/
def startOf (page : PageRequest) : Option RowKey := if page.page > 1 then page.cursor else none

/-- What queries of the same shape ask for. -/
theorem askAlike_of_sameShape {c d : QueryConfig} (h : c.SameShape d) {page page' : PageRequest}
    (hsize : page.pageSize = page'.pageSize) {registry registry' : Registry} {r q : Request}
    (hr : compilePage c page registry = .ok r) (hq : compilePage d page' registry' = .ok q) :
    AskAlike (compileFilters d) (startOf page) r (startOf page') q ∧
      (compileRank d registry = compileRank d registry' → r.rankBy.settled = q.rankBy.settled) := by
  have haggregates : aggregatesOf c = aggregatesOf d := by
    unfold aggregatesOf
    rw [h.aggregations]
  unfold compilePage at hr hq
  rw [h.aggregates, h.compileFilters, haggregates, h.groupBy, hsize] at hr
  cases hcounts : d.aggregates with
  | true =>
    simp only [hcounts, if_true, pure, Except.pure, Except.ok.injEq] at hr hq
    subst hr hq
    exact ⟨.of_fields ⟨rfl, rfl⟩ rfl rfl rfl rfl, fun _ => rfl⟩
  | false =>
    cases hv : compileRank c registry with
    | error f => simp [hcounts, hv, bind, Except.bind] at hr
    | ok v =>
      cases hw : compileRank d registry' with
      | error f => simp [hcounts, hw, bind, Except.bind] at hq
      | ok w =>
        simp only [hcounts, hv, hw, Bool.false_eq_true, if_false, bind, Except.bind, pure,
          Except.pure, Except.ok.injEq] at hr hq
        subst hr hq
        exact ⟨.of_fields ⟨rfl, rfl⟩ rfl rfl rfl rfl,
          fun hsame => h.compileRank hv hsame⟩

end Query

end Folio
