-- Pages whose fingerprints are digests of the same text. Every part of a query goes into that text,
-- and no two parts can be taken for one another; only numbers that are not finite are lost from the
-- constants of a ranking.
import Folio.Cache.Fingerprint
import Folio.Proofs.CanonicalTexts

namespace Folio

/-- Two views that tell the same items apart tell the same lists apart. -/
theorem map_eq_map_iff {α β γ : Type} {f : α → β} {g : α → γ} (xs : List α)
    (h : ∀ a ∈ xs, ∀ b, f a = f b ↔ g a = g b) (ys : List α) :
    xs.map f = ys.map f ↔ xs.map g = ys.map g := by
  induction xs generalizing ys with
  | nil => cases ys <;> simp
  | cons a xs ih =>
    rcases ys with _ | ⟨b, ys⟩
    · simp
    · simp only [List.map_cons, List.cons.injEq, h a (by simp) b,
        ih (fun a ha => h a (by simp [ha])) ys]

namespace Value

theorem inOrder_scalar (s : Scalar) : (Value.scalar s).inOrder = .scalar s := by rw [inOrder]

/-- A value that may be missing tells what it was made of. -/
theorem ofOption_text_iff {a b : Option String} :
    (ofOption .text a).inOrder = (ofOption .text b).inOrder ↔ a = b := by
  rcases a with _ | a <;> rcases b with _ | b <;> simp [ofOption, inOrder]

end Value

/-! ## Rankings up to the order of fields -/

namespace RankNode

mutual

/-- The ranking with the fields of its constants in order. -/
def inOrder : RankNode → RankNode
  | node kind attr constant operator operands =>
    node kind attr constant.inOrder operator (inOrderAll operands)

def inOrderAll : List RankNode → List RankNode
  | [] => []
  | n :: rest => inOrder n :: inOrderAll rest

end

theorem inOrderAll_eq (nodes : List RankNode) : inOrderAll nodes = nodes.map inOrder := by
  induction nodes with
  | nil => rfl
  | cons n rest ih => rw [inOrderAll, ih, List.map_cons]

theorem toValues_eq (nodes : List RankNode) : toValues nodes = nodes.map toValue := by
  induction nodes with
  | nil => rfl
  | cons n rest ih => rw [toValues, ih, List.map_cons]

/-- A property of rankings that holds of a node as soon as it holds of its operands holds of all
rankings. -/
theorem operands_induction {P : RankNode → Prop}
    (node : ∀ kind attr constant operator operands, (∀ n ∈ operands, P n) →
      P (.node kind attr constant operator operands)) (n : RankNode) : P n := by
  refine @RankNode.rec P (fun nodes => ∀ n ∈ nodes, P n) node ?_ ?_ n
  · intro n hn
    cases hn
  · intro n rest hn hrest m hm
    rcases List.mem_cons.mp hm with rfl | hm
    · exact hn
    · exact hrest m hm

theorem kind_name_injective {k l : RankKind} (h : k.name = l.name) : k = l := by
  cases k <;> cases l <;> first | rfl | exact absurd h (by decide)

/-- A node as it is stored tells everything about the node. -/
theorem toValue_inOrder_iff (n m : RankNode) :
    n.toValue.inOrder = m.toValue.inOrder ↔ n.inOrder = m.inOrder := by
  induction n using operands_induction generalizing m with
  | node kind attr constant operator operands ih =>
    obtain ⟨kind', attr', constant', operator', operands'⟩ := m
    have hoperands := map_eq_map_iff (f := Value.inOrder ∘ toValue) _ ih operands'
    rw [toValue, toValue, inOrder, inOrder, toValues_eq, toValues_eq, inOrderAll_eq, inOrderAll_eq]
    refine (Value.inOrder_object_iff_of_names (by rfl)).trans ?_
    simp only [List.map_cons, List.map_nil, Value.fieldInOrder, List.cons.injEq, Prod.mk.injEq,
      true_and, and_true, Value.inOrder_scalar, Value.ofOption_text_iff, Value.inOrder_list,
      Value.list.injEq, List.map_map, hoperands, Value.scalar.injEq, Scalar.text.injEq, node.injEq]
    constructor
    · rintro ⟨hkind, rest⟩
      exact ⟨kind_name_injective hkind, rest⟩
    · rintro ⟨rfl, rest⟩
      exact ⟨rfl, rest⟩

end RankNode

/-! ## Queries of the same shape -/

/-- What a filter asks, without its id and what readers see of it. -/
def Predicate.shape (p : Predicate) : (String × Operator × Operand) × String :=
  (p.triple, p.attrType)

namespace Predicate

/-- A filter as it goes into the text of a page. -/
def digested (p : Predicate) : Value :=
  .list [.text p.attr, .text p.operator.name, p.operand.toValue, .text p.attrType]

theorem operator_name_injective {a b : Operator} (h : a.name = b.name) : a = b := by
  have hread (op : Operator) : Operator.ofName? op.name = some op := by cases op <;> decide
  have hsame := hread a
  rw [h, hread b] at hsame
  exact (Option.some.inj hsame).symm

theorem operand_inOrder (o : Operand) : o.toValue.inOrder = o.toValue := by
  rcases o with _ | s | items
  · rfl
  · rfl
  · rw [Operand.toValue, Value.inOrder_list, List.map_map]
    rfl

theorem operand_injective {o r : Operand} (h : o.toValue = r.toValue) : o = r := by
  rcases o with _ | s | items <;> rcases r with _ | t | others <;>
    simp only [Operand.toValue, Value.scalar.injEq, Value.list.injEq, reduceCtorEq] at h
  · rfl
  · rw [h]
  · rw [List.map_injective_iff.mpr (fun a b hab => Value.scalar.inj hab) h]

theorem digested_iff (p q : Predicate) :
    p.digested.inOrder = q.digested.inOrder ↔ p.shape = q.shape := by
  simp only [digested, Value.inOrder_list, List.map_cons, List.map_nil, Value.inOrder_scalar,
    operand_inOrder, Value.list.injEq, List.cons.injEq, Value.scalar.injEq, Scalar.text.injEq,
    and_true, shape, triple, Prod.mk.injEq]
  constructor
  · rintro ⟨hattr, hoperator, hoperand, htype⟩
    exact ⟨⟨hattr, operator_name_injective hoperator, operand_injective hoperand⟩, htype⟩
  · rintro ⟨⟨hattr, hoperator, hoperand⟩, htype⟩
    exact ⟨hattr, congrArg Operator.name hoperator, congrArg Operand.toValue hoperand, htype⟩

end Predicate

/-- Two queries ask the same. In the constants of a ranking, fields may stand in any order and a
number that is not finite counts as null. -/
structure QueryConfig.SameShape (c d : QueryConfig) : Prop where
  predicates : c.predicates.map Predicate.shape = d.predicates.map Predicate.shape
  searchText : c.searchText = d.searchText
  queryMode : c.queryMode = d.queryMode
  rankingMode : c.rankingMode = d.rankingMode
  sortAttr : c.sortAttr = d.sortAttr
  sortDirection : c.sortDirection = d.sortDirection
  vectorQuery : c.vectorQuery = d.vectorQuery
  vectorField : c.vectorField = d.vectorField
  textFields : c.textFields = d.textFields
  combination : c.combination = d.combination
  ranking : c.ranking.map (·.finite.inOrder) = d.ranking.map (·.finite.inOrder)
  aggregations : c.aggregations = d.aggregations
  groupBy : c.groupBy = d.groupBy

namespace QueryConfig

theorem textField_iff (f g : TextField) : f.toValue.inOrder = g.toValue.inOrder ↔ f = g := by
  obtain ⟨field, weight⟩ := f
  obtain ⟨field', weight'⟩ := g
  refine (Value.inOrder_object_iff_of_names (by rfl)).trans ?_
  simp [Value.fieldInOrder, Value.inOrder_scalar]

theorem aggregation_iff (a b : Aggregation) : a.toValue.inOrder = b.toValue.inOrder ↔ a = b := by
  obtain ⟨name, function, attr⟩ := a
  obtain ⟨name', function', attr'⟩ := b
  refine (Value.inOrder_object_iff_of_names (by rfl)).trans ?_
  simp [Value.fieldInOrder, Value.inOrder_scalar, Value.ofOption_text_iff]

theorem ranking_iff (a b : Option RankNode) :
    (Value.ofOption RankNode.toValue a).inOrder = (Value.ofOption RankNode.toValue b).inOrder ↔
      a.map RankNode.inOrder = b.map RankNode.inOrder := by
  have hnull (n : RankNode) : n.toValue.inOrder ≠ Value.null.inOrder := by
    obtain ⟨kind, attr, constant, operator, operands⟩ := n
    rw [RankNode.toValue, Value.inOrder_object, Value.inOrder]
    simp
  rcases a with _ | n <;> rcases b with _ | m <;>
    simp [Value.ofOption, RankNode.toValue_inOrder_iff, hnull, (hnull _).symm]

theorem vector_iff (a b : Option (List Float)) :
    (Value.ofOption (fun v => .list (v.map .float)) a).inOrder =
      (Value.ofOption (fun v => .list (v.map .float)) b).inOrder ↔ a = b := by
  have hitems (xs ys : List Float) := map_eq_map_iff (f := Value.inOrder ∘ Value.float) (g := id)
    xs (fun x _ y => by simp [Value.inOrder_scalar]) ys
  rcases a with _ | xs <;> rcases b with _ | ys <;>
    simp [Value.ofOption, Value.inOrder_list, Value.inOrder, hitems]

/-- What shapes a query apart from filters and search text is told by its fields. -/
theorem shapeFields_iff (c d : QueryConfig) :
    (Value.object c.shapeFields).inOrder = (Value.object d.shapeFields).inOrder ↔
      c.queryMode = d.queryMode ∧ c.rankingMode = d.rankingMode ∧ c.sortAttr = d.sortAttr ∧
      c.sortDirection = d.sortDirection ∧ c.vectorQuery = d.vectorQuery ∧
      c.vectorField = d.vectorField ∧ c.textFields = d.textFields ∧
      c.combination = d.combination ∧
      c.ranking.map RankNode.inOrder = d.ranking.map RankNode.inOrder ∧
      c.aggregations = d.aggregations ∧ c.groupBy = d.groupBy := by
  have hmode (a b : QueryMode) : a.name = b.name ↔ a = b := by
    cases a <;> cases b <;> simp [QueryMode.name]
  have hranking (a b : RankingMode) : a.name = b.name ↔ a = b := by
    cases a <;> cases b <;> simp [RankingMode.name]
  have hdirection (a b : SortDirection) : a.name = b.name ↔ a = b := by
    cases a <;> cases b <;> simp [SortDirection.name]
  have hcombination (a b : Combination) : a.name = b.name ↔ a = b := by
    cases a <;> cases b <;> simp [Combination.name]
  have hfields := map_eq_map_iff (f := Value.inOrder ∘ TextField.toValue) (g := id)
    c.textFields (fun f _ g => textField_iff f g) d.textFields
  have haggregations := map_eq_map_iff (f := Value.inOrder ∘ Aggregation.toValue) (g := id)
    c.aggregations (fun a _ b => aggregation_iff a b) d.aggregations
  have hgroups := map_eq_map_iff (f := Value.inOrder ∘ Value.text) (g := id)
    c.groupBy (fun a _ b => by simp [Value.inOrder_scalar]) d.groupBy
  refine (Value.inOrder_object_iff_of_names (by rfl)).trans ?_
  simp only [shapeFields, List.map_cons, List.map_nil, Value.fieldInOrder, List.cons.injEq,
    Prod.mk.injEq, true_and, and_true, Value.inOrder_scalar, Value.scalar.injEq, Scalar.text.injEq,
    Value.ofOption_text_iff, vector_iff, ranking_iff, Value.texts, Value.inOrder_list,
    Value.list.injEq, List.map_map, hmode, hranking, hdirection, hcombination, hfields,
    haggregations, hgroups, List.map_id]

end QueryConfig

namespace Cache

/-- The bytes that the fingerprint of a page is the digest of. -/
def pageBytes (connection collection : Option String) (c : QueryConfig) (page pageSize : Int) :
    List UInt8 :=
  plainBytes (Json.valueText .compact (shape (.ofOption .text connection)
    (.ofOption .text collection) c (.int page) (.int pageSize)))

theorem fingerprint_eq (connection collection : Option String) (c : QueryConfig)
    (page pageSize : Int) : fingerprint connection collection c page pageSize =
      Digest.sha256 (pageBytes connection collection c page pageSize) := rfl

theorem plainBytes_injective {s t : List Char} (hs : Json.Plain s) (ht : Json.Plain t)
    (h : plainBytes s = plainBytes t) : s = t := by
  induction s generalizing t with
  | nil => exact (List.map_eq_nil_iff.mp h.symm).symm
  | cons c rest ih =>
    rcases t with _ | ⟨d, others⟩
    · cases h
    · obtain ⟨hbyte, hrest⟩ := List.cons.inj h
      have hc := hs c (by simp)
      have hd := ht d (by simp)
      have hcode : c.toNat = d.toNat := by
        have hnat : (UInt8.ofNat c.toNat).toNat = (UInt8.ofNat d.toNat).toNat :=
          congrArg UInt8.toNat hbyte
        rw [UInt8.toNat_ofNat', UInt8.toNat_ofNat'] at hnat
        omega
      rw [Char.toNat_inj.mp hcode, ih (fun e he => hs e (by simp [he]))
        (fun e he => ht e (by simp [he])) hrest]

theorem pageBytes_eq_iff_inOrder (connection connection' collection collection' : Option String)
    (c d : QueryConfig) (page page' pageSize pageSize' : Int) :
    pageBytes connection collection c page pageSize =
        pageBytes connection' collection' d page' pageSize' ↔
      (shape (.ofOption .text connection) (.ofOption .text collection) c (.int page)
        (.int pageSize)).inOrder =
      (shape (.ofOption .text connection') (.ofOption .text collection') d (.int page')
        (.int pageSize')).inOrder := by
  rw [← Json.valueText_eq_iff]
  constructor
  · exact plainBytes_injective (Json.plain_valueText _) (Json.plain_valueText _)
  · intro h
    unfold pageBytes
    rw [h]

/-- The value that is digested tells everything that shapes a page. -/
theorem shape_inOrder_iff (connection connection' collection collection' : Option String)
    (c d : QueryConfig) (page page' pageSize pageSize' : Int) :
    (shape (.ofOption .text connection) (.ofOption .text collection) c (.int page)
        (.int pageSize)).inOrder =
      (shape (.ofOption .text connection') (.ofOption .text collection') d (.int page')
        (.int pageSize')).inOrder ↔
    connection = connection' ∧ collection = collection' ∧ page = page' ∧ pageSize = pageSize' ∧
      c.SameShape d := by
  have hpredicates := map_eq_map_iff (f := Value.inOrder ∘ Predicate.digested) (g := Predicate.shape)
    c.predicates (fun p _ q => Predicate.digested_iff p q) d.predicates
  unfold shape
  simp only [Value.inOrder_list, List.map_cons, List.map_nil, Value.list.injEq, List.cons.injEq,
    Value.ofOption_text_iff, Value.inOrder_scalar, List.map_map, and_true, Value.scalar.injEq,
    Scalar.text.injEq, Scalar.int.injEq, QueryConfig.shapeFields_iff, Option.map_map]
  constructor
  · rintro ⟨rfl, rfl, htext, hfilters, rfl, rfl, hmode, hranked, hattr, hdirection, hvector, hfield,
      hfields, hcombination, hranking, haggregations, hgroups⟩
    exact ⟨rfl, rfl, rfl, rfl, hpredicates.mp hfilters, htext, hmode, hranked, hattr, hdirection,
      hvector, hfield, hfields, hcombination, hranking, haggregations, hgroups⟩
  · rintro ⟨rfl, rfl, rfl, rfl, h⟩
    exact ⟨rfl, rfl, h.searchText, hpredicates.mpr h.predicates, rfl, rfl, h.queryMode,
      h.rankingMode, h.sortAttr, h.sortDirection, h.vectorQuery, h.vectorField, h.textFields,
      h.combination, h.ranking, h.aggregations, h.groupBy⟩

/-- The texts of two pages are the same exactly when their connections and collections, their
numbers, the sizes of the pages and what the queries ask are the same. -/
theorem pageBytes_eq_iff (connection connection' collection collection' : Option String)
    (c d : QueryConfig) (page page' pageSize pageSize' : Int) :
    pageBytes connection collection c page pageSize =
        pageBytes connection' collection' d page' pageSize' ↔
      connection = connection' ∧ collection = collection' ∧ page = page' ∧ pageSize = pageSize' ∧
        c.SameShape d := by
  rw [pageBytes_eq_iff_inOrder, shape_inOrder_iff]

/-- The query that ranks by a number times an attribute. -/
def scaledBy (x : Float) : QueryConfig :=
  { QueryConfig.initial with
    rankingMode := .expression
    ranking := some (.node .operator none .null (some "Product") [
      .node .constant none (.float x) none [], .node .attr (some "v") .null none []]) }

/-- Both infinities are null in the text of a page, although their rankings are not the same. -/
theorem infinities_share_a_text :
    pageBytes (some "main") (some "docs") (scaledBy (Number.infinity false)) 2 1 =
        pageBytes (some "main") (some "docs") (scaledBy (Number.infinity true)) 2 1 ∧
      (scaledBy (Number.infinity false)).ranking.map RankNode.inOrder ≠
        (scaledBy (Number.infinity true)).ranking.map RankNode.inOrder := by
  have hnull (negative : Bool) : (Scalar.float (Number.infinity negative)).finite = .null := by
    have hsize : Number.magnitude (Number.infinity negative) = .infinite negative := by
      cases negative <;> decide +kernel
    simp only [Scalar.finite, hsize]
  have hfinite (negative : Bool) : (scaledBy (Number.infinity negative)).ranking.map RankNode.finite =
      some (.node .operator none .null (some "Product") [
        .node .constant none .null none [], .node .attr (some "v") .null none []]) := by
    simp [scaledBy, RankNode.finite, RankNode.finiteAll, hnull, Value.finite]
  constructor
  · unfold pageBytes shape
    rw [hfinite, hfinite]
    rfl
  · simp [scaledBy, RankNode.inOrder, RankNode.inOrderAll, Value.inOrder_scalar]
    decide +kernel

end Cache

end Folio
