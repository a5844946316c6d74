-- Operators that come in pairs. Of two filters that differ in their operators only, of which one is
-- the opposite of the other, either both can be made or both are refused alike; and every document
-- passes exactly one of them, whatever stands under the attribute. So they divide a collection.
import Folio.Filter.Given
import Folio.Proofs.FilterMeanings

namespace Folio

variable {op neg : Operator}

/-! ## Opposite operators -/

namespace Operator

/-- The operator that lets through just what this one keeps out, for those that have one. -/
def opposite? : Operator → Option Operator
  | equals => some notEquals
  | isIn => some notIn
  | fits => some notFits
  | fitsAnyCase => some notFitsAnyCase
  | arrayContains => some notArrayContains
  | containsAny => some notContainsAny
  | _ => none

theorem ofName?_name (op : Operator) : ofName? op.name = some op := by
  cases op <;> decide

theorem takesMany_opposite (h : op.opposite? = some neg) : neg.takesMany = op.takesMany := by
  cases op <;> cases h <;> rfl

end Operator

/-- Opposite operators fit the same types. -/
theorem FieldType.allows_opposite (h : op.opposite? = some neg) (type : FieldType)
    (fullText : Bool) : type.allows fullText neg = type.allows fullText op := by
  cases op <;> cases h <;> rfl

/-- They make the same operand of an input. -/
theorem coerce_opposite (h : op.opposite? = some neg) (raw : Value) (type : FieldType) :
    coerce neg raw type = coerce op raw type := by
  have hinputs : inputs? neg raw = inputs? op raw := by
    unfold inputs?
    rw [Operator.takesMany_opposite h]
  unfold coerce
  rw [hinputs]

namespace Predicate

open Collection

/-- An operand is found for both, or both are refused alike. -/
theorem operandFor_opposite (h : op.opposite? = some neg) (attr : String) (raw : Value)
    (type : String) :
    (∃ operand, operandFor attr op raw type = .ok operand ∧
      operandFor attr neg raw type = .ok operand) ∨
    ∃ f g, operandFor attr op raw type = .error f ∧ operandFor attr neg raw type = .error g ∧
      f.family = g.family := by
  unfold operandFor
  rw [FieldType.allows_opposite h, coerce_opposite h, Operator.takesMany_opposite h]
  cases FieldType.allows (some type) true op with
  | false => exact .inr ⟨_, _, rfl, rfl, rfl⟩
  | true =>
    cases coerce op raw (some type) with
    | error f => exact .inr ⟨f, f, rfl, rfl, rfl⟩
    | ok operand =>
      cases hnone : op.takesMany && operand.items.isEmpty with
      | true =>
        refine .inr ⟨.noValues op, .noValues neg, ?_, ?_, rfl⟩ <;>
          simp [bind, Except.bind, throw, throwThe, MonadExceptOf.throw, hnone]
      | false =>
        refine .inl ⟨operand, ?_, ?_⟩ <;>
          simp [bind, Except.bind, pure, Except.pure, hnone]

/-- With opposite operators either both filters are refused alike, or both are made, with the same
operand for the same type. -/
theorem ofParts_opposite (h : op.opposite? = some neg) (id other : String) (attr raw : Value)
    (registry : Option Registry) :
    (∃ f g, ofParts (.text id) attr (.text op.name) raw registry = .error f ∧
      ofParts (.text other) attr (.text neg.name) raw registry = .error g ∧ f.family = g.family) ∨
    ∃ p, p.operator = op ∧ ofParts (.text id) attr (.text op.name) raw registry = .ok p ∧
      ofParts (.text other) attr (.text neg.name) raw registry =
        .ok { p with id := other, operator := neg } := by
  have hop : (Value.text op.name).text?.bind Operator.ofName? = some op := op.ofName?_name
  have hneg : (Value.text neg.name).text?.bind Operator.ofName? = some neg := neg.ofName?_name
  unfold ofParts
  rw [hop, hneg]
  dsimp only
  cases attr.isTrue with
  | false => exact .inl ⟨_, _, rfl, rfl, rfl⟩
  | true =>
    cases registry.isSome && !attr.isKey with
    | true => exact .inl ⟨_, _, rfl, rfl, rfl⟩
    | false =>
      simp only [Bool.not_true, Bool.false_eq_true, if_false]
      rcases operandFor_opposite h attr.shown raw
          ((attr.text?.bind fun name => registry.bind (·.typeOf? name)).getD assumedType) with
        ⟨operand, hone, htwo⟩ | ⟨f, g, hone, htwo, hfamily⟩
      · rw [hone, htwo]
        -- the attribute is read last, and it is the same one for both
        cases hread : Reader.text attr with
        | sound name => exact .inr ⟨_, rfl, rfl, rfl⟩
        | flawed flaws => exact .inl ⟨_, _, rfl, rfl, rfl⟩
      · rw [hone, htwo]
        exact .inl ⟨.filter f, .filter g, rfl, rfl, hfamily⟩

/-- What one of two opposite filters lets through, the other one keeps out. -/
theorem passes_opposite {p : Predicate} (h : p.operator.opposite? = some neg) (id : String)
    (doc : Fields) :
    passes doc (Query.compilePredicate { p with id := id, operator := neg }) =
      (passes doc (Query.compilePredicate p)).map (!·) := by
  unfold Query.compilePredicate
  cases hop : p.operator <;> rw [hop] at h <;> cases h <;> dsimp only
  case equals =>
    split
    · rw [passes_negation]
    · rw [passes_test, passes_test]
      rfl
  all_goals
    rw [passes_test, passes_test]
    rfl

/-- A filter with an opposite has an answer for every document. -/
theorem answers_of_opposite {p : Predicate} (h : p.operator.opposite? = some neg) (doc : Fields) :
    ∃ b, passes doc (Query.compilePredicate p) = .ok b := by
  refine compilePredicate_answers ?_ doc
  rintro hpattern
  rw [hpattern] at h
  cases h

end Predicate

/-! ## A collection divided -/

namespace QueryConfig

/-- Everything that passes one filter. -/
def only (p : Predicate) : QueryConfig := { initial with predicates := [p] }

theorem compileFilters_only (p : Predicate) :
    Query.compileFilters (only p) = Query.compilePredicate p := rfl

end QueryConfig

namespace Predicate

open Collection

/-- Two filters with opposite operators are refused alike, or both can be made; then every document
passes exactly one of them, so that each document of a collection is among those of one filter, and
the numbers of both add up to the number of all. -/
theorem opposite_filters_divide (h : op.opposite? = some neg) (id other : String)
    (attr raw : Value) (registry : Option Registry) :
    (∃ f g, ofParts (.text id) attr (.text op.name) raw registry = .error f ∧
      ofParts (.text other) attr (.text neg.name) raw registry = .error g ∧ f.family = g.family) ∨
    ∃ p q, ofParts (.text id) attr (.text op.name) raw registry = .ok p ∧
      ofParts (.text other) attr (.text neg.name) raw registry = .ok q ∧
      ∃ holds : Fields → Bool,
        (∀ doc, passes doc (Query.compilePredicate p) = .ok (holds doc) ∧
          passes doc (Query.compilePredicate q) = .ok (!holds doc)) ∧
        ∀ docs, select (Query.compileFilters (.only p)) docs = .ok (docs.filter holds) ∧
          select (Query.compileFilters (.only q)) docs = .ok (docs.filter (!holds ·)) ∧
          ∃ m n, answer docs (Query.compileCount (.only p)).toFields = .ok (countAnswer m) ∧
            answer docs (Query.compileCount (.only q)).toFields = .ok (countAnswer n) ∧
            answer docs (Query.compileCount .initial).toFields = .ok (countAnswer (m + n)) := by
  rcases ofParts_opposite h id other attr raw registry with hrefused | ⟨p, hop, hone, htwo⟩
  · exact .inl hrefused
  · subst hop
    choose holds hholds using answers_of_opposite h
    have hneg : ∀ doc, passes doc (Query.compilePredicate { p with id := other, operator := neg }) =
        .ok (!holds doc) := by
      intro doc
      rw [passes_opposite h, hholds]
      rfl
    refine .inr ⟨p, _, hone, htwo, holds, fun doc => ⟨hholds doc, hneg doc⟩, fun docs => ?_⟩
    have hmatching : select (Query.compileFilters (.only p)) docs = .ok (docs.filter holds) := by
      rw [QueryConfig.compileFilters_only]
      exact select_eq_filter fun doc _ => hholds doc
    have hothers : select (Query.compileFilters (.only { p with id := other, operator := neg }))
        docs = .ok (docs.filter (!holds ·)) := by
      rw [QueryConfig.compileFilters_only]
      exact select_eq_filter fun doc _ => hneg doc
    have hall : select (Query.compileFilters .initial) docs = .ok docs := select_null docs
    refine ⟨hmatching, hothers, _, _, answer_count_hasKey hmatching, answer_count_hasKey hothers, ?_⟩
    rw [answer_count_hasKey hall, List.countP_eq_countP_filter_add docs hasKey holds]

theorem tag_filters_divide :
    Operator.opposite? .equals = some .notEquals ∧
    ∃ p q, ofParts (.text "1") (.text "tag") (.text "equals") (.text "a") none = .ok p ∧
      ofParts (.text "2") (.text "tag") (.text "not_equals") (.text "a") none = .ok q ∧
      ∀ docs, ∃ m n, answer docs (Query.compileCount (.only p)).toFields = .ok (countAnswer m) ∧
        answer docs (Query.compileCount (.only q)).toFields = .ok (countAnswer n) ∧
        answer docs (Query.compileCount .initial).toFields = .ok (countAnswer (m + n)) := by
  have hopposite : Operator.opposite? .equals = some .notEquals := rfl
  refine ⟨hopposite, ?_⟩
  rcases opposite_filters_divide hopposite "1" "2" (.text "tag") (.text "a") none with
    ⟨f, g, hrefused, -, -⟩ | ⟨p, q, hone, htwo, holds, -, hdocs⟩
  · cases hrefused
  · exact ⟨p, q, hone, htwo, fun docs => (hdocs docs).2.2⟩

end Predicate

end Folio
