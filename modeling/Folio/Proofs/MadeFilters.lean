-- Filters made of any input. Either the input is refused for a reason that filters have, and nothing
-- else goes wrong, or a filter is made that is sound: its operator fits its type, its operand can be
-- read back, and an operator that compares with several values has some. A sound filter that looks
-- for no pattern has an answer for every document.
import Folio.Filter.Given
import Folio.Proofs.FilterMeanings
import Folio.Proofs.Retyping

namespace Folio

variable {raw : Value} {op : Operator} {operand : Operand} {type : FieldType}

/-! ## Operands -/

namespace OperandKind

theorem ofName?_name (kind : OperandKind) : ofName? kind.name = some kind := by
  cases kind <;> decide

end OperandKind

namespace Operand

theorem mapM_scalar? (items : List Scalar) :
    (items.map Value.scalar).mapM Value.scalar? = some items := by
  induction items with
  | nil => rfl
  | cons first rest ih =>
    rw [List.map_cons, List.mapM_cons, ih]
    rfl

/-- An operand is what its value makes. -/
theorem ofValue?_toValue (operand : Operand) : ofValue? operand.toValue = some operand := by
  cases operand with
  | nothing | one => rfl
  | many items =>
    change ((items.map Value.scalar).mapM Value.scalar?).map many = _
    rw [mapM_scalar?]
    rfl

/-- What is stored of an operand passes the check of its kind. -/
theorem read_record (operand : Operand) : read operand.record = .sound operand := by
  have hkind : ofKind? operand.kind operand.toValue = some operand := by
    unfold ofKind?
    rw [ofValue?_toValue]
    simp
  have hname : OperandKind.ofName? operand.kind.name = some operand.kind :=
    operand.kind.ofName?_name
  simp [read, record, Reader.object, Fields.needed, Fields.optional, Named.get?, Reader.word, hname,
    Reader.ofOption, Checked.within, Checked.map, Checked.both, Checked.andThen, Reader.any, hkind]

end Operand

/-! ## From inputs to operands -/

/-- Operators that compare with several values take every input apart. -/
theorem coerce_many (hmany : op.takesMany = true) (h : coerce op raw type = .ok operand) :
    ∃ items, operand = .many items := by
  obtain ⟨inputs, hinputs⟩ : ∃ inputs, inputs? op raw = some inputs := by
    cases raw with
    | list items => exact ⟨items, rfl⟩
    | _ => exact ⟨_, if_pos hmany⟩
  unfold coerce at h
  rw [hinputs] at h
  dsimp only at h
  cases hitems : parseItems type inputs with
  | error f =>
    rw [hitems] at h
    cases h
  | ok items =>
    rw [hitems] at h
    cases h
    exact ⟨items, rfl⟩

namespace Predicate

open Collection

/-- A filter that can be relied on. -/
structure Sound (p : Predicate) : Prop where
  /-- The operator fits the type, for a text that takes part in full-text search. -/
  fits : p.operator ∈ FieldType.operators (some p.attrType) true
  /-- The operand is of the kind it is said to have. -/
  readable : Operand.read p.operand.record = .sound p.operand
  /-- There is something to compare with, where several values are asked for. -/
  filled : p.operator.takesMany = true → ∃ first rest, p.operand = .many (first :: rest)

theorem mem_operators (h : type.allows true op = true) : op ∈ type.operators true :=
  List.mem_filter.mpr ⟨by cases op <;> decide, h⟩

/-- A filter is made for the attribute and the operator that are given, of an operand that fits. -/
theorem sound_of_build {id attr : String} {registry : Registry} {p : Predicate}
    (h : build id attr op raw registry = .ok p) : p.attr = attr ∧ p.operator = op ∧ p.Sound := by
  obtain ⟨operand, hoperand, rfl⟩ := build_ok h
  obtain ⟨hallows, hcoerce, hsome⟩ := operandFor_ok hoperand
  refine ⟨rfl, rfl, mem_operators hallows, operand.read_record, fun hmany => ?_⟩
  obtain ⟨items, rfl⟩ := coerce_many hmany hcoerce
  cases items with
  | nil => exact absurd rfl (hsome hmany)
  | cons first rest => exact ⟨first, rest, rfl⟩

/-! ## Parts that are texts -/

/-- Where the parts are texts, a filter is made or refused as if the operator had been known to be a
text from the start. -/
theorem ofParts_text (id attr operator : String) (raw : Value) (registry : Option Registry) :
    ofParts (.text id) (.text attr) (.text operator) raw registry =
      (make id attr operator raw (registry.getD .empty)).mapError Fault.filter := by
  have hname : (Value.text operator).text?.bind Operator.ofName? = Operator.ofName? operator := rfl
  have hattr : (Value.text attr).isTrue = !(attr == "") := rfl
  have hkey : (registry.isSome && !(Value.text attr).isKey) = false := Bool.and_false _
  have hknown : ((Value.text attr).text?.bind fun name => registry.bind (·.typeOf? name)) =
      (registry.getD .empty).typeOf? attr := by
    cases registry <;> rfl
  unfold ofParts make
  rw [hname, hattr, hkey]
  dsimp only
  rw [hknown]
  cases Operator.ofName? operator with
  | none => rfl
  | some op =>
    unfold build
    cases attr == "" with
    | true => rfl
    | false =>
      have hshown : (Value.text attr).shown = attr := rfl
      simp only [Bool.not_false, Bool.not_true, Bool.false_eq_true, if_false, hshown]
      cases operandFor attr op raw (((registry.getD .empty).typeOf? attr).getD assumedType) <;> rfl

/-- Whatever the parts are, a filter is refused for what is wrong with a filter, or it is made; and
then it is sound, and has an answer for every document unless it looks for a pattern. -/
theorem made_or_refused (id attr operator : String) (raw : Value) (registry : Option Registry) :
    (∃ f, ofParts (.text id) (.text attr) (.text operator) raw registry = .error (.filter f)) ∨
    ∃ p, ofParts (.text id) (.text attr) (.text operator) raw registry = .ok p ∧
      p.attr = attr ∧ Operator.ofName? operator = some p.operator ∧ p.Sound ∧
      (p.operator ≠ .pattern → ∀ doc, ∃ b, passes doc (Query.compilePredicate p) = .ok b) := by
  rw [ofParts_text]
  cases hop : Operator.ofName? operator with
  | none =>
    unfold make
    rw [hop]
    exact .inl ⟨_, rfl⟩
  | some op =>
    rw [make_of_name hop]
    cases hmade : build id attr op raw (registry.getD .empty) with
    | error f => exact .inl ⟨f, rfl⟩
    | ok p =>
      obtain ⟨hattr, rfl, hsound⟩ := sound_of_build hmade
      exact .inr ⟨p, rfl, hattr, rfl, hsound, fun h doc => compilePredicate_answers h doc⟩

end Predicate

end Folio
