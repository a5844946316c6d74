-- Filters made before their attribute is known. Until then every input is read as a text, and what
-- is read of it is read once more when the type is known. Nothing is lost by that: the second
-- reading finds what a reading of the input itself would have found.
import Folio.Filter.Predicate
import Mathlib.Data.List.Basic

namespace Folio

variable {raw : Value} {op : Operator} {operand : Operand}

/-! ## Reading twice -/

/-- A text that stands for null, whatever the type. -/
def readsAsNull (s : String) : Bool :=
  String.ofList (Character.lowerText (Text.trimmed s.toList)) == "null"

theorem parseText_null {s : String} (h : readsAsNull s = true) (type : FieldType) :
    parseText s type = .ok none := by
  unfold readsAsNull at h
  unfold parseText
  dsimp only
  rw [if_pos h]

/-- Read as a text, a text is null or itself. -/
theorem parseText_assumed (s : String) : parseText s (some Predicate.assumedType) =
    .ok (if readsAsNull s then none else some (.text s)) := by
  cases h : readsAsNull s with
  | true => exact parseText_null h _
  | false =>
    have hnumeric : FieldType.isNumeric (some Predicate.assumedType) = false := by decide
    have hboolean : FieldType.isBoolean (some Predicate.assumedType) = false := by decide
    unfold readsAsNull at h
    unfold parseText
    simp [h, hnumeric, hboolean]

/-- Whatever is read of one input as a text, another type reads of it what it reads of the input. -/
theorem parseScalar_again {read : Option Scalar}
    (h : parseScalar raw (some Predicate.assumedType) = .ok read) (type : FieldType) :
    parseScalar (.ofOption .scalar read) type = parseScalar raw type := by
  match raw with
  | .null =>
    cases h
    rfl
  | .text s =>
    have hread := (parseText_assumed s).symm.trans h
    cases hnull : readsAsNull s with
    | true =>
      rw [hnull] at hread
      cases hread
      exact (parseText_null hnull _).symm
    | false =>
      rw [hnull] at hread
      cases hread
      rfl
  | .int _ | .float _ | .flag _ =>
    cases h
    rfl
  | .list _ | .object _ => cases h

/-- So it is with inputs one by one; those that are null have been left out. -/
theorem parseItems_again {items : List Value} {read : List Scalar}
    (h : parseItems (some Predicate.assumedType) items = .ok read) (type : FieldType) :
    parseItems type (read.map .scalar) = parseItems type items := by
  induction items generalizing read with
  | nil =>
    cases h
    rfl
  | cons first rest ih =>
    unfold parseItems at h
    cases hfirst : parseScalar first (some Predicate.assumedType) with
    | error f =>
      rw [hfirst] at h
      cases h
    | ok found =>
      cases hrest : parseItems (some Predicate.assumedType) rest with
      | error f =>
        rw [hfirst, hrest] at h
        cases h
      | ok others =>
        rw [hfirst, hrest] at h
        cases h
        have hagain := parseScalar_again hfirst type
        have hothers := ih hrest
        cases found with
        | some s =>
          rw [parseItems, ← hagain, ← hothers]
          rfl
        | none =>
          rw [parseItems, ← hagain, ← hothers]
          change parseItems type (others.map .scalar) = _
          cases parseItems type (others.map .scalar) <;> rfl

/-- The operand made of an input that was read as a text is as good an input as the first one. -/
theorem coerce_again (h : coerce op raw (some Predicate.assumedType) = .ok operand)
    (type : FieldType) : coerce op operand.toValue type = coerce op raw type := by
  unfold coerce at h
  cases hinputs : inputs? op raw with
  | some items =>
    rw [hinputs] at h
    dsimp only at h
    cases hread : parseItems (some Predicate.assumedType) items with
    | error f =>
      rw [hread] at h
      cases h
    | ok read =>
      rw [hread] at h
      cases h
      unfold coerce
      rw [hinputs]
      exact congrArg (Except.map Operand.many) (parseItems_again hread type)
  | none =>
    have hone : op.takesMany = false := by
      cases raw with
      | list items => cases hinputs
      | _ => simpa [inputs?] using hinputs
    rw [hinputs] at h
    unfold parseOperand at h
    dsimp only at h
    cases hread : parseScalar raw (some Predicate.assumedType) with
    | error f =>
      rw [hread] at h
      cases h
    | ok read =>
      have hagain := parseScalar_again hread type
      rw [hread] at h
      unfold coerce parseOperand
      rw [hinputs, ← hagain]
      cases read with
      | none =>
        cases h
        simp [Operand.toValue, inputs?, hone, Value.ofOption]
      | some s =>
        cases h
        simp [Operand.toValue, inputs?, hone, Value.ofOption]

namespace Predicate

variable {id attr operator : String} {known unknown : Registry} {p : Predicate}

/-- What is known of an operand that has been found. -/
theorem operandFor_ok {type : String} (h : operandFor attr op raw type = .ok operand) :
    FieldType.allows (some type) true op = true ∧ coerce op raw (some type) = .ok operand ∧
      (op.takesMany = true → operand.items ≠ []) := by
  unfold operandFor at h
  cases hallows : FieldType.allows (some type) true op with
  | false =>
    rw [hallows] at h
    cases h
  | true =>
    rw [hallows] at h
    cases hread : coerce op raw (some type) with
    | error f =>
      rw [hread] at h
      cases h
    | ok read =>
      rw [hread] at h
      change (if op.takesMany && read.items.isEmpty then .error (FilterFault.noValues op)
        else Except.ok read) = _ at h
      split at h
      · cases h
      · rename_i hsome
        cases h
        exact ⟨rfl, rfl, fun hmany hnone => hsome (by rw [hmany, hnone]; rfl)⟩

/-- The operand of a filter whose type was guessed is such an input. -/
theorem operandFor_again (h : operandFor attr op raw assumedType = .ok operand) (type : String) :
    operandFor attr op operand.toValue type = operandFor attr op raw type := by
  unfold operandFor
  rw [coerce_again (operandFor_ok h).2.1]

/-- What a filter is that has been made. -/
theorem build_ok {registry : Registry} (h : build id attr op raw registry = .ok p) :
    ∃ operand, operandFor attr op raw ((registry.typeOf? attr).getD assumedType) = .ok operand ∧
      p = ⟨id, attr, (registry.typeOf? attr).getD assumedType, (registry.typeOf? attr).isNone, op,
        operand, operand.display⟩ := by
  unfold build at h
  split at h
  · cases h
  · dsimp only at h
    cases hread : operandFor attr op raw ((registry.typeOf? attr).getD assumedType) with
    | error f =>
      rw [hread] at h
      cases h
    | ok operand =>
      rw [hread] at h
      cases h
      exact ⟨operand, rfl, rfl⟩

theorem isNone_typeOf? (registry : Registry) (attr : String) :
    (registry.typeOf? attr).isNone = !registry.has attr := by
  unfold Registry.typeOf? Registry.has
  cases registry.get? attr <;> rfl

/-- A filter that was made before its attribute was known can be made of its operand whenever it can
be made of the input. -/
theorem build_again (hunknown : unknown.has attr = false)
    (hmade : build id attr op raw unknown = .ok p) (known : Registry) :
    p.typeAssumed = true ∧ p.attr = attr ∧
      build p.id p.attr p.operator p.operand.toValue known = build id attr op raw known := by
  have hnone : (unknown.typeOf? attr).isNone = true := by rw [isNone_typeOf?, hunknown]; rfl
  obtain ⟨operand, hread, rfl⟩ := build_ok hmade
  rw [Option.isNone_iff_eq_none.mp hnone] at hread
  refine ⟨hnone, rfl, ?_⟩
  unfold build
  dsimp only
  rw [operandFor_again hread]

/-- Made anew, it becomes the filter that is made of the input, if there is one. -/
theorem retype_of_build (hunknown : unknown.has attr = false) (hknown : known.has attr = true)
    (hmade : build id attr op raw unknown = .ok p) :
    p.retype known = match build id attr op raw known with
      | .ok q => q
      | .error _ => p := by
  obtain ⟨hassumed, hattr, hagain⟩ := build_again hunknown hmade known
  unfold retype
  rw [hassumed, hagain, hattr, hknown]
  rfl

theorem make_of_name (hop : Operator.ofName? operator = some op) (registry : Registry) :
    make id attr operator raw registry = build id attr op raw registry := by
  unfold make
  rw [hop]

/-- A filter that was made before its attribute was known becomes the one that is made of the same
input when it is known, and stays as it is if none can be made. It does so once and for all. -/
theorem retype_of_make (hunknown : unknown.has attr = false) (hknown : known.has attr = true)
    (hmade : make id attr operator raw unknown = .ok p) :
    (∀ q, make id attr operator raw known = .ok q → p.retype known = q) ∧
      (∀ f, make id attr operator raw known = .error f → p.retype known = p) ∧
      (p.retype known).retype known = p.retype known := by
  obtain ⟨op, hop⟩ : ∃ op, Operator.ofName? operator = some op := by
    cases hop : Operator.ofName? operator with
    | some op => exact ⟨op, rfl⟩
    | none =>
      unfold make at hmade
      rw [hop] at hmade
      cases hmade
  rw [make_of_name hop] at hmade ⊢
  have hretyped := retype_of_build hunknown hknown hmade
  cases hbuilt : build id attr op raw known with
  | ok q =>
    rw [hbuilt] at hretyped
    obtain ⟨operand, -, hq⟩ := build_ok hbuilt
    have hknows : q.typeAssumed = false := by rw [hq, isNone_typeOf?, hknown]; rfl
    refine ⟨fun r hr => hretyped.trans (Except.ok.inj hr), fun f hf => (by cases hf), ?_⟩
    rw [hretyped]
    unfold retype
    rw [hknows]
    rfl
  | error f =>
    rw [hbuilt] at hretyped
    refine ⟨fun r hr => (by cases hr), fun _ _ => hretyped, ?_⟩
    rw [hretyped, hretyped]

/-- Years are looked for before it is known what years are. If they turn out to be numbers the texts
become numbers, and the item that stands for null stays left out; if they turn out to be truth values
the filter stays as it is. -/
theorem years_are_retyped :
    let numbers : Registry := ⟨[.declared "year" "int" false]⟩
    let flags : Registry := ⟨[.declared "year" "bool" false]⟩
    let input : Value := .text " 2020, null ,2021"
    let p : Predicate := ⟨"p", "year", "string", true, .isIn, .many [.text "2020", .text "2021"],
      "[2020, 2021]"⟩
    let q : Predicate := ⟨"p", "year", "int", false, .isIn, .many [.int 2020, .int 2021],
      "[2020, 2021]"⟩
    make "p" "year" "in" input .empty = .ok p ∧
      make "p" "year" "in" input numbers = .ok q ∧ p.retype numbers = q ∧
      make "p" "year" "in" input flags = .error (.notBoolean "2020") ∧ p.retype flags = p := by
  intro numbers flags input p q
  have hmade : make "p" "year" "in" input .empty = .ok p := by decide +kernel
  have hnumbers : make "p" "year" "in" input numbers = .ok q := by decide +kernel
  have hflags : make "p" "year" "in" input flags = .error (.notBoolean "2020") := by decide +kernel
  have hnumber : numbers.has "year" = true := by decide
  have hflag : flags.has "year" = true := by decide
  obtain ⟨hretyped, -, -⟩ := retype_of_make (by decide) hnumber hmade
  obtain ⟨-, hkept, -⟩ := retype_of_make (by decide) hflag hmade
  exact ⟨hmade, hnumbers, hretyped q hnumbers, hflags, hkept _ hflags⟩

end Predicate

end Folio
