-- Filters that look for a part of a text. The search text of a browsing query and the input of a
-- containment test stand between two stars, as they were given; so they are globs themselves, and look
-- for all that they stand for. They look for themselves exactly if they are plain, and an input that
-- reads as null looks for the name of nothing in its place.
import Folio.Proofs.FilterMeanings
import Folio.Proofs.GlobTexts
import Folio.Proofs.Retyping

namespace Folio

open Collection Text.Glob

/-- A filter tells of every document that holds a text in an attribute whether the text has a
property. -/
def Tells (filter : Value) (attr : String) (holds : List Char → Prop) : Prop :=
  ∀ doc held, Fields.get doc attr = .text held →
    ∃ b, passes doc filter = .ok b ∧ (b = true ↔ holds held.toList)

/-- Something that a glob stands for occurs in a text. -/
def Finds (glob : String) (held : List Char) : Prop :=
  ∃ part, part <:+: held ∧ Stands (read glob.toList) part

variable {attr : String} {filter : Value} {P Q : List Char → Prop}

/-- What a filter tells of a text is one thing. -/
theorem tells_iff (h : Tells filter attr P) : Tells filter attr Q ↔ ∀ held, P held ↔ Q held := by
  constructor
  · intro hother held
    have hheld : Fields.get [(attr, .text (String.ofList held))] attr =
        .text (String.ofList held) := by
      simp [Fields.get, Named.get?]
    obtain ⟨b, hb, hfirst⟩ := h _ _ hheld
    obtain ⟨c, hc, hsecond⟩ := hother _ _ hheld
    rw [String.toList_ofList] at hfirst hsecond
    cases hb.symm.trans hc
    exact hfirst.symm.trans hsecond
  · intro hsame doc held hheld
    obtain ⟨b, hb, hholds⟩ := h doc held hheld
    exact ⟨b, hb, hholds.trans (hsame _)⟩

theorem toList_around (part : String) :
    ("*" ++ part ++ "*").toList = '*' :: (part.toList ++ ['*']) := by
  simp [String.toList_append]

/-- A glob between stars tells whether something that it stands for occurs. -/
theorem tells_around (attr part : String) :
    Tells (Query.test attr "Glob" (Query.around part)) attr (Finds part) := by
  intro doc held hheld
  have hpasses : passes doc (Query.test attr "Glob" (Query.around part)) =
      .ok (fits (read ("*" ++ part ++ "*").toList) held.toList) := by
    rw [passes_test, hheld]
    rfl
  refine ⟨_, hpasses, ?_⟩
  rw [fits_iff, toList_around, read_around, stands_around_iff]
  rfl

/-- It tells whether a text occurs if it is that text, plainly. -/
theorem finds_occurs_iff (part : String) :
    (∀ held, Finds part held ↔ part.toList <:+: held) ↔ Plain part.toList := by
  rw [← around_occurs_iff_plain]
  simp only [read_around, stands_around_iff]
  rfl

/-! ## Search while browsing -/

namespace QueryConfig

/-- The filter of the search text alone. -/
def searchFilter (c : QueryConfig) : Value := Query.compileFilters { c with predicates := [] }

theorem searchFilter_browse {c : QueryConfig} (hmode : c.queryMode = .browse)
    (hsearch : c.search ≠ "") :
    c.searchFilter = Query.test "id" "Glob" (Query.around c.search) := by
  have hsome : ({ c with predicates := [] }.search != "" && c.queryMode == .browse) = true := by
    rw [Bool.and_eq_true, bne_iff_ne, beq_iff_eq]
    exact ⟨hsearch, hmode⟩
  unfold searchFilter Query.compileFilters Query.filtersOf
  rw [if_pos hsome]
  rfl

end QueryConfig

/-! ## Containment -/

/-- What an input is looked for as. -/
def soughtText (input : String) : String := if readsAsNull input then "None" else input

theorem finds_soughtText_iff (input : String) :
    (∀ held, Finds (soughtText input) held ↔ input.toList <:+: held) ↔
      readsAsNull input = false ∧ Plain input.toList := by
  unfold soughtText
  cases hnull : readsAsNull input with
  | false => simpa using finds_occurs_iff input
  | true =>
    simp only [if_true, Bool.true_eq_false, false_and, iff_false]
    intro h
    have hplain : Plain "None".toList := plain_of_no_marks (by decide) (by decide) (by decide)
    have hfinds := (finds_occurs_iff "None").mpr hplain
    have hone := (h _).mp ((hfinds _).mpr List.infix_rfl)
    have htwo := (hfinds _).mp ((h _).mpr List.infix_rfl)
    have hsame : input = "None" :=
      String.toList_injective (hone.eq_of_length (hone.length_le.antisymm htwo.length_le))
    rw [hsame] at hnull
    exact absurd hnull (by decide)

namespace Predicate

/-- A containment test on an attribute of texts can be made of every text. -/
theorem make_contains (id input : String) {attr : String} {registry : Registry}
    (hattr : attr ≠ "") (htype : (registry.typeOf? attr).getD assumedType = "string") :
    ∃ p, make id attr "contains" (.text input) registry = .ok p ∧
      Query.compilePredicate p = Query.test attr "Glob" (Query.around (soughtText input)) := by
  let operand := if readsAsNull input then Operand.nothing else .one (.text input)
  have hoperand : operandFor attr .contains (.text input) assumedType = .ok operand := by
    have hscalar : parseScalar (.text input) (some assumedType) =
        .ok (if readsAsNull input then none else some (.text input)) := parseText_assumed input
    have hcoerce : coerce .contains (.text input) (some assumedType) = .ok operand := by
      change parseOperand (.text input) (some assumedType) = _
      unfold parseOperand
      rw [hscalar]
      cases hnull : readsAsNull input <;> simp [operand, hnull, Except.map]
    unfold operandFor
    rw [hcoerce]
    rfl
  refine ⟨⟨id, attr, "string", (registry.typeOf? attr).isNone, .contains, operand,
    operand.display⟩, ?_, ?_⟩
  · have hname : Operator.ofName? "contains" = some .contains := by decide
    rw [make_of_name hname]
    unfold build
    rw [if_neg (by simpa using hattr)]
    dsimp only
    rw [htype]
    change (operandFor attr .contains (.text input) assumedType).bind _ = _
    rw [hoperand]
    rfl
  · have hsought : operand.first.shown = soughtText input := by
      unfold soughtText
      cases hnull : readsAsNull input <;> simp [operand, hnull] <;> rfl
    have harray : FieldType.isArray (some "string") = false := by decide
    unfold Query.compilePredicate
    dsimp only
    rw [harray, hsought]
    rfl

end Predicate

/-- The search text of a browsing query is found in a key if something that it stands for as a glob
occurs there, and so is the input of a containment test in an attribute of texts. They are found where
they occur themselves just if they are plain, and the input does not read as null. -/
theorem looked_for_as_globs (c : QueryConfig) (id attr input : String) (registry : Registry) :
    (c.queryMode = .browse → c.search ≠ "" →
      Tells c.searchFilter "id" (Finds c.search) ∧
        (Tells c.searchFilter "id" (c.search.toList <:+: ·) ↔ Plain c.search.toList)) ∧
    (attr ≠ "" → (registry.typeOf? attr).getD Predicate.assumedType = "string" →
      ∃ p, Predicate.make id attr "contains" (.text input) registry = .ok p ∧
        Tells (Query.compilePredicate p) attr (Finds (soughtText input)) ∧
        (Tells (Query.compilePredicate p) attr (input.toList <:+: ·) ↔
          readsAsNull input = false ∧ Plain input.toList)) := by
  refine ⟨fun hmode hsearch => ?_, fun hattr htype => ?_⟩
  · rw [QueryConfig.searchFilter_browse hmode hsearch]
    have htells := tells_around "id" c.search
    exact ⟨htells, (tells_iff htells).trans (finds_occurs_iff c.search)⟩
  · obtain ⟨p, hmade, hfilter⟩ := Predicate.make_contains id input hattr htype
    have htells := tells_around attr (soughtText input)
    rw [← hfilter] at htells
    exact ⟨p, hmade, htells, (tells_iff htells).trans (finds_soughtText_iff input)⟩

/-- A key that starts with a search text of letters is found. -/
theorem letters_are_found :
    let c := { QueryConfig.initial with searchText := " ab " }
    c.queryMode = .browse ∧ c.search ≠ "" ∧ passes [("id", .text "abc")] c.searchFilter = .ok true ∧
      ∃ p, Predicate.make "1" "title" "contains" (.text "b") .empty = .ok p ∧
        passes [("title", .text "abc")] (Query.compilePredicate p) = .ok true := by
  intro c
  have hsearch : c.search ≠ "" := by decide
  obtain ⟨hsearches, hcontains⟩ := looked_for_as_globs c "1" "title" "b" .empty
  have hfound := (hsearches rfl hsearch).2.mpr (by decide)
  obtain ⟨p, hmade, -, hplain⟩ := hcontains (by decide) (by decide)
  obtain ⟨b, hb, hoccurs⟩ := hfound [("id", .text "abc")] "abc" rfl
  obtain ⟨d, hd, hholds⟩ := hplain.mpr ⟨by decide, by decide⟩ [("title", .text "abc")] "abc" rfl
  have hb' : b = true := hoccurs.mpr ⟨[], ['c'], by decide⟩
  have hd' : d = true := hholds.mpr ⟨['a'], ['c'], by decide⟩
  exact ⟨rfl, hsearch, hb' ▸ hb, p, hmade, hd' ▸ hd⟩

/-- A search text with a question mark finds a key in which it does not occur, and a containment test
for a word that reads as null does not find it. -/
theorem marks_and_null_find_something_else :
    let c := { QueryConfig.initial with searchText := "a?c" }
    c.queryMode = .browse ∧ c.search = "a?c" ∧
      passes [("id", .text "abc")] c.searchFilter = .ok true ∧ ¬"a?c".toList <:+: "abc".toList ∧
      ∃ p, Predicate.make "1" "title" "contains" (.text "null") .empty = .ok p ∧
        passes [("title", .text "null")] (Query.compilePredicate p) = .ok false := by
  refine ⟨rfl, by decide, by decide +kernel, by decide,
    ⟨"1", "title", "string", true, .contains, .nothing, "null"⟩, ?_, ?_⟩ <;> decide +kernel

end Folio
