-- Lists given to operators that compare with one value. Where a part of a text or a member of a list
-- is looked for, that is the first item. Other operators get the whole list: values without items
-- stand in no order to it, its text is another glob, and it has the tokens of all items. So the filter
-- of a list is that of its first item under exact conditions, and under none for what is to be less.
import Folio.Proofs.FiledStores
import Folio.Proofs.FilterMeanings
import Folio.Proofs.Phrases
import Folio.Proofs.Retyping
import Mathlib.Data.List.Lex
import Mathlib.Data.Rat.Floor

namespace Folio

open Number Text Value

/-! ## The order of scalars -/

namespace Scalar

variable {a s : Scalar}

/-- Positive infinity. -/
def IsHighest (s : Scalar) : Prop := s.magnitude? = some (.infinite false)

/-- What is not a number among floating numbers. -/
def IsUndefined (s : Scalar) : Prop := s.magnitude? = some .undefined

/-- To a number a scalar stands as a number, if it is one. -/
theorem compare_eq (r : Relation) {p : Magnitude} (hs : s.magnitude? = some p) (a : Scalar) :
    a.compare r s = match a.magnitude? with
      | some q => .ok (r.ofMagnitudes q p)
      | none => .error ⟨r, a.kindName, s.kindName⟩ := by
  cases a <;> cases s <;> simp_all [compare, magnitude?]

theorem compare_undefined (h : s.IsUndefined) (r : Relation) (a : Scalar) :
    a.compare r s ≠ .ok true := by
  rw [compare_eq r h]
  cases a.magnitude? with
  | none => simp
  | some q =>
    cases r <;> cases q <;>
      simp [Relation.ofMagnitudes, Magnitude.less, Magnitude.atMost, Magnitude.same]

theorem same_undefined (h : s.IsUndefined) (a : Scalar) : a.same s = false := by
  rw [same_number h]
  cases a.magnitude? with
  | none => rfl
  | some q => cases q <;> rfl

theorem compare_highest (h : s.IsHighest) (a : Scalar) : a.compare .more s ≠ .ok true := by
  rw [compare_eq .more h]
  cases a.magnitude? with
  | none => simp
  | some q => cases q <;> simp [Relation.ofMagnitudes, Magnitude.less]

theorem same_highest (h : s.IsHighest) : s.same s = true := by
  rw [same_number h, h]
  rfl

/-- What is defined is at least itself. -/
theorem compare_self (h : ¬s.IsUndefined) : s.compare .atLeast s = .ok true := by
  cases s with
  | text t => simp [compare, Relation.ofTexts]
  | int n | flag b =>
    simp [compare, magnitude?, Relation.ofMagnitudes, Magnitude.atMost, Magnitude.same, ofWhole]
  | float x =>
    have hdefined : magnitude x ≠ .undefined := fun hx => h (congrArg some hx)
    simp only [compare, magnitude?, Relation.ofMagnitudes, Magnitude.atMost]
    cases hx : magnitude x with
    | finite q => simp [Magnitude.same]
    | infinite negative => simp [Magnitude.same]
    | undefined => exact absurd hx hdefined

theorem text_lt_append (t : String) : t < t ++ "a" := by
  rw [String.lt_iff_toList_lt, String.toList_append]
  have hlex := List.Lex.append_left (· < ·) (List.Lex.nil (a := 'a') (l := [])) t.toList
  rwa [List.append_nil] at hlex

/-- Above all that is neither positive infinity nor undefined there is something else. -/
theorem exists_above (hhighest : ¬s.IsHighest) (hdefined : ¬s.IsUndefined) :
    ∃ a : Scalar, a.compare .more s = .ok true ∧ a.same s = false := by
  cases hs : s.magnitude? with
  | none =>
    obtain ⟨t, rfl⟩ : ∃ t, s = .text t := by
      cases s with
      | text t => exact ⟨t, rfl⟩
      | _ => cases hs
    have hlt := text_lt_append t
    exact ⟨.text (t ++ "a"), by simp [compare, Relation.ofTexts, hlt], by simp [same]⟩
  | some p =>
    obtain ⟨n, hless⟩ : ∃ n : Int, p.less (ofWhole n) = true := by
      cases p with
      | finite q =>
        have hlt : q < ((⌊q⌋ + 1 : Int) : Rat) := by exact_mod_cast Int.lt_floor_add_one q
        exact ⟨⌊q⌋ + 1, decide_eq_true hlt⟩
      | infinite negative =>
        cases negative with
        | true => exact ⟨0, rfl⟩
        | false => exact absurd hs hhighest
      | undefined => exact absurd hs hdefined
    refine ⟨.int n, ?_, ?_⟩
    · rw [compare_eq .more hs]
      simp [magnitude?, Relation.ofMagnitudes, hless]
    · rw [same_number hs]
      cases p with
      | finite q =>
        have hlt : q < n := by simpa [Magnitude.less, ofWhole] using hless
        simp [magnitude?, Magnitude.same, ofWhole, hlt.ne']
      | _ => rfl

end Scalar

/-! ## The order of lists -/

namespace Value

variable {v : Value} {r : Relation} {s : Scalar} {items : List Scalar}

/-- Scalars as a list. -/
def listed (items : List Scalar) : Value := .list (items.map .scalar)

theorem eq_scalar_of_compare (h : v.compare r (.scalar s) = .ok true) :
    ∃ a, v = .scalar a ∧ a.compare r s = .ok true := by
  cases v with
  | scalar a => exact ⟨a, rfl, by simpa [compare] using h⟩
  | _ => simp [compare] at h

theorem eq_list_of_compare {ys : List Value} (h : v.compare r (.list ys) = .ok true) :
    ∃ xs, v = .list xs ∧ compareItems r xs ys = .ok true := by
  cases v with
  | list xs => exact ⟨xs, rfl, by simpa [compare] using h⟩
  | _ => simp [compare] at h

/-- No list is above one that starts with what is undefined, nor the same. -/
theorem compareItems_undefined (h : s.IsUndefined) (hr : r = .more ∨ r = .atLeast)
    (xs ys : List Value) : compareItems r xs (.scalar s :: ys) ≠ .ok true := by
  intro hxs
  cases xs with
  | nil => rcases hr with rfl | rfl <;> simp [compareItems, Relation.ofLengths] at hxs
  | cons x xs =>
    rw [compareItems] at hxs
    split at hxs
    · rename_i hsame
      cases x with
      | scalar a => simp [same, Scalar.same_undefined h] at hsame
      | _ => simp [same] at hsame
    · obtain ⟨a, -, ha⟩ := eq_scalar_of_compare hxs
      exact Scalar.compare_undefined h r a ha

/-- Positive infinities, and then what is undefined: nothing is above such items. -/
inductive Topped : List Scalar → Prop where
  | undefined {s : Scalar} {rest : List Scalar} (h : s.IsUndefined) : Topped (s :: rest)
  | highest {s : Scalar} {rest : List Scalar} (h : s.IsHighest) (below : Topped rest) :
    Topped (s :: rest)

/-- Above a list there is another one unless it is topped. -/
theorem exists_list_above_iff :
    (∃ xs, compareItems .more xs (items.map .scalar) = .ok true) ↔ ¬Topped items := by
  induction items with
  | nil => exact iff_of_true ⟨[.null], rfl⟩ nofun
  | cons s rest ih =>
    constructor
    · rintro ⟨xs, hxs⟩ htopped
      cases htopped with
      | undefined h => exact compareItems_undefined h (.inl rfl) _ _ hxs
      | highest h below =>
        cases xs with
        | nil => simp [compareItems, Relation.ofLengths] at hxs
        | cons x xs =>
          rw [List.map_cons, compareItems] at hxs
          split at hxs
          · exact ih.mp ⟨xs, hxs⟩ below
          · obtain ⟨a, -, ha⟩ := eq_scalar_of_compare hxs
            exact Scalar.compare_highest h a ha
    · intro hopen
      have hdefined : ¬s.IsUndefined := fun h => hopen (.undefined h)
      by_cases hhighest : s.IsHighest
      · obtain ⟨xs, hxs⟩ := ih.mpr fun below => hopen (.highest hhighest below)
        refine ⟨.scalar s :: xs, ?_⟩
        simp [compareItems, same, Scalar.same_highest hhighest, hxs]
      · obtain ⟨a, ha, hother⟩ := Scalar.exists_above hhighest hdefined
        refine ⟨[.scalar a], ?_⟩
        simp [compareItems, same, hother, compare, ha]

end Value

/-! ## Standing to a list and to its first item -/

namespace Collection

variable {v : Value} {r : Relation} {s : Scalar} {rest : List Scalar}

/-- When all values stand to a list as they stand to its first item. -/
def StandsForFirst (r : Relation) (s : Scalar) (rest : List Scalar) : Prop :=
  match r with
  | .less | .atMost => False
  | .more => Topped (s :: rest)
  | .atLeast => s.IsUndefined

theorem not_stands_scalar (h : ∀ a : Scalar, a.compare r s ≠ .ok true) (v : Value) :
    stands v r (.scalar s) = false := by
  rw [← Bool.not_eq_true, stands_iff]
  intro hv
  obtain ⟨a, -, ha⟩ := eq_scalar_of_compare hv
  exact h a ha

theorem not_stands_list {ys : List Value} (h : ∀ xs, compareItems r xs ys ≠ .ok true) (v : Value) :
    stands v r (.list ys) = false := by
  rw [← Bool.not_eq_true, stands_iff]
  intro hv
  obtain ⟨xs, -, hxs⟩ := eq_list_of_compare hv
  exact h xs hxs

/-- Between a list and a scalar there is no order. -/
theorem list_stands_scalar (xs : List Value) (r : Relation) (s : Scalar) :
    stands (.list xs) r (.scalar s) = false := by
  simp [stands, Value.compare]

theorem scalar_stands_list (a : Scalar) (r : Relation) (ys : List Value) :
    stands (.scalar a) r (.list ys) = false := by
  simp [stands, Value.compare]

/-- The empty list is before every other one. -/
theorem nil_stands_listed (h : r = .less ∨ r = .atMost) (s : Scalar) (rest : List Scalar) :
    stands (.list []) r (listed (s :: rest)) = true := by
  rcases h with rfl | rfl <;>
    simp [stands, listed, Value.compare, compareItems, Relation.ofLengths]

theorem not_stands_topped {items : List Scalar} (h : Topped items) (v : Value) :
    stands v .more (listed items) = false :=
  not_stands_list (fun xs hxs => exists_list_above_iff.mp ⟨xs, hxs⟩ h) v

theorem stands_same_iff (r : Relation) (s : Scalar) (rest : List Scalar) :
    (∀ v, stands v r (listed (s :: rest)) = stands v r (.scalar s)) ↔ StandsForFirst r s rest := by
  cases r with
  | less | atMost =>
    refine iff_of_false (fun h => ?_) id
    have hnil := h (.list [])
    rw [nil_stands_listed (by simp), list_stands_scalar] at hnil
    cases hnil
  | more =>
    constructor
    · intro h
      by_contra hopen
      obtain ⟨xs, hxs⟩ := exists_list_above_iff.mpr hopen
      have habove : stands (.list xs) .more (listed (s :: rest)) = true :=
        stands_iff.mpr (by rw [listed, Value.compare, hxs])
      rw [h, list_stands_scalar] at habove
      cases habove
    · intro htopped v
      rw [not_stands_topped htopped]
      cases htopped with
      | undefined h => rw [not_stands_scalar (Scalar.compare_undefined h _)]
      | highest h => rw [not_stands_scalar (Scalar.compare_highest h)]
  | atLeast =>
    constructor
    · intro h
      by_contra hdefined
      have hself : stands (.scalar s) .atLeast (.scalar s) = true :=
        stands_iff.mpr (by rw [Value.compare, Scalar.compare_self hdefined])
      rw [← h, listed, scalar_stands_list] at hself
      cases hself
    · intro h v
      rw [not_stands_scalar (Scalar.compare_undefined h _)]
      exact not_stands_list (fun xs => compareItems_undefined h (.inr rfl) xs _) v

/-! ## Tests of a list and of its first item -/

variable {a b : Value} {token : String}

/-- Tests let the same documents through if they say the same of every value. -/
theorem passes_same_iff (attr token : String) (a b : Value) :
    (∀ doc, passes doc (Query.test attr token a) = passes doc (Query.test attr token b)) ↔
      ∀ v, testValue v token a = testValue v token b := by
  simp only [passes_test]
  constructor
  · intro h v
    have hvalue : Fields.get [(attr, v)] attr = v := by simp [Fields.get, Named.get?]
    rw [← hvalue]
    exact h [(attr, v)]
  · exact fun h doc => h (doc.get attr)

theorem answers_same_iff {f : Value → Value → Bool}
    (htest : ∀ v a, testValue v token a = .ok (f v a)) :
    (∀ v, testValue v token a = testValue v token b) ↔ ∀ v, f v a = f v b :=
  forall_congr' fun v => by rw [htest, htest, Except.ok.injEq]

theorem refusals_same_iff {f : Value → Value → Bool}
    (htest : ∀ v a, testValue v token a = .ok (!f v a)) :
    (∀ v, testValue v token a = testValue v token b) ↔ ∀ v, f v a = f v b :=
  forall_congr' fun v => by rw [htest, htest, Except.ok.injEq, Bool.not_inj_iff]

theorem stands_null (r : Relation) (a : Value) : stands .null r a = false := by
  cases a <;> rfl

/-- One value is compared. -/
theorem ordering_same_iff (r : Relation) (s : Scalar) (rest : List Scalar) :
    (∀ v, (!v.isNull && stands v r (listed (s :: rest))) = (!v.isNull && stands v r (.scalar s))) ↔
      StandsForFirst r s rest := by
  rw [← stands_same_iff]
  refine forall_congr' fun v => ?_
  cases v with
  | null => simp [stands_null]
  | _ => simp [Value.isNull]

/-- Each item is compared. -/
theorem anyItem_same_iff (r : Relation) (s : Scalar) (rest : List Scalar) :
    (∀ v, ((itemsOf v).any (stands · r (listed (s :: rest)))) =
        (itemsOf v).any (stands · r (.scalar s))) ↔
      StandsForFirst r s rest := by
  rw [← stands_same_iff]
  constructor
  · intro h v
    simpa [itemsOf] using h (.list [v])
  · intro h v
    simp only [h]

theorem fitsGlob_same_iff : (∀ v, fitsGlob v a = fitsGlob v b) ↔
    ∀ text, globMatches a.shown text = globMatches b.shown text := by
  constructor
  · exact fun h text => h (.text text)
  · intro h v
    unfold fitsGlob
    split
    · exact h _
    · rfl

/-- Whether a glob stands for a text, both in small letters. -/
def globMatchesAnyCase (glob text : String) : Bool :=
  Glob.fits (Glob.read (Character.lowerText glob.toList)) (Character.lowerText text.toList)

theorem fitsGlobAnyCase_same_iff : (∀ v, fitsGlobAnyCase v a = fitsGlobAnyCase v b) ↔
    ∀ text, globMatchesAnyCase a.shown text = globMatchesAnyCase b.shown text := by
  constructor
  · exact fun h text => h (.text text)
  · intro h v
    unfold fitsGlobAnyCase
    split
    · exact h _
    · rfl

theorem holdsTokens_same_iff : (∀ v, holdsTokens v a = holdsTokens v b) ↔
    ∀ t, t ∈ tokens a ↔ t ∈ tokens b := by
  have hheld (v : Value) : holdsTokens v a = holdsTokens v b ↔
      ((∀ t ∈ tokens a, t ∈ tokens v) ↔ ∀ t ∈ tokens b, t ∈ tokens v) := by
    rw [Bool.eq_iff_iff, holdsTokens_iff, holdsTokens_iff]
  rw [forall_congr' hheld]
  constructor
  · intro h t
    exact ⟨(h b).mpr (fun _ => id) t, (h a).mp (fun _ => id) t⟩
  · intro h v
    simp only [h]

theorem holdsPhrase_same_iff :
    (∀ v, holdsPhrase v a = holdsPhrase v b) ↔ tokens a = tokens b := by
  have hheld (v : Value) : holdsPhrase v a = holdsPhrase v b ↔
      (tokens a ≠ [] ∧ tokens a <:+: tokens v ↔ tokens b ≠ [] ∧ tokens b <:+: tokens v) := by
    rw [Bool.eq_iff_iff, holdsPhrase_iff, holdsPhrase_iff]
  rw [forall_congr' hheld]
  constructor
  · intro h
    have hself (ts : List (List Char)) : ts <:+: ts := List.infix_refl ts
    by_cases ha : tokens a = []
    · by_contra hne
      exact ((h b).mpr ⟨fun hb => hne (ha.trans hb.symm), hself _⟩).1 ha
    · obtain ⟨hb, hba⟩ := (h a).mp ⟨ha, hself _⟩
      exact List.infix_antisymm ((h b).mpr ⟨hb, hself _⟩).2 hba
  · intro h v
    rw [h]

/-- When the filter of a list is that of its first item. Where a part or a member is looked for it
always is. -/
def FirstSuffices (op : Operator) (s : Scalar) (rest : List Scalar) : Prop :=
  let all := listed (s :: rest)
  let first := Value.scalar s
  match op with
  | .less | .anyLess => StandsForFirst .less s rest
  | .lessOrEqual | .anyLessOrEqual => StandsForFirst .atMost s rest
  | .greater | .anyGreater => StandsForFirst .more s rest
  | .greaterOrEqual | .anyGreaterOrEqual => StandsForFirst .atLeast s rest
  | .fits | .notFits => ∀ text, globMatches all.shown text = globMatches first.shown text
  | .fitsAnyCase | .notFitsAnyCase =>
    ∀ text, globMatchesAnyCase all.shown text = globMatchesAnyCase first.shown text
  | .containsAllTokens => ∀ t, t ∈ tokens all ↔ t ∈ tokens first
  | .containsTokenSequence => tokens all = tokens first
  | _ => True

/-- Operators that compare with all that they get, unless they take several values or look for a
pattern. -/
def comparesWhole (op : Operator) : Bool :=
  op.isOrdering || op.isOnItems || op.onTokens ||
    (op.isPattern && op != .contains && op != .pattern)

theorem tests_same_iff {op : Operator} (hwhole : comparesWhole op = true) (s : Scalar)
    (rest : List Scalar) :
    (∀ v, testValue v op.token (listed (s :: rest)) = testValue v op.token (.scalar s)) ↔
      FirstSuffices op s rest := by
  have hordering {token : String} (r : Relation)
      (htest : ∀ v a, testValue v token a = .ok (!v.isNull && stands v r a)) :=
    (answers_same_iff htest).trans (ordering_same_iff r s rest)
  have hanyItem {token : String} (r : Relation)
      (htest : ∀ v a, testValue v token a = .ok ((itemsOf v).any (stands · r a))) :=
    (answers_same_iff htest).trans (anyItem_same_iff r s rest)
  cases op with
  | less => exact hordering .less fun _ _ => rfl
  | lessOrEqual => exact hordering .atMost fun _ _ => rfl
  | greater => exact hordering .more fun _ _ => rfl
  | greaterOrEqual => exact hordering .atLeast fun _ _ => rfl
  | anyLess => exact hanyItem .less fun _ _ => rfl
  | anyLessOrEqual => exact hanyItem .atMost fun _ _ => rfl
  | anyGreater => exact hanyItem .more fun _ _ => rfl
  | anyGreaterOrEqual => exact hanyItem .atLeast fun _ _ => rfl
  | fits => exact (answers_same_iff fun _ _ => rfl).trans fitsGlob_same_iff
  | notFits => exact (refusals_same_iff fun _ _ => rfl).trans fitsGlob_same_iff
  | fitsAnyCase => exact (answers_same_iff fun _ _ => rfl).trans fitsGlobAnyCase_same_iff
  | notFitsAnyCase => exact (refusals_same_iff fun _ _ => rfl).trans fitsGlobAnyCase_same_iff
  | containsAllTokens => exact (answers_same_iff fun _ _ => rfl).trans holdsTokens_same_iff
  | containsTokenSequence => exact (answers_same_iff fun _ _ => rfl).trans holdsPhrase_same_iff
  | _ => cases hwhole

end Collection

/-! ## Reading one input -/

variable {first : Scalar} {type : FieldType} {read : Option Scalar}

/-- Only what stands for null is read as nothing. -/
theorem parseText_some {t : String} (hnull : readsAsNull t = false)
    (h : parseText t type = .ok read) : ∃ s, read = some s := by
  unfold readsAsNull at hnull
  unfold parseText at h
  simp only [hnull, Bool.false_eq_true, if_false] at h
  split at h
  · cases hnumber : readNumber? type (trimmed t.toList) with
    | none => simp [hnumber] at h
    | some s =>
      rw [hnumber] at h
      exact ⟨s, (Except.ok.inj h).symm⟩
  · split at h
    · split at h
      · exact ⟨_, (Except.ok.inj h).symm⟩
      · split at h
        · exact ⟨_, (Except.ok.inj h).symm⟩
        · cases h
    · exact ⟨_, (Except.ok.inj h).symm⟩

theorem parseScalar_some
    (hnull : ∀ t, first = .text t → readsAsNull t = false)
    (h : parseScalar (.scalar first) type = .ok read) : ∃ s, read = some s := by
  cases first with
  | text t => exact parseText_some (hnull t rfl) h
  | _ => exact ⟨_, (Except.ok.inj h).symm⟩

/-! ## Filters of a list and of its first item -/

namespace Predicate

open Collection

variable {id attr operator : String} {op : Operator} {s : Scalar} {others rest : List Scalar}
  {operand : Operand} {registry : Registry} {p : Predicate}

/-- Operators that compare with one value, unless they look for a pattern. -/
def comparesOne (op : Operator) : Bool :=
  comparesWhole op || op == .contains || op == .arrayContains || op == .notArrayContains

theorem compilePredicate_whole (hwhole : comparesWhole p.operator = true) :
    Query.compilePredicate p = Query.test p.attr p.operator.token p.operand.toValue := by
  unfold Query.compilePredicate
  cases hop : p.operator <;> simp_all [comparesWhole, Operator.isOrdering, Operator.isOnItems,
    Operator.onTokens, Operator.isPattern]

theorem compilePredicate_part {q : Predicate} (hattr : q.attr = p.attr)
    (htype : q.attrType = p.attrType) (hop : q.operator = p.operator)
    (hfirst : q.operand.first = p.operand.first)
    (hpart : p.operator = .contains ∨ p.operator = .arrayContains ∨
      p.operator = .notArrayContains) :
    Query.compilePredicate q = Query.compilePredicate p := by
  unfold Query.compilePredicate
  rcases hpart with hpart | hpart | hpart <;> simp [hop, hpart, hattr, htype, hfirst]

/-- What is known of two filters, one of a list and one of its first item. -/
theorem filters_same_iff {q : Predicate} (hone : comparesOne p.operator = true)
    (hattr : q.attr = p.attr) (htype : q.attrType = p.attrType) (hop : q.operator = p.operator)
    (hmany : p.operand = .many (s :: rest)) (hfirst : q.operand = .one s) :
    (∀ doc, passes doc (Query.compilePredicate p) = passes doc (Query.compilePredicate q)) ↔
      FirstSuffices p.operator s rest := by
  cases hwhole : comparesWhole p.operator with
  | true =>
    have hlisted : p.operand.toValue = listed (s :: rest) := by rw [hmany]; rfl
    have hscalar : q.operand.toValue = .scalar s := by rw [hfirst]; rfl
    rw [compilePredicate_whole hwhole, compilePredicate_whole (hop ▸ hwhole), hattr, hop, hlisted,
      hscalar, passes_same_iff]
    exact tests_same_iff hwhole s rest
  | false =>
    have hpart : p.operator = .contains ∨ p.operator = .arrayContains ∨
        p.operator = .notArrayContains := by
      simpa [comparesOne, hwhole, or_assoc] using hone
    have hsuffices : FirstSuffices p.operator s rest := by
      rcases hpart with hpart | hpart | hpart <;> rw [hpart] <;> trivial
    rw [compilePredicate_part hattr htype hop (by rw [hmany, hfirst]; rfl) hpart]
    exact iff_of_true (fun _ => rfl) hsuffices

/-- What can be read of a list can be read of its first item. -/
theorem operandFor_listed {type : String} (hone : op.takesMany = false)
    (hnull : ∀ t, first = .text t → readsAsNull t = false)
    (h : operandFor attr op (listed (first :: others)) type = .ok operand) :
    ∃ s rest, operand = .many (s :: rest) ∧
      operandFor attr op (.scalar first) type = .ok (.one s) := by
  obtain ⟨hallows, hread, -⟩ := operandFor_ok h
  have hitems : (parseItems (some type) ((first :: others).map .scalar)).map .many = .ok operand :=
    hread
  rw [List.map_cons, parseItems] at hitems
  cases hfirst : parseScalar (.scalar first) (some type) with
  | error f =>
    rw [hfirst] at hitems
    cases hitems
  | ok read =>
    obtain ⟨s, rfl⟩ := parseScalar_some hnull hfirst
    cases hrest : parseItems (some type) (others.map .scalar) with
    | error f =>
      rw [hfirst, hrest] at hitems
      cases hitems
    | ok rest =>
      rw [hfirst, hrest] at hitems
      cases hitems
      have halone : coerce op (.scalar first) (some type) = .ok (.one s) := by
        simp [coerce, inputs?, hone, parseOperand, hfirst, Except.map]
      refine ⟨s, rest, rfl, ?_⟩
      unfold operandFor
      rw [hallows, halone, hone]
      rfl

theorem takesMany_of_comparesOne (hone : comparesOne op = true) : op.takesMany = false := by
  cases op with
  | isIn | notIn | containsAny | notContainsAny => cases hone
  | _ => rfl

/-- An operator that compares with one value makes a filter of the first item whenever it makes one of
the list. The two let the same documents through just if the first item suffices. It always does where
a part of a text or a member of a list is looked for, and never where values are to be less. Where they
are to be more it does if positive infinities come first, or nothing, and then what is undefined; where
they may be equal too, if the first item is undefined; with globs, if the text of the list stands for
the same texts as that of the item; and with tokens, if the list has the same ones, for a phrase as
often and in the same order. -/
theorem first_item_suffices_iff (hone : comparesOne op = true)
    (hop : Operator.ofName? operator = some op)
    (hnull : ∀ t, first = .text t → readsAsNull t = false)
    (hmade : make id attr operator (listed (first :: others)) registry = .ok p) :
    ∃ s rest q, p.operand = .many (s :: rest) ∧
      make id attr operator (.scalar first) registry = .ok q ∧ q.operand = .one s ∧
      ((∀ doc, passes doc (Query.compilePredicate p) = passes doc (Query.compilePredicate q)) ↔
        FirstSuffices op s rest) := by
  rw [make_of_name hop] at hmade ⊢
  have hattr : (attr == "") = false := by
    cases hattr : attr == "" with
    | false => rfl
    | true =>
      unfold build at hmade
      rw [hattr] at hmade
      cases hmade
  obtain ⟨operand, hread, rfl⟩ := build_ok hmade
  obtain ⟨s, rest, rfl, halone⟩ := operandFor_listed (takesMany_of_comparesOne hone) hnull hread
  refine ⟨s, rest, ⟨id, attr, (registry.typeOf? attr).getD assumedType,
    (registry.typeOf? attr).isNone, op, .one s, (Operand.one s).display⟩, rfl, ?_, rfl, ?_⟩
  · unfold build
    dsimp only
    rw [hattr, halone]
    rfl
  · exact filters_same_iff hone rfl rfl rfl rfl rfl

/-- Books have titles and prices. -/
def books : Registry := ⟨[.declared "title" "string" true, .declared "price" "int32" false]⟩

/-- Words that repeat those of the first item change nothing; a list of one price does. -/
theorem repeated_words_suffice_and_no_price :
    (∃ p q, make "p" "title" "contains_all_tokens" (listed [.text "Red fox", .text "red"]) books =
        .ok p ∧
      make "p" "title" "contains_all_tokens" (.text "Red fox") books = .ok q ∧
      ∀ doc, passes doc (Query.compilePredicate p) = passes doc (Query.compilePredicate q)) ∧
    ∃ p q, make "p" "price" "less" (listed [.int 5]) books = .ok p ∧
      make "p" "price" "less" (.int 5) books = .ok q ∧
      ¬∀ doc, passes doc (Query.compilePredicate p) = passes doc (Query.compilePredicate q) := by
  constructor
  · have hmade : make "p" "title" "contains_all_tokens"
        (listed [.text "Red fox", .text "red"]) books =
          .ok ⟨"p", "title", "string", false, .containsAllTokens,
            .many [.text "Red fox", .text "red"], "[Red fox, red]"⟩ := by
      decide +kernel
    obtain ⟨s, rest, q, hmany, hfirst, -, hsame⟩ :=
      first_item_suffices_iff (by decide) rfl (by rintro _ ⟨⟩; decide +kernel) hmade
    cases hmany
    refine ⟨_, q, hmade, hfirst, hsame.mpr fun t => ?_⟩
    have hall : tokens (listed [.text "Red fox", .text "red"]) =
        [['r', 'e', 'd'], ['f', 'o', 'x'], ['r', 'e', 'd']] := by decide +kernel
    have hone : tokens (.text "Red fox") = [['r', 'e', 'd'], ['f', 'o', 'x']] := by decide +kernel
    rw [hall, hone]
    simp only [List.mem_cons, List.not_mem_nil, or_false]
    tauto
  · obtain ⟨p, hmade⟩ : ∃ p, make "p" "price" "less" (listed [.int 5]) books = .ok p :=
      ⟨_, rfl⟩
    obtain ⟨s, rest, q, -, hfirst, -, hsame⟩ :=
      first_item_suffices_iff (by decide) rfl (by rintro _ ⟨⟩) hmade
    exact ⟨p, q, hmade, hfirst, hsame.mp⟩

/-- A book for six is dearer than five, and not dearer than a list of five. -/
theorem dearer_book_is_missed :
    let book : Fields := [("price", .int 6)]
    ∃ p q, make "p" "price" "greater" (listed [.int 5]) books = .ok p ∧
      make "p" "price" "greater" (.int 5) books = .ok q ∧
      passes book (Query.compilePredicate p) = .ok false ∧
      passes book (Query.compilePredicate q) = .ok true :=
  ⟨_, _, rfl, rfl, rfl, rfl⟩

end Predicate

end Folio
