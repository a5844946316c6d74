-- Sorting by numbers. Documents that are sorted by an attribute with numbers come kind by kind: in
-- rising order those with floating numbers before those with whole ones, each kind by value, and
-- those without a number last. So the whole is in numeric order just if the kinds do not overlap.
import Folio.Proofs.Ranking
import Mathlib.Algebra.Order.Ring.Unbundled.Rat
import Mathlib.Data.Prod.Lex
import Mathlib.Order.WithBot

namespace Folio

/-! ## The order of numbers -/

namespace Number.Magnitude

/-- Where a value stands among all that are defined. -/
def level : Magnitude → WithBot (WithTop Rat)
  | finite q => ((q : WithTop Rat) : WithBot (WithTop Rat))
  | infinite negative => if negative then ⊥ else ⊤
  | undefined => ⊤

theorem coe_lt_top (q : Rat) : ((q : WithTop Rat) : WithBot (WithTop Rat)) < ⊤ :=
  WithBot.coe_lt_coe.mpr (WithTop.coe_lt_top q)

theorem less_eq_level {p q : Magnitude} (hp : p ≠ undefined) (hq : q ≠ undefined) :
    p.less q = decide (p.level < q.level) := by
  cases p with
  | undefined => exact absurd rfl hp
  | finite p =>
    cases q with
    | undefined => exact absurd rfl hq
    | finite q => simp [less, level]
    | infinite negative => cases negative <;> simp [less, level, coe_lt_top]
  | infinite negative =>
    cases q with
    | undefined => exact absurd rfl hq
    | finite q => cases negative <;> simp [less, level]
    | infinite other => cases negative <;> cases other <;> simp [less, level]

theorem same_eq_level {p q : Magnitude} (hp : p ≠ undefined) (hq : q ≠ undefined) :
    p.same q = decide (p.level = q.level) := by
  cases p with
  | undefined => exact absurd rfl hp
  | finite p =>
    cases q with
    | undefined => exact absurd rfl hq
    | finite q => simp [same, level, beq_eq_decide]
    | infinite negative => cases negative <;> simp [same, level, (coe_lt_top p).ne]
  | infinite negative =>
    cases q with
    | undefined => exact absurd rfl hq
    | finite q => cases negative <;> simp [same, level, (coe_lt_top q).ne']
    | infinite other => cases negative <;> cases other <;> simp [same, level]

theorem undefined_same (p : Magnitude) : undefined.same p = false := by cases p <;> rfl

theorem same_undefined (p : Magnitude) : p.same undefined = false := by cases p <;> rfl

/-- What is the same as one of two equal values is the same as the other. -/
theorem same_eq_of_same {p q : Magnitude} (h : p.same q = true) (r : Magnitude) : r.same q = p.same r := by
  have hp : p ≠ undefined := fun hp => by rw [hp, undefined_same] at h; cases h
  have hq : q ≠ undefined := fun hq => by rw [hq, same_undefined] at h; cases h
  rcases eq_or_ne r undefined with rfl | hr
  · rw [undefined_same, same_undefined]
  · rw [same_eq_level hp hq, decide_eq_true_iff] at h
    rw [same_eq_level hr hq, same_eq_level hp hr, ← h]
    exact decide_eq_decide.mpr eq_comm

end Number.Magnitude

namespace Value

/-- The number that a value is. -/
def number? : Value → Option Number.Magnitude
  | .int n => some (Number.ofWhole n)
  | .float x => some (Number.magnitude x)
  | _ => none

/-- A whole number, or a floating one that is defined. -/
inductive IsNumber : Value → Prop where
  | whole (n : Int) : IsNumber (.int n)
  | floating {x : Float} (defined : Number.magnitude x ≠ .undefined) : IsNumber (.float x)

/-- Where a number stands among those that are sorted: floating ones before whole ones, and each
kind by value. -/
def place : Value → Bool ×ₗ WithBot (WithTop Rat)
  | .float x => toLex (false, (Number.magnitude x).level)
  | .int n => toLex (true, (Number.ofWhole n).level)
  | _ => toLex (true, ⊤)

/-- Whether a number is of the kind that is sorted first: up, the floating ones, and down, the whole
ones. -/
def sortsFirst (down : Bool) : Value → Bool
  | .float _ => !down
  | .int _ => down
  | _ => false

variable {v w : Value} {p q : Number.Magnitude}

theorem IsNumber.defined (h : IsNumber v) (hp : v.number? = some p) : p ≠ .undefined := by
  cases h with
  | whole n =>
    cases hp
    exact Number.Magnitude.noConfusion
  | floating defined =>
    cases hp
    exact defined

theorem IsNumber.exists_number (h : IsNumber v) : ∃ p, v.number? = some p := by
  cases h with
  | whole n => exact ⟨_, rfl⟩
  | floating defined => exact ⟨_, rfl⟩

theorem IsNumber.isNull (h : IsNumber v) : v.isNull = false := by
  cases h with
  | whole n => rfl
  | floating defined => rfl

theorem IsNumber.sortsFirst_not (h : IsNumber v) (down : Bool) :
    v.sortsFirst (!down) = !v.sortsFirst down := by
  cases h with
  | whole n => rfl
  | floating defined => rfl

theorem eq_float_of_sortsFirst (h : v.sortsFirst false = true) : ∃ x, v = .float x := by
  unfold sortsFirst at h
  split at h
  · exact ⟨_, rfl⟩
  · cases h
  · cases h

theorem eq_int_of_sortsFirst (h : v.sortsFirst true = true) : ∃ n, v = .int n := by
  unfold sortsFirst at h
  split at h
  · cases h
  · exact ⟨_, rfl⟩
  · cases h

/-- Numbers have one place if they are of one kind and of the same value. -/
theorem place_eq_iff (hv : IsNumber v) (hw : IsNumber w) (hp : v.number? = some p)
    (hq : w.number? = some q) (down : Bool) :
    v.place = w.place ↔ v.sortsFirst down = w.sortsFirst down ∧ p.same q = true := by
  rw [Number.Magnitude.same_eq_level (hv.defined hp) (hw.defined hq), decide_eq_true_iff]
  cases hv with
  | whole m => cases hw <;> cases hp <;> cases hq <;> cases down <;> simp [place, sortsFirst]
  | floating hx => cases hw <;> cases hp <;> cases hq <;> cases down <;> simp [place, sortsFirst]

/-- Numbers of one kind have their places by value. -/
theorem place_lt_iff (hv : IsNumber v) (hw : IsNumber w) (hp : v.number? = some p)
    (hq : w.number? = some q) {down : Bool} (hkind : v.sortsFirst down = w.sortsFirst down) :
    decide (v.place < w.place) = p.less q := by
  rw [Number.Magnitude.less_eq_level (hv.defined hp) (hw.defined hq)]
  cases hv with
  | whole m =>
    cases hw with
    | whole n =>
      cases hp
      cases hq
      simp [place, Prod.Lex.toLex_lt_toLex]
    | floating hy => cases down <;> cases hkind
  | floating hx =>
    cases hw with
    | whole n => cases down <;> cases hkind
    | floating hy =>
      cases hp
      cases hq
      simp [place, Prod.Lex.toLex_lt_toLex]

end Value

namespace Collection

open Folio.Value (IsNumber)

/-- Values of several kinds are sorted by the names of the kinds. -/
theorem sortsBefore_kinds {a b : Scalar} (h : a.kindName ≠ b.kindName) :
    sortsBefore (.scalar a) (.scalar b) = .ok (decide (a.kindName < b.kindName)) := by
  simp only [sortsBefore, Value.kindName]
  exact if_pos (bne_iff_ne.mpr h)

/-- Numbers of one kind are sorted by value. -/
theorem sortsBefore_levels {a b : Scalar} {p q : Number.Magnitude} (ha : a.magnitude? = some p)
    (hb : b.magnitude? = some q) (hkind : a.kindName = b.kindName) (hp : p ≠ .undefined)
    (hq : q ≠ .undefined) :
    sortsBefore (.scalar a) (.scalar b) = .ok (decide (p.level < q.level)) := by
  have hsame : a.same b = p.same q := by
    cases a with
    | text s => cases ha
    | _ => simp only [Scalar.same, ha, hb]
  have hcompare : a.compare .less b = .ok (p.less q) := by
    cases a with
    | text s => cases ha
    | _ => simp only [Scalar.compare, ha, hb, Relation.ofMagnitudes]
  rw [Number.Magnitude.same_eq_level hp hq] at hsame
  rw [Number.Magnitude.less_eq_level hp hq] at hcompare
  simp only [sortsBefore, Value.kindName, hkind, bne_self_eq_false, Bool.false_eq_true, if_false,
    Value.same, hsame, Value.compare, hcompare]
  split
  · rename_i h
    exact congrArg Except.ok (decide_eq_false (of_decide_eq_true h ▸ lt_irrefl _)).symm
  · rfl

/-- Numbers are sorted by their places. -/
theorem sortsBefore_numbers {v w : Value} (hv : IsNumber v) (hw : IsNumber w) :
    sortsBefore v w = .ok (decide (v.place < w.place)) := by
  have hwhole (n : Int) : Number.ofWhole n ≠ .undefined := fun h => by cases h
  cases hv with
  | whole m =>
    cases hw with
    | whole n =>
      rw [sortsBefore_levels (a := .int m) (b := .int n) rfl rfl rfl (hwhole m) (hwhole n)]
      simp [Value.place, Prod.Lex.toLex_lt_toLex]
    | @floating y hy =>
      have hno : decide ("int" < "float") = false := by decide
      rw [sortsBefore_kinds (a := .int m) (b := .float y) (by simp [Scalar.kindName]),
        Scalar.kindName, Scalar.kindName, hno]
      simp [Value.place, Prod.Lex.toLex_lt_toLex]
  | @floating x hx =>
    cases hw with
    | whole n =>
      have hyes : decide ("float" < "int") = true := by decide
      rw [sortsBefore_kinds (a := .float x) (b := .int n) (by simp [Scalar.kindName]),
        Scalar.kindName, Scalar.kindName, hyes]
      simp [Value.place, Prod.Lex.toLex_lt_toLex]
    | @floating y hy =>
      rw [sortsBefore_levels (a := .float x) (b := .float y) rfl rfl rfl hx hy]
      simp [Value.place, Prod.Lex.toLex_lt_toLex]

/-- A comparison that answers whether one item stands before another is an order. -/
theorem orders_of_places {α ε β : Type} [LinearOrder β] {P : α → Prop} {less : α → α → Except ε Bool}
    {place : α → β} (h : ∀ {a b}, P a → P b → less a b = .ok (decide (place a < place b))) :
    Orders P less fun a b => decide (place a < place b) where
  answers := h
  asymm := fun _ _ hab => decide_eq_false (lt_asymm (of_decide_eq_true hab))
  through := fun _ _ _ hab hbc =>
    by
    have hba := not_lt.mp (of_decide_eq_false hab)
    have hcb := not_lt.mp (of_decide_eq_false hbc)
    exact decide_eq_false (not_lt.mpr (hcb.trans hba))

/-! ## Numeric order -/

variable {docs : List Fields}

/-- The value under an attribute of a document. -/
def valueAt (attr : Value) (doc : Fields) : Value := ((attributeOf doc attr).toOption).getD .null

/-- The number under an attribute of a document, if there is one. -/
def numberAt? (attr : Value) (doc : Fields) : Option Number.Magnitude := (valueAt attr doc).number?

/-- Whether the number under an attribute of a document has a value. -/
def amountsTo (attr : Value) (q : Number.Magnitude) (doc : Fields) : Bool :=
  (numberAt? attr doc).any (·.same q)

/-- Whether one number comes before another one, up or down. -/
def precedes (down : Bool) (p q : Number.Magnitude) : Bool := if down then q.less p else p.less q

/-- Some documents in the numeric order of an attribute. -/
structure InNumericOrder (attr : Value) (down : Bool) (docs out : List Fields) : Prop where
  perm : out.Perm docs
  ordered : out.Pairwise fun d e => ∀ p q, numberAt? attr d = some p → numberAt? attr e = some q →
    precedes down q p = false
  /-- Documents without a number come last. -/
  last : out.Pairwise fun d e => numberAt? attr d = none → numberAt? attr e = none
  /-- Documents with the same number come as they came, and so do those without one. -/
  ties : ∀ q, out.filter (amountsTo attr q) = docs.filter (amountsTo attr q)
  absent : out.filter (fun d => (numberAt? attr d).isNone) =
    docs.filter (fun d => (numberAt? attr d).isNone)

/-- An attribute that is missing, null or a number. -/
def HoldsNumbers (attr : Value) (docs : List Fields) : Prop :=
  ∀ d ∈ docs, attributeOf d attr = .ok .null ∨ ∃ v, attributeOf d attr = .ok v ∧ IsNumber v

/-- Whether the number under an attribute of a document is of the kind that is sorted first. -/
def comesFirst (attr : Value) (down : Bool) (doc : Fields) : Bool :=
  (valueAt attr doc).sortsFirst down

/-- The kinds of numbers do not overlap. -/
structure KindsApart (attr : Value) (down : Bool) (docs : List Fields) : Prop where
  /-- No whole number is below a floating one. -/
  apart : ∀ d ∈ docs, ∀ e ∈ docs, ∀ x n, valueAt attr d = .float x → valueAt attr e = .int n →
    (Number.ofWhole n).less (Number.magnitude x) = false
  /-- Of documents with the same number, those of the kind that is sorted first came first. -/
  ties : docs.Pairwise fun d e => ∀ q, comesFirst attr (!down) d = true →
    comesFirst attr down e = true → amountsTo attr q d = true → amountsTo attr q e = false

variable {attr : Value} {down : Bool}

theorem valueAt_cases (h : HoldsNumbers attr docs) {d : Fields} (hd : d ∈ docs) :
    attributeOf d attr = .ok (valueAt attr d) ∧
      (valueAt attr d = .null ∨ IsNumber (valueAt attr d)) := by
  unfold valueAt
  rcases h d hd with hnull | ⟨v, hv, hnumber⟩
  · rw [hnull]
    exact ⟨rfl, Or.inl rfl⟩
  · rw [hv]
    exact ⟨rfl, Or.inr hnumber⟩

/-! ## Kind by kind -/

/-- The order in which documents with numbers are sorted. -/
def placedBefore (attr : Value) (down : Bool) (d e : Fields) : Bool :=
  if down then decide ((valueAt attr e).place < (valueAt attr d).place)
  else decide ((valueAt attr d).place < (valueAt attr e).place)

/-- Documents with numbers, sorted. -/
abbrev Placed (attr : Value) (down : Bool) (docs sorted : List Fields) : Prop :=
  SortedForm (fun d => IsNumber (valueAt attr d)) (placedBefore attr down) docs sorted

theorem placedBefore_of_kinds {d e : Fields} (hd : IsNumber (valueAt attr d))
    (he : IsNumber (valueAt attr e)) (hfirst : comesFirst attr down d = true)
    (hsecond : comesFirst attr (!down) e = true) : placedBefore attr down d e = true := by
  unfold comesFirst at hfirst hsecond
  unfold placedBefore
  generalize valueAt attr d = v at hd hfirst
  generalize valueAt attr e = w at he hsecond
  cases down with
  | true =>
    cases hd <;> cases hfirst
    cases he <;> cases hsecond
    simp [Value.place, Prod.Lex.toLex_lt_toLex]
  | false =>
    cases hd <;> cases hfirst
    cases he <;> cases hsecond
    simp [Value.place, Prod.Lex.toLex_lt_toLex]

theorem placedBefore_of_kind {d e : Fields} {p q : Number.Magnitude}
    (hd : IsNumber (valueAt attr d)) (he : IsNumber (valueAt attr e))
    (hp : numberAt? attr d = some p) (hq : numberAt? attr e = some q) {k : Bool}
    (hkind : comesFirst attr k d = comesFirst attr k e) :
    placedBefore attr down d e = precedes down p q := by
  unfold placedBefore precedes
  rw [Value.place_lt_iff hd he hp hq hkind, Value.place_lt_iff he hd hq hp hkind.symm]

theorem tied_placedBefore (d e : Fields) : tied (placedBefore attr down) d e =
    decide ((valueAt attr d).place = (valueAt attr e).place) := by
  rw [Bool.eq_iff_iff, tied_iff, decide_eq_true_iff]
  unfold placedBefore
  cases down with
  | true =>
    simp only [if_true, decide_eq_false_iff_not, not_lt]
    exact le_antisymm_iff.symm
  | false =>
    simp only [Bool.false_eq_true, if_false, decide_eq_false_iff_not, not_lt]
    exact and_comm.trans le_antisymm_iff.symm

/-- The documents of one kind with a given number are those that are tied to one of them. -/
theorem amountsTo_eq_tied {c d : Fields} {q : Number.Magnitude} {k : Bool}
    (hc : IsNumber (valueAt attr c)) (hd : IsNumber (valueAt attr d)) (hq : amountsTo attr q c = true)
    (hk : comesFirst attr k c = true) :
    (amountsTo attr q d && comesFirst attr k d) = tied (placedBefore attr down) c d := by
  obtain ⟨p, hp⟩ := hc.exists_number
  obtain ⟨r, hr⟩ := hd.exists_number
  have hpq : p.same q = true := by
    rw [amountsTo, numberAt?, hp] at hq
    exact hq
  have hrq : amountsTo attr q d = p.same r := by
    rw [amountsTo, numberAt?, hr]
    exact Number.Magnitude.same_eq_of_same hpq r
  rw [tied_placedBefore, decide_eq_decide.mpr (Value.place_eq_iff hc hd hp hr k), hrq]
  change _ = decide (comesFirst attr k c = comesFirst attr k d ∧ _)
  rw [hk, Bool.decide_and, Bool.and_comm]
  cases comesFirst attr k d <;> simp

/-- What is true of two items only if it is true of the one before it is true of the first items. -/
theorem eq_filter_append_filter {α : Type} {p : α → Bool} {items : List α}
    (h : items.Pairwise fun a b => p b = true → p a = true) :
    items = items.filter p ++ items.filter (fun a => !p a) := by
  induction items with
  | nil => rfl
  | cons a rest ih =>
    obtain ⟨hfirst, hrest⟩ := List.pairwise_cons.mp h
    cases ha : p a with
    | true =>
      rw [List.filter_cons_of_pos ha, List.filter_cons_of_neg (by simp [ha]), List.cons_append, ← ih hrest]
    | false =>
      have hnone : rest.filter p = [] := by
        refine List.filter_eq_nil_iff.mpr fun b hb hpb => ?_
        rw [hfirst b hb hpb] at ha
        cases ha
      rw [List.filter_cons_of_neg (by simp [ha]), hnone, List.nil_append,
        List.filter_cons_of_pos (by simp [ha]), List.filter_eq_self.mpr]
      intro b hb
      simpa using List.filter_eq_nil_iff.mp hnone b hb

variable {items sorted : List Fields}

/-- Sorted documents are those of the kind that is sorted first, and then the others. -/
theorem Placed.eq_append (h : Placed attr down items sorted)
    (hitems : ∀ d ∈ items, IsNumber (valueAt attr d)) :
    sorted = sorted.filter (comesFirst attr down) ++ sorted.filter (comesFirst attr !down) := by
  have hnumber : ∀ d ∈ sorted, IsNumber (valueAt attr d) := fun d hd =>
    hitems d (h.perm.mem_iff.mp hd)
  have hother : sorted.filter (comesFirst attr !down) =
      sorted.filter (fun d => !comesFirst attr down d) :=
    List.filter_congr fun d hd => (hnumber d hd).sortsFirst_not down
  rw [hother]
  refine eq_filter_append_filter (h.ordered.imp_of_mem ?_)
  intro d e hd he hde hfirst
  by_contra hsecond
  have hsecond : comesFirst attr (!down) d = true := by
    rw [comesFirst, (hnumber d hd).sortsFirst_not down]
    exact Bool.not_eq_true' _ ▸ Bool.not_eq_true _ ▸ hsecond
  rw [placedBefore_of_kinds (hnumber e he) (hnumber d hd) hfirst hsecond] at hde
  cases hde

/-- Of one kind, the sorted documents with a given number come as they came. -/
theorem Placed.filter_amountsTo (h : Placed attr down items sorted)
    (hitems : ∀ d ∈ items, IsNumber (valueAt attr d)) (k : Bool) (q : Number.Magnitude) :
    (sorted.filter (comesFirst attr k)).filter (amountsTo attr q) =
      (items.filter (comesFirst attr k)).filter (amountsTo attr q) := by
  rw [List.filter_filter, List.filter_filter]
  by_cases hthere : ∃ c ∈ items, amountsTo attr q c = true ∧ comesFirst attr k c = true
  · -- They are the tie of any one of them.
    obtain ⟨c, hc, hq, hk⟩ := hthere
    have htied (d : Fields) (hd : IsNumber (valueAt attr d)) :
        (amountsTo attr q d && comesFirst attr k d) = tied (placedBefore attr down) c d :=
      amountsTo_eq_tied (hitems c hc) hd hq hk
    rw [List.filter_congr fun d hd => htied d (hitems d (h.perm.mem_iff.mp hd)),
      List.filter_congr fun d hd => htied d (hitems d hd)]
    exact h.ties c (hitems c hc)
  · have hnone (d : Fields) (hd : d ∈ items) :
        ¬(amountsTo attr q d && comesFirst attr k d) = true := fun hboth =>
      hthere ⟨d, hd, Bool.and_eq_true_iff.mp hboth⟩
    rw [List.filter_eq_nil_iff.mpr fun d hd => hnone d (h.perm.mem_iff.mp hd),
      List.filter_eq_nil_iff.mpr hnone]

/-- The sorted documents of one kind are in numeric order. -/
theorem Placed.kind (h : Placed attr down items sorted)
    (hitems : ∀ d ∈ items, IsNumber (valueAt attr d)) (k : Bool) :
    InNumericOrder attr down (items.filter (comesFirst attr k)) (sorted.filter (comesFirst attr k)) := by
  have hnumber : ∀ d ∈ sorted, IsNumber (valueAt attr d) := fun d hd =>
    hitems d (h.perm.mem_iff.mp hd)
  refine ⟨h.perm.filter _, ?_, ?_, h.filter_amountsTo hitems k, ?_⟩
  · refine (h.ordered.filter _).imp_of_mem ?_
    intro d e hd he hde p q hp hq
    obtain ⟨hd, hdk⟩ := List.mem_filter.mp hd
    obtain ⟨he, hek⟩ := List.mem_filter.mp he
    rwa [placedBefore_of_kind (hnumber e he) (hnumber d hd) hq hp (hek.trans hdk.symm)] at hde
  · refine List.pairwise_of_forall_mem_list fun d hd e he hnone => ?_
    obtain ⟨p, hp⟩ := (hnumber d (List.mem_filter.mp hd).1).exists_number
    cases hp.symm.trans hnone
  · have hnone {l : List Fields} (hl : ∀ d ∈ l, IsNumber (valueAt attr d)) :
        (l.filter (comesFirst attr k)).filter (fun d => (numberAt? attr d).isNone) = [] := by
      refine List.filter_eq_nil_iff.mpr fun d hd habsent => ?_
      obtain ⟨p, hp⟩ := (hl d (List.mem_filter.mp hd).1).exists_number
      rw [numberAt?, hp] at habsent
      cases habsent
    rw [hnone hnumber, hnone hitems]

/-! ## When the whole is in numeric order -/

theorem isNumber_of_comesFirst (hnumbers : HoldsNumbers attr docs) {d : Fields} (hd : d ∈ docs) {k : Bool}
    (hk : comesFirst attr k d = true) : IsNumber (valueAt attr d) := by
  rcases (valueAt_cases hnumbers hd).2 with hnull | hnumber
  · rw [comesFirst, hnull] at hk
    cases hk
  · exact hnumber

theorem comesFirst_not {d : Fields} (hd : IsNumber (valueAt attr d)) (k : Bool) :
    comesFirst attr (!k) d = !comesFirst attr k d := hd.sortsFirst_not k

/-- Documents without a value. -/
def unvalued (attr : Value) (docs : List Fields) : List Fields :=
  docs.filter fun d => (valueAt attr d).isNull

theorem valueAt_of_unvalued {d : Fields} (hd : d ∈ unvalued attr docs) : valueAt attr d = .null := by
  have hnull := (List.mem_filter.mp hd).2
  cases hv : valueAt attr d with
  | null => rfl
  | _ =>
    rw [hv] at hnull
    cases hnull

theorem numberAt?_of_unvalued {d : Fields} (hd : d ∈ unvalued attr docs) : numberAt? attr d = none :=
  congrArg Value.number? (valueAt_of_unvalued hd)

theorem comesFirst_of_unvalued {d : Fields} (hd : d ∈ unvalued attr docs) (k : Bool) :
    comesFirst attr k d = false :=
  congrArg (Value.sortsFirst k) (valueAt_of_unvalued hd)

/-- The first kind is in order before the second one just if no whole number is below a floating
one. -/
theorem kinds_ordered_iff : (∀ d ∈ docs.filter (comesFirst attr down),
    ∀ e ∈ docs.filter (comesFirst attr !down), ∀ p q, numberAt? attr d = some p →
      numberAt? attr e = some q → precedes down q p = false) ↔
    ∀ d ∈ docs, ∀ e ∈ docs, ∀ x n, valueAt attr d = .float x → valueAt attr e = .int n →
      (Number.ofWhole n).less (Number.magnitude x) = false := by
  have hkind (k : Bool) {d : Fields} {v : Value} (hd : d ∈ docs) (hv : valueAt attr d = v)
      (hk : v.sortsFirst k = true) : d ∈ docs.filter (comesFirst attr k) :=
    List.mem_filter.mpr ⟨hd, by rw [comesFirst, hv, hk]⟩
  have hnumber {d : Fields} {v : Value} (hv : valueAt attr d = v) : numberAt? attr d = v.number? :=
    congrArg Value.number? hv
  constructor
  · intro h d hd e he x n hx hn
    cases down with
    | true => exact h e (hkind true he hn rfl) d (hkind false hd hx rfl) _ _ (hnumber hn) (hnumber hx)
    | false => exact h d (hkind false hd hx rfl) e (hkind true he hn rfl) _ _ (hnumber hx) (hnumber hn)
  · intro h d hd e he p q hp hq
    replace ⟨hd, hdk⟩ := List.mem_filter.mp hd
    replace ⟨he, hek⟩ := List.mem_filter.mp he
    unfold comesFirst at hdk hek
    cases down with
    | true =>
      obtain ⟨n, hn⟩ := Value.eq_int_of_sortsFirst hdk
      obtain ⟨x, hx⟩ := Value.eq_float_of_sortsFirst hek
      cases hp.symm.trans (hnumber hn)
      cases hq.symm.trans (hnumber hx)
      exact h e he d hd x n hx hn
    | false =>
      obtain ⟨x, hx⟩ := Value.eq_float_of_sortsFirst hdk
      obtain ⟨n, hn⟩ := Value.eq_int_of_sortsFirst hek
      cases hp.symm.trans (hnumber hx)
      cases hq.symm.trans (hnumber hn)
      exact h d hd e he x n hx hn

variable {first second : List Fields}

/-- Kinds that come one after the other are never the other way round. -/
theorem pairwise_kinds (hnumbers : HoldsNumbers attr docs)
    (hfirst : first.Perm (docs.filter (comesFirst attr down)))
    (hsecond : second.Perm (docs.filter (comesFirst attr !down))) :
    (first ++ second ++ unvalued attr docs).Pairwise fun d e =>
      comesFirst attr (!down) d = true → comesFirst attr down e = false := by
  have hone {d : Fields} (hd : d ∈ docs) {k : Bool} (hk : comesFirst attr k d = true) :
      comesFirst attr (!k) d = false := by
    rw [comesFirst_not (isNumber_of_comesFirst hnumbers hd hk), hk]
    rfl
  have hfirst {d : Fields} (hd : d ∈ first) : comesFirst attr (!down) d = false := by
    obtain ⟨hd, hk⟩ := List.mem_filter.mp (hfirst.mem_iff.mp hd)
    exact hone hd hk
  have hsecond {d : Fields} (hd : d ∈ second) : comesFirst attr down d = false := by
    obtain ⟨hd, hk⟩ := List.mem_filter.mp (hsecond.mem_iff.mp hd)
    exact (congrArg (comesFirst attr · d) (Bool.not_not down)).symm.trans (hone hd hk)
  refine List.pairwise_append.mpr ⟨List.pairwise_append.mpr ⟨?_, ?_, ?_⟩, ?_, ?_⟩
  · refine List.pairwise_of_forall_mem_list fun d hd e _ hk => ?_
    cases (hfirst hd).symm.trans hk
  · exact List.pairwise_of_forall_mem_list fun d _ e he _ => hsecond he
  · exact fun d _ e he _ => hsecond he
  · exact List.pairwise_of_forall_mem_list fun d _ e he _ => comesFirst_of_unvalued he down
  · exact fun d _ e he _ => comesFirst_of_unvalued he down

theorem isNumber_of_amountsTo (hnumbers : HoldsNumbers attr docs) {d : Fields} (hd : d ∈ docs)
    {q : Number.Magnitude} (hq : amountsTo attr q d = true) : IsNumber (valueAt attr d) := by
  rcases (valueAt_cases hnumbers hd).2 with hnull | hnumber
  · rw [amountsTo, numberAt?, hnull] at hq
    cases hq
  · exact hnumber

/-- Where kinds do not overlap, the documents with one number are those of the kind that is sorted
first, and then the others. -/
theorem KindsApart.filter_amountsTo (h : KindsApart attr down docs) (hnumbers : HoldsNumbers attr docs)
    (q : Number.Magnitude) : docs.filter (amountsTo attr q) =
      (docs.filter (comesFirst attr down)).filter (amountsTo attr q) ++
        (docs.filter (comesFirst attr !down)).filter (amountsTo attr q) := by
  have hnumber {d : Fields} (hd : d ∈ docs.filter (amountsTo attr q)) : IsNumber (valueAt attr d) := by
    obtain ⟨hd, hq⟩ := List.mem_filter.mp hd
    exact isNumber_of_amountsTo hnumbers hd hq
  have hpair : (docs.filter (amountsTo attr q)).Pairwise fun d e =>
      comesFirst attr down e = true → comesFirst attr down d = true := by
    refine List.Pairwise.imp_of_mem ?_ (h.ties.filter (amountsTo attr q))
    intro d e hd he hde hfirst
    by_contra hsecond
    have hsecond : comesFirst attr (!down) d = true := by
      rw [comesFirst_not (hnumber hd), Bool.eq_false_of_not_eq_true hsecond]
      rfl
    have hno := hde q hsecond hfirst (List.mem_filter.mp hd).2
    rw [(List.mem_filter.mp he).2] at hno
    cases hno
  have hswap (k : Bool) : (docs.filter (amountsTo attr q)).filter (comesFirst attr k) =
      (docs.filter (comesFirst attr k)).filter (amountsTo attr q) := by
    rw [List.filter_filter, List.filter_filter]
    exact List.filter_congr fun d _ => Bool.and_comm _ _
  rw [← hswap, ← hswap, List.filter_congr fun d hd => comesFirst_not (hnumber hd) down]
  exact eq_filter_append_filter hpair

theorem numberAt?_of_block (hnumbers : HoldsNumbers attr docs) {k : Bool} {block : List Fields}
    (hblock : block.Perm (docs.filter (comesFirst attr k))) {d : Fields} (hd : d ∈ block) :
    numberAt? attr d ≠ none := by
  obtain ⟨hd, hk⟩ := List.mem_filter.mp (hblock.mem_iff.mp hd)
  obtain ⟨p, hp⟩ := (isNumber_of_comesFirst hnumbers hd hk).exists_number
  exact fun hnone => Option.some_ne_none p (hp.symm.trans hnone)

/-- Kinds that are in numeric order one behind the other do not overlap. -/
theorem InNumericOrder.kindsApart (hnumbers : HoldsNumbers attr docs)
    (hfirst : InNumericOrder attr down (docs.filter (comesFirst attr down)) first)
    (hsecond : InNumericOrder attr down (docs.filter (comesFirst attr !down)) second)
    (h : InNumericOrder attr down docs (first ++ second ++ unvalued attr docs)) :
    KindsApart attr down docs := by
  obtain ⟨hnumbered, -, -⟩ := List.pairwise_append.mp h.ordered
  obtain ⟨-, -, hacross⟩ := List.pairwise_append.mp hnumbered
  have hkinds : ∀ d ∈ docs.filter (comesFirst attr down), ∀ e ∈ docs.filter (comesFirst attr !down),
      ∀ p q, numberAt? attr d = some p → numberAt? attr e = some q → precedes down q p = false :=
    fun d hd e he => hacross d (hfirst.perm.mem_iff.mpr hd) e (hsecond.perm.mem_iff.mpr he)
  refine ⟨kinds_ordered_iff.mp hkinds, ?_⟩
  refine List.pairwise_iff_forall_sublist.mpr fun {d e} hsub q hd he hdq => ?_
  -- Documents with the same number come as they came, and no kind comes behind the one after it.
  have hpair := (pairwise_kinds hnumbers hfirst.perm hsecond.perm).filter (amountsTo attr q)
  rw [h.ties q] at hpair
  by_contra heq
  rw [Bool.not_eq_false] at heq
  have hno := List.pairwise_iff_forall_sublist.mp (List.pairwise_filter.mp hpair) hsub hdq heq hd
  rw [he] at hno
  cases hno

/-- Kinds that do not overlap are in numeric order one behind the other. -/
theorem KindsApart.inNumericOrder (h : KindsApart attr down docs) (hnumbers : HoldsNumbers attr docs)
    (hfirst : InNumericOrder attr down (docs.filter (comesFirst attr down)) first)
    (hsecond : InNumericOrder attr down (docs.filter (comesFirst attr !down)) second)
    (hperm : (first ++ second ++ unvalued attr docs).Perm docs) :
    InNumericOrder attr down docs (first ++ second ++ unvalued attr docs) := by
  refine ⟨hperm, ?_, ?_, fun q => ?_, ?_⟩
  · refine List.pairwise_append.mpr ⟨List.pairwise_append.mpr ⟨hfirst.ordered, hsecond.ordered, ?_⟩, ?_, ?_⟩
    · intro d hd e he
      exact kinds_ordered_iff.mpr h.apart d (hfirst.perm.mem_iff.mp hd) e (hsecond.perm.mem_iff.mp he)
    · refine List.pairwise_of_forall_mem_list fun d _ e he p q _ hq => ?_
      cases (numberAt?_of_unvalued he).symm.trans hq
    · intro d _ e he p q _ hq
      cases (numberAt?_of_unvalued he).symm.trans hq
  · refine List.pairwise_append.mpr ⟨List.pairwise_append.mpr ⟨hfirst.last, hsecond.last, ?_⟩, ?_, ?_⟩
    · exact fun d hd _ _ hnone => absurd hnone (numberAt?_of_block hnumbers hfirst.perm hd)
    · exact List.pairwise_of_forall_mem_list fun d _ e he _ => numberAt?_of_unvalued he
    · exact fun d _ e he _ => numberAt?_of_unvalued he
  · have hunvalued : (unvalued attr docs).filter (amountsTo attr q) = [] := by
      refine List.filter_eq_nil_iff.mpr fun d hd hq => ?_
      rw [amountsTo, numberAt?_of_unvalued hd] at hq
      cases hq
    rw [List.filter_append, List.filter_append, hfirst.ties, hsecond.ties, hunvalued, List.append_nil,
      h.filter_amountsTo hnumbers q]
  · have hblock {k : Bool} {block : List Fields} (hk : block.Perm (docs.filter (comesFirst attr k))) :
        block.filter (fun d => (numberAt? attr d).isNone) = [] :=
      List.filter_eq_nil_iff.mpr fun d hd hnone =>
        numberAt?_of_block hnumbers hk hd (Option.isNone_iff_eq_none.mp hnone)
    have hsame : docs.filter (fun d => (numberAt? attr d).isNone) = unvalued attr docs := by
      refine List.filter_congr fun d hd => ?_
      rcases (valueAt_cases hnumbers hd).2 with hnull | hnumber
      · rw [numberAt?, hnull]
        rfl
      · obtain ⟨p, hp⟩ := hnumber.exists_number
        rw [numberAt?, hp, hnumber.isNull]
        rfl
    have hall : (unvalued attr docs).filter (fun d => (numberAt? attr d).isNone) = unvalued attr docs :=
      List.filter_eq_self.mpr fun d hd => Option.isNone_iff_eq_none.mpr (numberAt?_of_unvalued hd)
    rw [List.filter_append, List.filter_append, hblock hfirst.perm, hblock hsecond.perm, hall, hsame]
    rfl

/-- Sorted by an attribute with numbers, documents come kind by kind: up, those with floating numbers
before those with whole ones, and down, the other way round. Each kind is in numeric order, and those
without a value come last. The whole is in numeric order just if the kinds do not overlap. -/
theorem numbers_are_sorted_kind_by_kind {direction : Value} (hdirection : directionOf? direction = some down)
    (hnumbers : HoldsNumbers attr docs) : ∃ first second,
      rank docs (.list [attr, direction]) = .ok (first ++ second ++ unvalued attr docs) ∧
      InNumericOrder attr down (docs.filter (comesFirst attr down)) first ∧
      InNumericOrder attr down (docs.filter (comesFirst attr !down)) second ∧
      (InNumericOrder attr down docs (first ++ second ++ unvalued attr docs) ↔
        KindsApart attr down docs) := by
  have hpresent : ∀ d ∈ docs.filter (fun d => !(valueAt attr d).isNull), IsNumber (valueAt attr d) := by
    intro d hd
    obtain ⟨hd, hsome⟩ := List.mem_filter.mp hd
    rcases (valueAt_cases hnumbers hd).2 with hnull | hnumber
    · rw [hnull] at hsome
      cases hsome
    · exact hnumber
  obtain ⟨sorted, hsorted, hform⟩ := byAttribute_spec (orders_of_places sortsBefore_numbers) down
    (fun d hd => (valueAt_cases hnumbers hd).1)
    (fun d hd hsome => hpresent d (List.mem_filter.mpr ⟨hd, by rw [hsome]; rfl⟩))
  have hplaced : Placed attr down (docs.filter fun d => !(valueAt attr d).isNull) sorted := hform
  have hparts := hplaced.eq_append hpresent
  have hkind (k : Bool) : (docs.filter fun d => !(valueAt attr d).isNull).filter (comesFirst attr k) =
      docs.filter (comesFirst attr k) := by
    rw [List.filter_filter]
    refine List.filter_congr fun d hd => ?_
    cases hk : comesFirst attr k d with
    | false => rfl
    | true =>
      rw [(isNumber_of_comesFirst hnumbers hd hk).isNull]
      rfl
  have hfirst := hplaced.kind hpresent down
  have hsecond := hplaced.kind hpresent (!down)
  rw [hkind] at hfirst hsecond
  have hrank : rank docs (.list [attr, direction]) = .ok (sorted ++ unvalued attr docs) := by
    unfold rank
    simp only [Value.isTrue, List.isEmpty_cons, Bool.not_false, Bool.not_true, Bool.false_eq_true,
      if_false, hdirection]
    exact hsorted
  have hperm : (sorted ++ unvalued attr docs).Perm docs :=
    (hform.perm.append_right _).trans (List.perm_append_comm.trans (List.filter_append_perm _ docs))
  rw [hparts] at hrank hperm
  exact ⟨_, _, hrank, hfirst, hsecond, InNumericOrder.kindsApart hnumbers hfirst hsecond,
    fun h => h.inNumericOrder hnumbers hfirst hsecond hperm⟩

/-- Documents with amounts of both kinds, and one without. -/
def amounts : List Fields :=
  [[("id", .int 1), ("v", .int 3)], [("id", .int 2), ("v", .float 2.5)], [("id", .int 3)],
    [("id", .int 4), ("v", .float 0.5)], [("id", .int 5), ("v", .int 3)]]

/-- A document with a floating number, and one with a whole number below it. -/
def heavierFirst : List Fields :=
  [[("id", .int 1), ("v", .float 2.5)], [("id", .int 2), ("v", .int 1)]]

theorem defined_two_and_a_half : Number.magnitude 2.5 ≠ .undefined := by decide +kernel

theorem amounts_hold_numbers : HoldsNumbers (.text "v") amounts := by
  intro d hd
  simp only [amounts, List.mem_cons, List.not_mem_nil, or_false] at hd
  rcases hd with rfl | rfl | rfl | rfl | rfl
  · exact .inr ⟨_, rfl, .whole 3⟩
  · exact .inr ⟨_, rfl, .floating defined_two_and_a_half⟩
  · exact .inl rfl
  · exact .inr ⟨.float 0.5, rfl, .floating (by decide +kernel)⟩
  · exact .inr ⟨_, rfl, .whole 3⟩

theorem amounts_are_sorted_kind_by_kind : directionOf? (.text "asc") = some false ∧
    HoldsNumbers (.text "v") amounts ∧ ∃ first second,
      rank amounts (.list [.text "v", .text "asc"]) =
        .ok (first ++ second ++ unvalued (.text "v") amounts) ∧
      InNumericOrder (.text "v") false (amounts.filter (comesFirst (.text "v") false)) first ∧
      InNumericOrder (.text "v") false (amounts.filter (comesFirst (.text "v") true)) second ∧
      (InNumericOrder (.text "v") false amounts (first ++ second ++ unvalued (.text "v") amounts) ↔
        KindsApart (.text "v") false amounts) :=
  ⟨rfl, amounts_hold_numbers, numbers_are_sorted_kind_by_kind rfl amounts_hold_numbers⟩

/-- A floating number is sorted before a whole one that is below it. -/
theorem heavier_document_comes_first : HoldsNumbers (.text "v") heavierFirst ∧
    ¬∃ out, rank heavierFirst (.list [.text "v", .text "asc"]) = .ok out ∧
      InNumericOrder (.text "v") false heavierFirst out := by
  constructor
  · intro d hd
    simp only [heavierFirst, List.mem_cons, List.not_mem_nil, or_false] at hd
    rcases hd with rfl | rfl
    · exact .inr ⟨_, rfl, .floating defined_two_and_a_half⟩
    · exact .inr ⟨_, rfl, .whole 1⟩
  · rintro ⟨out, hout, h⟩
    have hrank : rank heavierFirst (.list [.text "v", .text "asc"]) = .ok heavierFirst := rfl
    cases hrank.symm.trans hout
    have hordered := (List.pairwise_cons.mp h.ordered).1 _ List.mem_cons_self _ _ rfl rfl
    have hbefore : precedes false (Number.ofWhole 1) (Number.magnitude 2.5) = true := by decide +kernel
    cases hbefore.symm.trans hordered

end Collection

end Folio
