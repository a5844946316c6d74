-- The laws of keys. Among documents whose keys are of one kind, the order by which a collection
-- ranks keys is the order by which a page is entered behind a key. So what stands behind the last
-- document of a page is what has not been shown yet.
import Folio.Backend.DocumentStore
import Folio.Proofs.Sorting
import Mathlib.Data.String.Basic

namespace Folio

/-! ## The order of keys -/

namespace RowKey

/-- The order of keys; numbers come before texts. -/
def before : RowKey → RowKey → Bool
  | int m, int n => decide (m < n)
  | text s, text t => decide (s < t)
  | int _, text _ => true
  | text _, int _ => false

/-- Whether two keys are both texts or both numbers. -/
def sameKind : RowKey → RowKey → Prop
  | int _, int _ | text _, text _ => True
  | _, _ => False

theorem before_irrefl (a : RowKey) : a.before a = false := by
  cases a <;> simp [before]

theorem before_asymm {a b : RowKey} (h : a.before b = true) : b.before a = false := by
  cases a with
  | text s =>
    cases b with
    | text t => exact decide_eq_false (lt_asymm (of_decide_eq_true h))
    | int n => cases h
  | int m =>
    cases b with
    | text t => rfl
    | int n => exact decide_eq_false (lt_asymm (of_decide_eq_true h))

/-- What is not before something between is not before what follows. -/
theorem not_before_trans {a b c : RowKey} (hab : a.before b = false) (hbc : b.before c = false) :
    a.before c = false := by
  cases a with
  | text s =>
    cases c with
    | int n => rfl
    | text u =>
      cases b with
      | int n => cases hbc
      | text t =>
        have hst := not_lt.mp (of_decide_eq_false hab)
        have htu := not_lt.mp (of_decide_eq_false hbc)
        exact decide_eq_false (not_lt.mpr (htu.trans hst))
  | int l =>
    cases b with
    | text t => cases hab
    | int m =>
      cases c with
      | text u => cases hbc
      | int n =>
        have hlm := not_lt.mp (of_decide_eq_false hab)
        have hmn := not_lt.mp (of_decide_eq_false hbc)
        exact decide_eq_false (not_lt.mpr (hmn.trans hlm))

theorem before_total {a b : RowKey} (h : a ≠ b) : a.before b = true ∨ b.before a = true := by
  cases a with
  | text s =>
    cases b with
    | text t =>
      have hne : s ≠ t := fun heq => h (congrArg text heq)
      exact hne.lt_or_gt.imp decide_eq_true decide_eq_true
    | int n => exact Or.inr rfl
  | int m =>
    cases b with
    | text t => exact Or.inl rfl
    | int n =>
      have hne : m ≠ n := fun heq => h (congrArg int heq)
      exact hne.lt_or_gt.imp decide_eq_true decide_eq_true

theorem before_trans {a b c : RowKey} (hab : a.before b = true) (hbc : b.before c = true) :
    a.before c = true := by
  cases hac : a.before c with
  | true => rfl
  | false =>
    have hno := not_before_trans hac (before_asymm hbc)
    rw [hab] at hno
    exact hno.symm

/-- The key that a value stands for, if it stands for one. -/
def ofValue : Value → RowKey
  | .text s => .text s
  | .int n => .int n
  | _ => .int 0

@[simp] theorem ofValue_toValue (a : RowKey) : ofValue a.toValue = a := by
  cases a <;> rfl

theorem toValue_isNull (a : RowKey) : a.toValue.isNull = false := by
  cases a <;> rfl

theorem read_toValue (a : RowKey) : Reader.nullable RowKey.read a.toValue = .sound (some a) := by
  cases a <;> rfl

end RowKey

namespace Collection

theorem less_ofWhole (m n : Int) :
    (Number.ofWhole m).less (Number.ofWhole n) = decide (m < n) := by
  simp only [Number.ofWhole, Number.Magnitude.less, Rat.intCast_lt_intCast]

theorem same_ofWhole (m n : Int) : (Number.ofWhole m).same (Number.ofWhole n) = decide (m = n) := by
  simp only [Number.ofWhole, Number.Magnitude.same, beq_eq_decide, Rat.intCast_inj]

theorem Value.same_text (s t : String) : (Value.text s).same (.text t) = decide (s = t) := by
  simp only [Value.same, Scalar.same, beq_eq_decide]

theorem Value.same_int (m n : Int) : (Value.int m).same (.int n) = decide (m = n) := by
  simp only [Value.same, Scalar.same, Scalar.magnitude?, same_ofWhole]

theorem Value.compare_text (r : Relation) (s t : String) :
    (Value.text s).compare r (.text t) = .ok (r.ofTexts s t) := by
  simp only [Value.compare, Scalar.compare]

theorem Value.compare_int (r : Relation) (m n : Int) :
    (Value.int m).compare r (.int n) =
      .ok (r.ofMagnitudes (Number.ofWhole m) (Number.ofWhole n)) := by
  simp only [Value.compare, Scalar.compare, Scalar.magnitude?]

/-- Keys are ranked in their order. -/
theorem sortsBefore_toValue (a b : RowKey) :
    sortsBefore a.toValue b.toValue = .ok (a.before b) := by
  cases a with
  | text s =>
    cases b with
    | text t =>
      simp only [RowKey.toValue, sortsBefore, Value.kindName, Scalar.kindName, bne_self_eq_false,
        Bool.false_eq_true, if_false, Value.same_text, Value.compare_text]
      split
      · rename_i h
        exact congrArg Except.ok (decide_eq_false (of_decide_eq_true h ▸ lt_irrefl s)).symm
      · rfl
    | int n =>
      have hkinds : ("str" != "int") = true := by decide
      have hno : decide ("str" < "int") = false := by decide
      simp only [RowKey.toValue, sortsBefore, Value.kindName, Scalar.kindName, hkinds, if_true]
      exact congrArg Except.ok hno
  | int m =>
    cases b with
    | text t =>
      have hkinds : ("int" != "str") = true := by decide
      have hyes : decide ("int" < "str") = true := by decide
      simp only [RowKey.toValue, sortsBefore, Value.kindName, Scalar.kindName, hkinds, if_true]
      exact congrArg Except.ok hyes
    | int n =>
      simp only [RowKey.toValue, sortsBefore, Value.kindName, Scalar.kindName, bne_self_eq_false,
        Bool.false_eq_true, if_false, Value.same_int, Value.compare_int]
      split
      · rename_i h
        exact congrArg Except.ok (decide_eq_false (of_decide_eq_true h ▸ lt_irrefl m)).symm
      · simp only [Relation.ofMagnitudes, less_ofWhole, RowKey.before]

/-- A key is behind another of its kind when that is before it. -/
theorem stands_more_toValue {a b : RowKey} (h : a.sameKind b) :
    stands a.toValue .more b.toValue = b.before a := by
  cases a with
  | text s =>
    cases b with
    | text t => simp only [stands, RowKey.toValue, Value.compare_text, Relation.ofTexts,
        RowKey.before]
    | int n => cases h
  | int m =>
    cases b with
    | text t => cases h
    | int n => simp only [stands, RowKey.toValue, Value.compare_int, Relation.ofMagnitudes,
        less_ofWhole, RowKey.before]

/-! ## Documents with keys -/

/-- The key of a document that has one. -/
def rowKey (doc : Fields) : RowKey := .ofValue (doc.get "id")

/-- Documents whose keys are all texts or all whole numbers, no two of them the same. -/
structure Keyed (docs : List Fields) : Prop where
  one_kind : (∀ d ∈ docs, ∃ s, d.get "id" = .text s) ∨ ∀ d ∈ docs, ∃ n, d.get "id" = .int n
  distinct : docs.Pairwise (fun a b => a.get "id" ≠ b.get "id")

/-- Documents in the order of their keys. -/
def Ascending (docs : List Fields) : Prop :=
  docs.Pairwise (fun a b => (rowKey a).before (rowKey b) = true)

/-- The documents behind a key. -/
def behind (key : RowKey) (docs : List Fields) : List Fields :=
  docs.filter (fun d => key.before (rowKey d))

/-- A key of the kind that the keys of the documents have. -/
def OfKind (key : RowKey) (docs : List Fields) : Prop := ∀ d ∈ docs, (rowKey d).sameKind key

variable {docs M : List Fields}

theorem Keyed.get_id (h : Keyed docs) {d : Fields} (hd : d ∈ docs) :
    d.get "id" = (rowKey d).toValue := by
  rcases h.one_kind with hall | hall
  · obtain ⟨s, hs⟩ := hall d hd
    simp [rowKey, hs, RowKey.ofValue, RowKey.toValue]
  · obtain ⟨n, hn⟩ := hall d hd
    simp [rowKey, hn, RowKey.ofValue, RowKey.toValue]

theorem Keyed.ofKind (h : Keyed docs) {d : Fields} (hd : d ∈ docs) : OfKind (rowKey d) docs := by
  intro e he
  rcases h.one_kind with hall | hall
  · obtain ⟨s, hs⟩ := hall d hd
    obtain ⟨t, ht⟩ := hall e he
    simp [rowKey, hs, ht, RowKey.ofValue, RowKey.sameKind]
  · obtain ⟨m, hm⟩ := hall d hd
    obtain ⟨n, hn⟩ := hall e he
    simp [rowKey, hm, hn, RowKey.ofValue, RowKey.sameKind]

theorem Keyed.sublist (h : Keyed docs) (hs : M.Sublist docs) : Keyed M where
  one_kind := h.one_kind.imp (fun hall d hd => hall d (hs.subset hd))
    (fun hall d hd => hall d (hs.subset hd))
  distinct := h.distinct.sublist hs

theorem Keyed.perm (h : Keyed docs) (hp : M.Perm docs) : Keyed M where
  one_kind := h.one_kind.imp (fun hall d hd => hall d (hp.mem_iff.mp hd))
    (fun hall d hd => hall d (hp.mem_iff.mp hd))
  distinct := (List.Perm.pairwise_iff (fun hne heq => hne heq.symm) hp).mpr h.distinct

/-- Two documents are never under one key. -/
theorem Keyed.rowKey_ne (h : Keyed docs) :
    docs.Pairwise (fun a b => rowKey a ≠ rowKey b) := by
  refine List.Pairwise.imp_of_mem ?_ h.distinct
  intro a b ha hb hne heq
  exact hne (by rw [h.get_id ha, h.get_id hb, heq])

theorem Ascending.sublist (h : Ascending docs) (hs : M.Sublist docs) : Ascending M :=
  List.Pairwise.sublist hs h

theorem ascending_behind (h : Ascending docs) (key : RowKey) : Ascending (behind key docs) :=
  h.sublist List.filter_sublist

/-- Behind a later key stands a part of what stands behind an earlier one. -/
theorem behind_behind {a b : RowKey} (h : a.before b = true) (docs : List Fields) :
    behind b (behind a docs) = behind b docs := by
  unfold behind
  rw [List.filter_filter]
  refine List.filter_congr fun e _ => ?_
  cases hb : b.before (rowKey e) with
  | false => rfl
  | true => rw [RowKey.before_trans h hb, Bool.true_and]

/-- A document that is not behind a key is one less there. -/
theorem length_behind_lt {key : RowKey} {d : Fields} (hd : d ∈ docs)
    (h : key.before (rowKey d) = false) : (behind key docs).length < docs.length :=
  List.length_filter_lt_length_iff_exists.mpr ⟨d, hd, by simp [h]⟩

/-- There is one way to put documents in the order of their keys. -/
theorem Ascending.unique (hd : Ascending docs) (hm : Ascending M) (hp : docs.Perm M) :
    docs = M := by
  refine List.Perm.eq_of_pairwise ?_ hd hm hp
  intro a b _ _ hab hba
  rw [RowKey.before_asymm hab] at hba
  cases hba

/-- Behind a document of a list in order stands what follows it there. -/
theorem Ascending.behind_of_split {front rest : List Fields} {d : Fields}
    (h : Ascending (front ++ d :: rest)) : behind (rowKey d) (front ++ d :: rest) = rest := by
  have hparts := List.pairwise_append.mp h
  have hrest := List.pairwise_cons.mp hparts.2.1
  unfold behind
  rw [List.filter_append, List.filter_cons_of_neg (by simp [RowKey.before_irrefl])]
  have hfront : front.filter (fun e => (rowKey d).before (rowKey e)) = [] := by
    rw [List.filter_eq_nil_iff]
    intro e he
    rw [RowKey.before_asymm (hparts.2.2 e he d List.mem_cons_self)]
    simp
  rw [hfront, List.nil_append, List.filter_eq_self]
  exact fun e he => hrest.1 e he

/-! ## The ranking by keys -/

/-- The ranking by ascending keys. -/
def keyOrder : Value := .list [.text "id", .text "asc"]

theorem keyed_eq (docs : List Fields) :
    keyed (.text "id") docs = .ok (docs.map (fun d => (d.get "id", d))) := by
  induction docs with
  | nil => rfl
  | cons d rest ih =>
    unfold keyed
    simp only [attributeOf, ih, bind, Except.bind, pure, Except.pure, List.map_cons]

/-- Documents beside values that are texts or whole numbers are put in order by these. -/
theorem orders_keyBefore :
    Orders (fun p : Value × Fields => ∃ key : RowKey, p.1 = key.toValue) keyBefore
      (fun p q => (RowKey.ofValue p.1).before (.ofValue q.1)) where
  answers := by
    rintro p q ⟨a, ha⟩ ⟨b, hb⟩
    rw [keyBefore, ha, hb, sortsBefore_toValue, RowKey.ofValue_toValue, RowKey.ofValue_toValue]
  asymm := fun _ _ h => RowKey.before_asymm h
  through := fun _ _ _ hab hbc => RowKey.not_before_trans hab hbc

/-- Ranked by keys, documents come in the order of their keys. -/
theorem rank_keyOrder (h : Keyed docs) (hp : M.Perm docs) (hm : Ascending M) :
    rank docs keyOrder = .ok M := by
  have hmem : ∀ p ∈ docs.map (fun d => (d.get "id", d)), p.1 = (rowKey p.2).toValue := by
    intro p hin
    obtain ⟨d, hd, rfl⟩ := List.mem_map.mp hin
    exact h.get_id hd
  have hpresent : (docs.map (fun d => (d.get "id", d))).filter (fun p => !p.1.isNull) =
      docs.map (fun d => (d.get "id", d)) := by
    rw [List.filter_eq_self]
    intro p hin
    simp [hmem p hin, RowKey.toValue_isNull]
  have habsent : (docs.map (fun d => (d.get "id", d))).filter (fun p => p.1.isNull) = [] := by
    rw [List.filter_eq_nil_iff]
    intro p hin
    simp [hmem p hin, RowKey.toValue_isNull]
  obtain ⟨sorted, hsorted, hform⟩ := sortBy_spec orders_keyBefore fun p hp => ⟨_, hmem p hp⟩
  have hback : (sorted.map (·.2)).Perm docs := by
    have := hform.perm.map (·.2)
    rwa [List.map_map, show ((·.2) ∘ fun d : Fields => (d.get "id", d)) = id from rfl,
      List.map_id] at this
  have hasc : Ascending (sorted.map (·.2)) := by
    unfold Ascending
    have hne := (h.perm hback).rowKey_ne
    rw [List.pairwise_map] at hne ⊢
    refine List.Pairwise.imp_of_mem ?_ (hform.ordered.and hne)
    rintro p q hp hq ⟨hno, hne⟩
    rw [hmem p (hform.perm.mem_iff.mp hp), hmem q (hform.perm.mem_iff.mp hq),
      RowKey.ofValue_toValue, RowKey.ofValue_toValue] at hno
    exact (RowKey.before_total hne).resolve_right (by simp [hno])
  have hsame : sorted.map (·.2) = M := hasc.unique hm (hback.trans hp.symm)
  unfold rank keyOrder
  simp only [Value.isTrue, List.isEmpty_cons, Bool.not_false, Bool.not_true, Bool.false_eq_true,
    if_false, directionOf?, byAttribute, keyed_eq, hpresent, habsent, hsorted, bind, Except.bind,
    pure, Except.pure, List.append_nil, hsame]

/-! ## Selected documents -/

section

variable {filter : Value} {docs matching : List Fields}

/-- Whether a filter lets a document through; where it has no answer it does not. -/
def admits (filter : Value) (doc : Fields) : Bool :=
  match passes doc filter with
  | .ok b => b
  | .error _ => false

/-- Where there is an answer for every document, the documents with the answer yes are selected. -/
theorem select_eq_filter {holds : Fields → Bool}
    (h : ∀ d ∈ docs, passes d filter = .ok (holds d)) :
    select filter docs = .ok (docs.filter holds) := by
  induction docs with
  | nil => rfl
  | cons d rest ih =>
    obtain ⟨hd, hrest⟩ := List.forall_mem_cons.mp h
    unfold select
    rw [hd, ih hrest]
    cases hkept : holds d with
    | true =>
      rw [List.filter_cons_of_pos hkept]
      rfl
    | false =>
      rw [List.filter_cons_of_neg (by simp [hkept])]
      rfl

theorem select_null (docs : List Fields) : select .null docs = .ok docs := by
  have hall : ∀ d ∈ docs, passes d .null = .ok true := fun d _ => by simp [passes]
  rw [select_eq_filter hall, List.filter_true]

/-- Where documents are selected there was an answer for every one. -/
theorem passes_of_select (h : select filter docs = .ok matching) :
    ∀ d ∈ docs, passes d filter = .ok (admits filter d) := by
  induction docs generalizing matching with
  | nil => exact fun d hd => absurd hd List.not_mem_nil
  | cons d rest ih =>
    unfold select at h
    cases hp : passes d filter with
    | error e =>
      rw [hp] at h
      cases h
    | ok kept =>
      cases hs : select filter rest with
      | error e =>
        rw [hp, hs] at h
        cases h
      | ok others =>
        refine List.forall_mem_cons.mpr ⟨?_, ih hs⟩
        unfold admits
        rw [hp]

theorem eq_filter_of_select (h : select filter docs = .ok matching) :
    matching = docs.filter (admits filter) :=
  Except.ok.inj (h.symm.trans (select_eq_filter (passes_of_select h)))

/-- What is selected are some of the documents, in their order. -/
theorem select_sublist (h : select filter docs = .ok matching) : matching.Sublist docs :=
  eq_filter_of_select h ▸ List.filter_sublist

end

/-! ## Entering a page behind a key -/

theorem passes_test (d : Fields) (name token : String) (reference : Value) :
    passes d (Query.test name token reference) = testValue (d.get name) token reference := by
  simp [Query.test, passes, passesParts, passesTest, attributeOf, bind, Except.bind]

theorem passes_boundary {d : Fields} {key : RowKey} (hid : d.get "id" = (rowKey d).toValue)
    (hk : (rowKey d).sameKind key) :
    passes d (Query.test "id" "Gt" key.toValue) = .ok (key.before (rowKey d)) := by
  have htest : testValue (d.get "id") "Gt" key.toValue =
    .ok (!(d.get "id").isNull && stands (d.get "id") .more key.toValue) := rfl
  rw [passes_test, htest, hid, RowKey.toValue_isNull, stands_more_toValue hk]
  rfl

theorem passes_conjunction_eq (doc : Fields) (filters : List Value) :
    passes doc (Query.conjunction filters) = passesAll doc filters := by
  simp [Query.conjunction, passes]

theorem passes_conjunction {d : Fields} {first second : Value} {one two : Bool}
    (h1 : passes d first = .ok one) (h2 : passes d second = .ok two) :
    passes d (Query.conjunction [first, second]) = .ok (one && two) := by
  rw [passes_conjunction_eq]
  simp only [passesAll, h1, h2, bind, Except.bind, pure, Except.pure]
  cases one <;> cases two <;> rfl

theorem passes_withCursor {d : Fields} {filter : Value} {key : RowKey} {kept : Bool}
    (hf : passes d filter = .ok kept) (hid : d.get "id" = (rowKey d).toValue)
    (hk : (rowKey d).sameKind key) :
    passes d (Query.withCursor filter (some key)) = .ok (kept && key.before (rowKey d)) := by
  have hb := passes_boundary hid hk
  cases filter with
  | null =>
    simp only [passes, Except.ok.injEq] at hf
    subst hf
    exact hb
  | _ => exact passes_conjunction hf hb

/-- Of the documents that pass, those behind the key are selected. -/
theorem select_withCursor {docs matching : List Fields} {filter : Value} {key : RowKey}
    (h : select filter docs = .ok matching)
    (hid : ∀ d ∈ docs, d.get "id" = (rowKey d).toValue) (hk : OfKind key docs) :
    select (Query.withCursor filter (some key)) docs = .ok (behind key matching) := by
  have hpasses : ∀ d ∈ docs, passes d (Query.withCursor filter (some key)) =
      .ok (admits filter d && key.before (rowKey d)) := fun d hd =>
    passes_withCursor (passes_of_select h d hd) (hid d hd) (hk d hd)
  rw [select_eq_filter hpasses, eq_filter_of_select h]
  unfold behind
  rw [List.filter_filter]
  exact congrArg Except.ok (List.filter_congr fun d _ => Bool.and_comm _ _)

end Collection

end Folio
