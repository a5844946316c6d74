-- The laws of rankings. A ranking loses no document and shows none twice, whatever it compares. Under
-- an attribute whose values have an order, documents come in their sorted form and those without a
-- value last. Where it compares texts and whole numbers under an attribute, the ranking of part of
-- the documents is that part of their ranking.
import Folio.Proofs.Keys

namespace Folio.Collection

variable {docs out : List Fields}

/-! ## No document is lost -/

theorem keyed_map_snd {attr : Value} {all : List (Value × Fields)}
    (h : keyed attr docs = .ok all) : all.map (·.2) = docs := by
  induction docs generalizing all with
  | nil =>
    cases h
    rfl
  | cons d rest ih =>
    unfold keyed at h
    cases hv : attributeOf d attr with
    | error e => simp [hv, bind, Except.bind] at h
    | ok v =>
      cases hr : keyed attr rest with
      | error e => simp [hv, hr, bind, Except.bind] at h
      | ok others =>
        simp only [hv, hr, bind, Except.bind, pure, Except.pure, Except.ok.injEq] at h
        rw [← h, List.map_cons, ih hr]

theorem scored_eq {ranking : Value} {all : List (Float × Fields)}
    (h : scored ranking docs = .ok all) :
    all.map (·.2) = docs ∧ ∀ e ∈ all, score e.2 ranking = .ok e.1 := by
  induction docs generalizing all with
  | nil =>
    cases h
    exact ⟨rfl, fun e he => by cases he⟩
  | cons d rest ih =>
    unfold scored at h
    cases hv : score d ranking with
    | error e => simp [hv, bind, Except.bind] at h
    | ok x =>
      cases hr : scored ranking rest with
      | error e => simp [hv, hr, bind, Except.bind] at h
      | ok others =>
        simp only [hv, hr, bind, Except.bind, pure, Except.pure, Except.ok.injEq] at h
        subst h
        obtain ⟨hmap, hscores⟩ := ih hr
        refine ⟨by rw [List.map_cons, hmap], ?_⟩
        intro e he
        rcases List.mem_cons.mp he with rfl | he
        · exact hv
        · exact hscores e he

/-- A document as it is shown under a ranking: with its distance, if the nearest are asked for. -/
def noted (ranking : Value) (doc : Fields) : Fields :=
  match ranking with
  | .list [_, .text "ANN", _] =>
    match score doc ranking with
    | .ok x => (noteDistance (x, doc)).2
    | .error _ => doc
  | _ => doc

theorem noted_get_id (ranking : Value) (doc : Fields) :
    (noted ranking doc).get "id" = doc.get "id" := by
  unfold noted
  split
  · split
    · unfold noteDistance Fields.get
      rw [Named.get?_put_of_ne _ _ (by decide)]
    · rfl
  · rfl

theorem rowKey_noted (ranking : Value) (doc : Fields) :
    rowKey (noted ranking doc) = rowKey doc := by
  unfold rowKey
  rw [noted_get_id]

theorem byKey_perm (h : byKey docs = .ok out) : out.Perm docs := by
  unfold byKey at h
  cases hk : keyed (.text "id") docs with
  | error e => simp [hk, bind, Except.bind] at h
  | ok all =>
    cases hs : sortBy keyBefore all with
    | error e => simp [hk, hs, bind, Except.bind] at h
    | ok sorted =>
      simp only [hk, hs, bind, Except.bind, pure, Except.pure, Except.ok.injEq] at h
      rw [← h, ← keyed_map_snd hk]
      exact (sortBy_perm hs).map _

theorem byAttribute_perm {attr : Value} {down : Bool} (h : byAttribute attr down docs = .ok out) :
    out.Perm docs := by
  unfold byAttribute at h
  cases hk : keyed attr docs with
  | error e => simp [hk, bind, Except.bind] at h
  | ok all =>
    simp only [hk, bind, Except.bind] at h
    have hsorted : ∀ sorted : List (Value × Fields),
        sorted.Perm (all.filter (!·.1.isNull)) →
        ((sorted ++ all.filter (·.1.isNull)).map (·.2)).Perm docs := by
      intro sorted hperm
      rw [← keyed_map_snd hk]
      refine List.Perm.map _ ((hperm.append_right _).trans ?_)
      exact List.perm_append_comm.trans (List.filter_append_perm (·.1.isNull) all)
    cases down with
    | true =>
      simp only [if_true] at h
      cases hs : sortDown keyBefore (all.filter (!·.1.isNull)) with
      | error e => simp [hs] at h
      | ok sorted =>
        simp only [hs, pure, Except.pure, Except.ok.injEq] at h
        exact h ▸ hsorted sorted (sortDown_perm hs)
    | false =>
      simp only [Bool.false_eq_true, if_false] at h
      cases hs : sortBy keyBefore (all.filter (!·.1.isNull)) with
      | error e => simp [hs] at h
      | ok sorted =>
        simp only [hs, pure, Except.pure, Except.ok.injEq] at h
        exact h ▸ hsorted sorted (sortBy_perm hs)

theorem byScore_perm {ranking : Value} {nearest : Bool}
    (h : byScore ranking nearest docs = .ok out) :
    ∃ all, scored ranking docs = .ok all ∧
      out.Perm ((if nearest then all.map noteDistance else all).map (·.2)) := by
  unfold byScore at h
  cases hk : scored ranking docs with
  | error e => simp [hk, bind, Except.bind] at h
  | ok all =>
    simp only [hk, bind, Except.bind] at h
    cases hs : sortDown scoreBefore (if nearest then all.map noteDistance else all) with
    | error e => simp [hs] at h
    | ok sorted =>
      simp only [hs, pure, Except.pure, Except.ok.injEq] at h
      subst h
      exact ⟨all, rfl, (sortDown_perm hs).map _⟩

theorem byScore_plain_perm {ranking : Value} (h : byScore ranking false docs = .ok out) :
    out.Perm docs := by
  obtain ⟨all, hall, hperm⟩ := byScore_perm h
  simpa [(scored_eq hall).1] using hperm

theorem noted_object (fields : Fields) (doc : Fields) : noted (.object fields) doc = doc := rfl

theorem noted_pair (first second : Value) (doc : Fields) :
    noted (.list [first, second]) doc = doc := by
  unfold noted
  split
  · rename_i h
    cases h
  · rfl

/-- Where no ranking is given or the ranking is no list of three with `ANN` in the middle, a document
is shown as it stands. -/
theorem noted_plain {ranking : Value} (h : ∀ attr reference, ranking ≠ .list [attr, .text "ANN", reference])
    (doc : Fields) : noted ranking doc = doc := by
  unfold noted
  split
  · exact absurd rfl (h _ _)
  · rfl

theorem perm_noted {ranking : Value} (hplain : ∀ doc, noted ranking doc = doc)
    (h : out.Perm docs) : out.Perm (docs.map (noted ranking)) := by
  rwa [funext hplain, List.map_id']

/-- A ranking gives every document once, as it is shown under it. -/
theorem rank_perm {ranking : Value} (h : rank docs ranking = .ok out) :
    out.Perm (docs.map (noted ranking)) := by
  unfold rank at h
  split at h
  · rename_i hfalse
    refine perm_noted (noted_plain ?_) (byKey_perm h)
    rintro attr reference rfl
    simp [Value.isTrue] at hfalse
  · split at h
    · refine perm_noted (noted_pair _ _) ?_
      split at h
      · exact byAttribute_perm h
      · exact byScore_plain_perm h
    · rename_i attr reference _
      obtain ⟨all, hall, hperm⟩ := byScore_perm h
      obtain ⟨hmap, hscores⟩ := scored_eq hall
      have hnoted : (all.map noteDistance).map (·.2) =
          docs.map (noted (.list [attr, .text "ANN", reference])) := by
        rw [← hmap, List.map_map, List.map_map]
        refine List.map_congr_left fun e he => ?_
        simp only [Function.comp, noted, hscores e he]
      rw [if_pos rfl, hnoted] at hperm
      exact hperm
    · rename_i hnearest _
      refine perm_noted (noted_plain ?_) (byScore_plain_perm h)
      rintro attr reference hlist
      cases hlist
      exact hnearest _ _ rfl
    · exact perm_noted (fun _ => rfl) (byScore_plain_perm h)
    · refine perm_noted (noted_object _) ?_
      split at h
      · cases h
      · cases hs : byScore (.object _) false docs with
        | error e => rw [hs] at h; cases h
        | ok sorted =>
          rw [hs] at h
          split at h
          · cases h
          · cases h
            exact byScore_plain_perm hs
    · cases h

/-! ## Sorting by an attribute -/

theorem keyed_of_values {attr : Value} {value : Fields → Value}
    (h : ∀ d ∈ docs, attributeOf d attr = .ok (value d)) :
    keyed attr docs = .ok (docs.map fun d => (value d, d)) := by
  induction docs with
  | nil => rfl
  | cons d rest ih =>
    unfold keyed
    rw [h d List.mem_cons_self, ih fun e he => h e (List.mem_cons_of_mem d he)]
    rfl

/-- Documents are sorted by their values under the attribute, and those without a value come last. -/
theorem byAttribute_spec {attr : Value} {value : Fields → Value} {P : Value → Prop} {lt : Value → Value → Bool}
    (o : Orders P sortsBefore lt) (down : Bool) (hvalue : ∀ d ∈ docs, attributeOf d attr = .ok (value d))
    (hP : ∀ d ∈ docs, (value d).isNull = false → P (value d)) :
    ∃ sorted, byAttribute attr down docs = .ok (sorted ++ docs.filter fun d => (value d).isNull) ∧
      SortedForm (fun d => P (value d))
        (fun d e => if down then lt (value e) (value d) else lt (value d) (value e))
        (docs.filter fun d => !(value d).isNull) sorted := by
  have ho : Orders (fun e => P e.1) keyBefore fun a b : Value × Fields => lt a.1 b.1 :=
    ⟨fun ha hb => o.answers ha hb, fun ha hb => o.asymm ha hb, fun ha hb hc => o.through ha hb hc⟩
  have hitems : (docs.map fun d => (value d, d)).filter (!·.1.isNull) =
      (docs.filter fun d => !(value d).isNull).map fun d => (value d, d) := List.filter_map
  have habsent : (docs.map fun d => (value d, d)).filter (·.1.isNull) =
      (docs.filter fun d => (value d).isNull).map fun d => (value d, d) := List.filter_map
  generalize hpresent : (docs.filter fun d => !(value d).isNull) = present at hitems
  have hkeys : ∀ e ∈ present.map fun d => (value d, d), P e.1 := by
    intro e he
    obtain ⟨d, hd, rfl⟩ := List.mem_map.mp he
    rw [← hpresent] at hd
    obtain ⟨hd, hnull⟩ := List.mem_filter.mp hd
    exact hP d hd (by simpa using hnull)
  obtain ⟨sorted, hsorted, hform⟩ := sorted_spec ho down hkeys
  -- Every entry that is sorted is a document with its value.
  obtain ⟨out, rfl⟩ : ∃ out : List Fields, sorted = out.map fun d => (value d, d) := by
    refine ⟨sorted.map (·.2), ?_⟩
    rw [List.map_map]
    refine (List.map_id sorted).symm.trans (List.map_congr_left fun e he => ?_)
    obtain ⟨d, -, rfl⟩ := List.mem_map.mp (hform.perm.mem_iff.mp he)
    rfl
  have hback (l : List Fields) : (l.map fun d => (value d, d)).map (·.2) = l := by
    rw [List.map_map]
    exact List.map_id l
  refine ⟨out, ?_, ?_, ?_, ?_⟩
  · unfold byAttribute
    rw [keyed_of_values hvalue]
    simp only [bind, Except.bind, hitems, habsent, List.map_append, hback, pure, Except.pure]
    cases down with
    | true =>
      simp only [if_true] at hsorted ⊢
      rw [hsorted]
      exact congrArg (fun l => Except.ok (l ++ _)) (hback out)
    | false =>
      simp only [Bool.false_eq_true, if_false] at hsorted ⊢
      rw [hsorted]
      exact congrArg (fun l => Except.ok (l ++ _)) (hback out)
  · have hperm := hform.perm.map (·.2)
    rwa [hback, hback] at hperm
  · exact List.pairwise_map.mp hform.ordered
  · intro c hc
    have hties := hform.ties (value c, c) hc
    rw [List.filter_map, List.filter_map] at hties
    have hdocs := congrArg (List.map (·.2)) hties
    rw [hback, hback] at hdocs
    exact hdocs

/-! ## Part of a ranking -/

/-- An attribute whose values are missing, texts or whole numbers. -/
def SortsBy (attr : Value) (docs : List Fields) : Prop :=
  ∀ d ∈ docs, attributeOf d attr = .ok .null ∨ ∃ key : RowKey, attributeOf d attr = .ok key.toValue

theorem keyed_filter {attr : Value} {all : List (Value × Fields)} (h : keyed attr docs = .ok all)
    (p : Fields → Bool) : keyed attr (docs.filter p) = .ok (all.filter (fun e => p e.2)) := by
  induction docs generalizing all with
  | nil =>
    cases h
    rfl
  | cons d rest ih =>
    unfold keyed at h
    cases hv : attributeOf d attr with
    | error e => simp [hv, bind, Except.bind] at h
    | ok v =>
      cases hr : keyed attr rest with
      | error e => simp [hv, hr, bind, Except.bind] at h
      | ok others =>
        simp only [hv, hr, bind, Except.bind, pure, Except.pure, Except.ok.injEq] at h
        subst h
        cases hp : p d with
        | false =>
          rw [List.filter_cons_of_neg (by simp [hp]), List.filter_cons_of_neg (by simp [hp])]
          exact ih hr
        | true =>
          rw [List.filter_cons_of_pos hp, List.filter_cons_of_pos (by simpa using hp)]
          unfold keyed
          simp only [hv, ih hr, bind, Except.bind, pure, Except.pure]

theorem keyed_values {attr : Value} {all : List (Value × Fields)} (h : keyed attr docs = .ok all) :
    ∀ e ∈ all, e.2 ∈ docs ∧ attributeOf e.2 attr = .ok e.1 := by
  induction docs generalizing all with
  | nil =>
    cases h
    intro e he
    cases he
  | cons d rest ih =>
    unfold keyed at h
    cases hv : attributeOf d attr with
    | error e => simp [hv, bind, Except.bind] at h
    | ok v =>
      cases hr : keyed attr rest with
      | error e => simp [hv, hr, bind, Except.bind] at h
      | ok others =>
        simp only [hv, hr, bind, Except.bind, pure, Except.pure, Except.ok.injEq] at h
        subst h
        intro e he
        rcases List.mem_cons.mp he with rfl | he
        · exact ⟨List.mem_cons_self, hv⟩
        · exact ⟨List.mem_cons_of_mem d (ih hr e he).1, (ih hr e he).2⟩

/-- Sorted by texts or whole numbers, part of the documents come as they come among all. -/
theorem byAttribute_filter {attr : Value} {down : Bool} (hvalues : SortsBy attr docs)
    (h : byAttribute attr down docs = .ok out) (p : Fields → Bool) :
    byAttribute attr down (docs.filter p) = .ok (out.filter p) := by
  unfold byAttribute at h
  cases hk : keyed attr docs with
  | error e => simp [hk, bind, Except.bind] at h
  | ok all =>
    simp only [hk, bind, Except.bind] at h
    have hpresent : ∀ e ∈ all.filter (!·.1.isNull), ∃ key : RowKey, e.1 = key.toValue := by
      intro e he
      obtain ⟨hmem, hsome⟩ := List.mem_filter.mp he
      obtain ⟨hdoc, hvalue⟩ := keyed_values hk e hmem
      rcases hvalues e.2 hdoc with hnull | ⟨key, hkey⟩
      · rw [Except.ok.inj (hvalue.symm.trans hnull)] at hsome
        cases hsome
      · exact ⟨key, Except.ok.inj (hvalue.symm.trans hkey)⟩
    have hswap : ∀ keep : Value × Fields → Bool, (all.filter (fun e => p e.2)).filter keep =
        (all.filter keep).filter (fun e => p e.2) := by
      intro keep
      rw [List.filter_filter, List.filter_filter]
      exact List.filter_congr fun e _ => Bool.and_comm _ _
    have hmap : ∀ sorted : List (Value × Fields),
        ((sorted ++ all.filter (·.1.isNull)).map (·.2)).filter p =
          (sorted.filter (fun e => p e.2) ++
            (all.filter (·.1.isNull)).filter (fun e => p e.2)).map (·.2) := by
      intro sorted
      rw [List.filter_map, List.filter_append]
      rfl
    unfold byAttribute
    simp only [keyed_filter hk p, bind, Except.bind, hswap]
    cases down with
    | true =>
      simp only [if_true] at h ⊢
      cases hs : sortDown keyBefore (all.filter (!·.1.isNull)) with
      | error e => simp [hs] at h
      | ok sorted =>
        simp only [hs, pure, Except.pure, Except.ok.injEq] at h
        rw [sortDown_filter orders_keyBefore hpresent hs, ← h, hmap]
        rfl
    | false =>
      simp only [Bool.false_eq_true, if_false] at h ⊢
      cases hs : sortBy keyBefore (all.filter (!·.1.isNull)) with
      | error e => simp [hs] at h
      | ok sorted =>
        simp only [hs, pure, Except.pure, Except.ok.injEq] at h
        rw [sortBy_filter orders_keyBefore hpresent hs, ← h, hmap]
        rfl

end Folio.Collection
