-- The laws of sorting. The sort keeps every item, and where the comparison is an order with ties
-- it gives the one list that is in order and keeps the items of each tie as they came. So to sort
-- part of the items is to take that part of the sorted ones.
import Folio.Collection.Sort

namespace Folio.Collection

variable {α ε : Type} {less : α → α → Except ε Bool}

/-! ## No item is lost -/

theorem takeRun_append {descending : Bool} {previous : α} {items run after : List α}
    (h : takeRun less descending previous items = .ok (run, after)) : run ++ after = items := by
  induction items generalizing previous run with
  | nil =>
    cases h
    rfl
  | cons a rest ih =>
    unfold takeRun at h
    cases hl : less a previous with
    | error e => simp [hl, bind, Except.bind] at h
    | ok before =>
      simp only [hl, bind, Except.bind] at h
      split at h
      · cases hr : takeRun less descending a rest with
        | error e => simp [hr] at h
        | ok parts =>
          obtain ⟨run', after'⟩ := parts
          simp only [hr, pure, Except.pure, Except.ok.injEq, Prod.mk.injEq] at h
          obtain ⟨rfl, rfl⟩ := h
          rw [List.cons_append, ih hr]
      · simp only [pure, Except.pure, Except.ok.injEq, Prod.mk.injEq] at h
        obtain ⟨rfl, rfl⟩ := h
        rfl

theorem firstRun_perm {items run after : List α} (h : firstRun less items = .ok (run, after)) :
    (run ++ after).Perm items := by
  rcases items with _ | ⟨a, _ | ⟨b, rest⟩⟩
  · cases h
    exact .refl _
  · cases h
    exact .refl _
  · unfold firstRun at h
    cases hl : less b a with
    | error e => simp [hl, bind, Except.bind] at h
    | ok descending =>
      simp only [hl, bind, Except.bind] at h
      cases hr : takeRun less descending b rest with
      | error e => simp [hr] at h
      | ok parts =>
        obtain ⟨run', after'⟩ := parts
        simp only [hr, pure, Except.pure, Except.ok.injEq, Prod.mk.injEq] at h
        obtain ⟨rfl, rfl⟩ := h
        rw [← takeRun_append hr]
        split
        · exact (List.reverse_perm (a :: b :: run')).append_right after'
        · exact .refl _

theorem insertSorted_perm {sorted out : List α} {a : α}
    (h : insertSorted less sorted a = .ok out) : out.Perm (a :: sorted) := by
  unfold insertSorted at h
  cases hp : insertionPoint less sorted.toArray a 0 sorted.length with
  | error e => simp [hp, bind, Except.bind] at h
  | ok place =>
    simp only [hp, bind, Except.bind, pure, Except.pure, Except.ok.injEq] at h
    rw [← h]
    have hmid : (sorted.take place ++ a :: sorted.drop place).Perm
      (a :: (sorted.take place ++ sorted.drop place)) := List.perm_middle
    rwa [List.take_append_drop] at hmid

theorem foldlM_insertSorted_perm {items run out : List α}
    (h : items.foldlM (insertSorted less) run = .ok out) : out.Perm (run ++ items) := by
  induction items generalizing run with
  | nil =>
    cases h
    rw [List.append_nil]
  | cons a rest ih =>
    rw [List.foldlM_cons] at h
    cases hi : insertSorted less run a with
    | error e => simp [hi, bind, Except.bind] at h
    | ok next =>
      simp only [hi, bind, Except.bind] at h
      exact ((ih h).trans ((insertSorted_perm hi).append_right rest)).trans
        List.perm_middle.symm

/-- Sorting keeps every item, whatever the comparison says. -/
theorem sortBy_perm {items out : List α} (h : sortBy less items = .ok out) : out.Perm items := by
  unfold sortBy at h
  cases hf : firstRun less items with
  | error e => simp [hf, bind, Except.bind] at h
  | ok parts =>
    obtain ⟨run, after⟩ := parts
    simp only [hf, bind, Except.bind] at h
    exact (foldlM_insertSorted_perm h).trans (firstRun_perm hf)

theorem sortDown_perm {items out : List α} (h : sortDown less items = .ok out) :
    out.Perm items := by
  unfold sortDown at h
  cases hs : sortBy less items.reverse with
  | error e => simp [hs, Except.map] at h
  | ok sorted =>
    simp only [hs, Except.map, Except.ok.injEq] at h
    subst h
    exact (List.reverse_perm sorted).trans ((sortBy_perm hs).trans (List.reverse_perm items))

/-! ## Orders with ties -/

/-- A comparison that never fails among some items, and that says which of them come before which:
what is before is not behind, and what is not before something between is not before what
follows. -/
structure Orders (P : α → Prop) (less : α → α → Except ε Bool) (lt : α → α → Bool) : Prop where
  answers : ∀ {a b}, P a → P b → less a b = .ok (lt a b)
  asymm : ∀ {a b}, P a → P b → lt a b = true → lt b a = false
  through : ∀ {a b c}, P a → P b → P c → lt a b = false → lt b c = false → lt a c = false

/-- Items of which neither comes before the other. -/
def tied (lt : α → α → Bool) (a b : α) : Bool := !lt a b && !lt b a

/-- The sorted form of some items: in order, and the items of each tie as they came. -/
structure SortedForm (P : α → Prop) (lt : α → α → Bool) (items sorted : List α) : Prop where
  perm : sorted.Perm items
  ordered : sorted.Pairwise (fun a b => lt b a = false)
  ties : ∀ c, P c → sorted.filter (tied lt c) = items.filter (tied lt c)

section

variable {P : α → Prop} {lt : α → α → Bool}

theorem Orders.irrefl (o : Orders P less lt) {a : α} (ha : P a) : lt a a = false := by
  cases h : lt a a with
  | false => rfl
  | true => exact (o.asymm ha ha h).symm.trans h |>.symm

theorem Orders.trans (o : Orders P less lt) {a b c : α} (ha : P a) (hb : P b) (hc : P c)
    (hab : lt a b = true) (hbc : lt b c = true) : lt a c = true := by
  cases hac : lt a c with
  | true => rfl
  | false =>
    have hno := o.through ha hc hb hac (o.asymm hb hc hbc)
    rw [hab] at hno
    exact hno.symm

theorem tied_iff {a b : α} : tied lt a b = true ↔ lt a b = false ∧ lt b a = false := by
  simp [tied]

theorem Orders.tied_self (o : Orders P less lt) {a : α} (ha : P a) : tied lt a a = true :=
  tied_iff.mpr ⟨o.irrefl ha, o.irrefl ha⟩

/-- Two items that are tied to a third are not before one another. -/
theorem Orders.not_before_of_tied (o : Orders P less lt) {a b c : α} (ha : P a) (hb : P b)
    (hc : P c) (hca : tied lt c a = true) (hcb : tied lt c b = true) : lt a b = false :=
  o.through ha hc hb (tied_iff.mp hca).2 (tied_iff.mp hcb).1

/-! ## The place of an item -/

/-- The place found by halves has only items before it that the new one does not precede, and only
items from it on that it does. -/
theorem insertionPoint_spec (o : Orders P less lt) {sorted : List α} {a : α}
    (hP : ∀ b ∈ sorted, P b) (ha : P a) (hs : sorted.Pairwise (fun a b => lt b a = false))
    (low high : Nat) (hlow : low ≤ high) (hhigh : high ≤ sorted.length)
    (hbefore : ∀ b ∈ sorted.take low, lt a b = false)
    (hafter : ∀ b ∈ sorted.drop high, lt a b = true) :
    ∃ place, insertionPoint less sorted.toArray a low high = .ok place ∧
      (∀ b ∈ sorted.take place, lt a b = false) ∧ ∀ b ∈ sorted.drop place, lt a b = true := by
  induction hn : high - low using Nat.strongRecOn generalizing low high with
  | ind n ih =>
    unfold insertionPoint
    split
    · rename_i hlt
      dsimp only
      have hmid : low + (high - low) / 2 < sorted.length := by omega
      generalize hm : low + (high - low) / 2 = middle at hmid
      have hget : sorted.toArray[middle]? = some sorted[middle] := by simp [hmid]
      rw [hget]
      have hb : P sorted[middle] := hP _ (List.getElem_mem hmid)
      have hpair := List.pairwise_iff_getElem.mp hs
      simp only [o.answers ha hb, bind, Except.bind]
      split
      · rename_i hyes
        refine ih (middle - low) (by omega) low middle (by omega) (by omega) hbefore ?_ rfl
        intro b hmem
        obtain ⟨i, hi, rfl⟩ := List.getElem_of_mem hmem
        rw [List.length_drop] at hi
        rw [List.getElem_drop]
        -- An item that stands behind one that the new item precedes is preceded by it as well.
        cases hno : lt a sorted[middle + i] with
        | true => rfl
        | false =>
          have hle : lt sorted[middle + i] sorted[middle] = false := by
            rcases Nat.eq_zero_or_pos i with rfl | hpos
            · exact o.irrefl hb
            · exact hpair middle (middle + i) hmid (by omega) (by omega)
          have := o.through ha (hP _ (List.getElem_mem _)) hb hno hle
          rw [hyes] at this
          exact this.symm
      · rename_i hnot
        have hnot : lt a sorted[middle] = false := by simpa using hnot
        refine ih (high - (middle + 1)) (by omega) (middle + 1) high (by omega) hhigh ?_ hafter rfl
        intro b hmem
        obtain ⟨i, hi, rfl⟩ := List.getElem_of_mem hmem
        rw [List.length_take] at hi
        rw [List.getElem_take]
        rcases Nat.lt_or_ge i middle with hi' | hi'
        · have hle := hpair i middle (by omega) hmid hi'
          exact o.through ha hb (hP _ (List.getElem_mem _)) hnot hle
        · obtain rfl : i = middle := by omega
          exact hnot
    · have : low = high := by omega
      subst this
      exact ⟨low, rfl, hbefore, hafter⟩

/-- An item put among sorted ones. -/
theorem SortedForm.insert (o : Orders P less lt) {items sorted : List α} {a : α}
    (h : SortedForm P lt items sorted) (hP : ∀ b ∈ sorted, P b) (ha : P a) :
    ∃ out, insertSorted less sorted a = .ok out ∧ SortedForm P lt (items ++ [a]) out := by
  obtain ⟨place, hplace, hbefore, hafter⟩ := insertionPoint_spec o hP ha h.ordered 0 sorted.length
    (Nat.zero_le _) (Nat.le_refl _) (by simp) (by simp)
  have hin : insertSorted less sorted a = .ok (sorted.take place ++ a :: sorted.drop place) := by
    unfold insertSorted
    simp only [hplace, bind, Except.bind, pure, Except.pure]
  refine ⟨_, hin, ?_, ?_, ?_⟩
  · exact ((insertSorted_perm hin).trans (h.perm.cons a)).trans
      (List.perm_append_singleton a items).symm
  · have hparts := h.ordered
    rw [← List.take_append_drop place sorted, List.pairwise_append] at hparts
    obtain ⟨hleft, hright, hacross⟩ := hparts
    rw [List.pairwise_append, List.pairwise_cons]
    refine ⟨hleft, ⟨?_, hright⟩, ?_⟩
    · intro b hb
      exact o.asymm ha (hP b (List.mem_of_mem_drop hb)) (hafter b hb)
    · intro b hb c hc
      rcases List.mem_cons.mp hc with rfl | hc
      · exact hbefore b hb
      · exact hacross b hb c hc
  · intro c hc
    have hitems : items.filter (tied lt c) =
        (sorted.take place).filter (tied lt c) ++ (sorted.drop place).filter (tied lt c) := by
      rw [← List.filter_append, List.take_append_drop, h.ties c hc]
    rw [List.filter_append, List.filter_append, hitems, List.append_assoc, List.filter_cons,
      List.filter_cons]
    congr 1
    split
    · rename_i htied
      -- No item behind the new one is tied with it.
      have hnone : (sorted.drop place).filter (tied lt c) = [] := by
        rw [List.filter_eq_nil_iff]
        intro b hb hcb
        have hno := o.not_before_of_tied ha (hP b (List.mem_of_mem_drop hb)) hc htied hcb
        rw [hafter b hb] at hno
        cases hno
      rw [hnone]
      rfl
    · simp

/-- Items put among sorted ones, one after another. -/
theorem SortedForm.insertAll (o : Orders P less lt) {items sorted rest : List α}
    (h : SortedForm P lt items sorted) (hP : ∀ b ∈ items, P b) (hrest : ∀ b ∈ rest, P b) :
    ∃ out, rest.foldlM (insertSorted less) sorted = .ok out ∧
      SortedForm P lt (items ++ rest) out := by
  induction rest generalizing items sorted with
  | nil => exact ⟨sorted, rfl, by rwa [List.append_nil]⟩
  | cons a rest ih =>
    have ha : P a := hrest a List.mem_cons_self
    obtain ⟨next, hnext, hform⟩ := h.insert o (fun b hb => hP b (h.perm.mem_iff.mp hb)) ha
    obtain ⟨out, hout, hform⟩ := ih hform
      (fun b hb => by
        rcases List.mem_append.mp hb with hb | hb
        · exact hP b hb
        · rwa [List.mem_singleton.mp hb])
      (fun b hb => hrest b (List.mem_cons_of_mem a hb))
    refine ⟨out, ?_, by rwa [List.append_cons]⟩
    rw [List.foldlM_cons, hnext]
    exact hout

/-! ## The run at the start -/

/-- What goes from an item to the next, and from that to a third, goes from the first to the third,
up as well as down. -/
theorem Orders.along (o : Orders P less lt) {descending : Bool} {a b c : α} (ha : P a) (hb : P b)
    (hc : P c) (hba : lt b a = descending) (hcb : lt c b = descending) : lt c a = descending := by
  cases descending with
  | true => exact o.trans hc hb ha hcb hba
  | false => exact o.through hc hb ha hcb hba

/-- Each item of a run stands to every one before it as the run goes. -/
theorem takeRun_spec (o : Orders P less lt) (descending : Bool) {previous : α} {items : List α}
    (hp : P previous) (hP : ∀ b ∈ items, P b) :
    ∃ run after, takeRun less descending previous items = .ok (run, after) ∧
      (previous :: run).Pairwise (fun a b => lt b a = descending) := by
  induction items generalizing previous with
  | nil => exact ⟨[], [], rfl, List.pairwise_singleton _ _⟩
  | cons a rest ih =>
    have ha : P a := hP a List.mem_cons_self
    have hrest : ∀ b ∈ rest, P b := fun b hb => hP b (List.mem_cons_of_mem a hb)
    unfold takeRun
    simp only [o.answers ha hp, bind, Except.bind]
    split
    · rename_i hgoes
      have hgoes : lt a previous = descending := by simpa using hgoes
      obtain ⟨run, after, hrun, hpair⟩ := ih ha hrest
      rw [hrun]
      refine ⟨a :: run, after, rfl, List.pairwise_cons.mpr ⟨?_, hpair⟩⟩
      intro b hb
      rcases List.mem_cons.mp hb with rfl | hb
      · exact hgoes
      · have hPb : P b := hrest b (by rw [← takeRun_append hrun]; exact List.mem_append_left _ hb)
        exact o.along hp ha hPb hgoes ((List.pairwise_cons.mp hpair).1 b hb)
    · exact ⟨[], a :: rest, rfl, List.pairwise_singleton _ _⟩

/-- A list that strictly goes down has no two items that are tied. -/
theorem Orders.filter_reverse_tied (o : Orders P less lt) {items : List α} {c : α} (hc : P c)
    (hP : ∀ b ∈ items, P b) (h : items.Pairwise (fun a b => lt b a = true)) :
    items.reverse.filter (tied lt c) = items.filter (tied lt c) := by
  rw [List.filter_reverse]
  have hpair := h.filter (tied lt c)
  rcases hl : items.filter (tied lt c) with _ | ⟨a, _ | ⟨b, rest⟩⟩
  · rfl
  · rfl
  · rw [hl] at hpair
    have hmem : ∀ x ∈ a :: b :: rest, x ∈ items ∧ tied lt c x = true := by
      intro x hx
      rw [← hl] at hx
      exact List.mem_filter.mp hx
    obtain ⟨ha, hca⟩ := hmem a (by simp)
    obtain ⟨hb, hcb⟩ := hmem b (by simp)
    have hno := o.not_before_of_tied (hP b hb) (hP a ha) hc hcb hca
    rw [(List.pairwise_cons.mp hpair).1 b (by simp)] at hno
    cases hno

theorem firstRun_spec (o : Orders P less lt) {items : List α} (hP : ∀ b ∈ items, P b) :
    ∃ front run after, firstRun less items = .ok (run, after) ∧ front ++ after = items ∧
      SortedForm P lt front run := by
  rcases items with _ | ⟨a, _ | ⟨b, rest⟩⟩
  · exact ⟨[], [], [], rfl, rfl, .refl _, .nil, fun _ _ => rfl⟩
  · exact ⟨[a], [a], [], rfl, rfl, .refl _, List.pairwise_singleton _ _, fun _ _ => rfl⟩
  · have ha : P a := hP a (by simp)
    have hb : P b := hP b (by simp)
    have hrest : ∀ c ∈ rest, P c := fun c hc => hP c (by simp [hc])
    obtain ⟨run, after, hrun, hpair⟩ := takeRun_spec o (lt b a) hb hrest
    have hparts : a :: b :: run ++ after = a :: b :: rest := by rw [← takeRun_append hrun]; rfl
    have hPfront : ∀ c ∈ a :: b :: run, P c := fun c hc =>
      hP c (hparts ▸ List.mem_append_left after hc)
    have hpair : (a :: b :: run).Pairwise (fun x y => lt y x = lt b a) := by
      refine List.pairwise_cons.mpr ⟨?_, hpair⟩
      intro c hc
      rcases List.mem_cons.mp hc with rfl | hcr
      · rfl
      · exact o.along ha hb (hPfront c (by simp [hcr])) rfl
          ((List.pairwise_cons.mp hpair).1 c hcr)
    refine ⟨a :: b :: run, if lt b a then (a :: b :: run).reverse else a :: b :: run, after, ?_,
      hparts, ?_⟩
    · unfold firstRun
      simp only [o.answers hb ha, bind, Except.bind, hrun, pure, Except.pure]
    · cases hd : lt b a with
      | true =>
        rw [hd] at hpair
        refine ⟨List.reverse_perm _, ?_, fun c hc => o.filter_reverse_tied hc hPfront hpair⟩
        rw [if_pos rfl, List.pairwise_reverse]
        refine List.Pairwise.imp_of_mem ?_ hpair
        intro x y hx hy hyx
        exact o.asymm (hPfront y hy) (hPfront x hx) hyx
      | false =>
        rw [hd] at hpair
        exact ⟨.refl _, hpair, fun _ _ => rfl⟩

/-- Among items that the comparison puts into an order, sorting gives their sorted form. -/
theorem sortBy_spec (o : Orders P less lt) {items : List α} (hP : ∀ b ∈ items, P b) :
    ∃ sorted, sortBy less items = .ok sorted ∧ SortedForm P lt items sorted := by
  obtain ⟨front, run, after, hrun, hparts, hform⟩ := firstRun_spec o hP
  have hfront : ∀ b ∈ front, P b := fun b hb => hP b (hparts ▸ List.mem_append_left after hb)
  have hafter : ∀ b ∈ after, P b := fun b hb => hP b (hparts ▸ List.mem_append_right front hb)
  obtain ⟨sorted, hsorted, hform⟩ := hform.insertAll o hfront hafter
  refine ⟨sorted, ?_, hparts ▸ hform⟩
  unfold sortBy
  simp only [hrun, bind, Except.bind, hsorted]

/-- Sorting the other way round gives the sorted form under the order that is turned round. -/
theorem sortDown_spec (o : Orders P less lt) {items : List α} (hP : ∀ b ∈ items, P b) :
    ∃ sorted, sortDown less items = .ok sorted ∧ SortedForm P (fun a b => lt b a) items sorted := by
  have hreverse : ∀ b ∈ items.reverse, P b := fun b hb => hP b (List.mem_reverse.mp hb)
  obtain ⟨up, hup, hform⟩ := sortBy_spec o hreverse
  refine ⟨up.reverse, ?_, ?_, ?_, ?_⟩
  · unfold sortDown
    rw [hup]
    rfl
  · exact (List.reverse_perm up).trans (hform.perm.trans (List.reverse_perm items))
  · exact List.pairwise_reverse.mpr hform.ordered
  · intro c hc
    have hflip : tied (fun a b => lt b a) c = tied lt c := funext fun b => Bool.and_comm _ _
    rw [hflip, List.filter_reverse, hform.ties c hc, List.filter_reverse, List.reverse_reverse]

/-- Sorted up or down, items come in their sorted form. -/
theorem sorted_spec (o : Orders P less lt) (down : Bool) {items : List α} (hP : ∀ b ∈ items, P b) :
    ∃ sorted, (if down then sortDown less items else sortBy less items) = .ok sorted ∧
      SortedForm P (fun a b => if down then lt b a else lt a b) items sorted := by
  cases down with
  | true => exact sortDown_spec o hP
  | false => exact sortBy_spec o hP

/-! ## There is one sorted form -/

/-- Two sorted forms of the same items are the same list. -/
theorem SortedForm.unique (o : Orders P less lt) {items other s t : List α}
    (hP : ∀ b ∈ s, P b) (hs : SortedForm P lt items s) (ht : SortedForm P lt other t)
    (hsame : s.Perm t) (hties : ∀ c, P c → items.filter (tied lt c) = other.filter (tied lt c)) :
    s = t := by
  have hst : ∀ c, P c → s.filter (tied lt c) = t.filter (tied lt c) := fun c hc => by
    rw [hs.ties c hc, ht.ties c hc, hties c hc]
  have hso := hs.ordered
  have hto := ht.ordered
  clear hs ht hties
  induction s generalizing t with
  | nil => exact hsame.nil_eq
  | cons a rest ih =>
    rcases t with _ | ⟨b, rest'⟩
    · exact absurd hsame.length_eq (by simp)
    have ha : P a := hP a List.mem_cons_self
    have hb : P b := hP b (hsame.mem_iff.mpr List.mem_cons_self)
    have hba : lt b a = false := by
      rcases List.mem_cons.mp (hsame.mem_iff.mpr (List.mem_cons_self (a := b))) with rfl | hmem
      · exact o.irrefl ha
      · exact (List.pairwise_cons.mp hso).1 b hmem
    have hab : lt a b = false := by
      rcases List.mem_cons.mp (hsame.mem_iff.mp (List.mem_cons_self (a := a))) with rfl | hmem
      · exact o.irrefl ha
      · exact (List.pairwise_cons.mp hto).1 a hmem
    -- The first items are tied, so both are the first of their tie.
    have hfirst := hst a ha
    rw [List.filter_cons_of_pos (o.tied_self ha),
      List.filter_cons_of_pos (tied_iff.mpr ⟨hab, hba⟩)] at hfirst
    obtain ⟨rfl, -⟩ := List.cons.inj hfirst
    congr 1
    refine ih (fun c hc => hP c (List.mem_cons_of_mem a hc)) (List.perm_cons a |>.mp hsame) ?_
      (List.pairwise_cons.mp hso).2 (List.pairwise_cons.mp hto).2
    intro c hc
    have hboth := hst c hc
    rw [List.filter_cons, List.filter_cons] at hboth
    split at hboth
    · exact (List.cons.inj hboth).2
    · exact hboth

/-- Sorting part of the items gives that part of the sorted ones. -/
theorem sortBy_filter (o : Orders P less lt) {items sorted : List α} (hP : ∀ b ∈ items, P b)
    (h : sortBy less items = .ok sorted) (p : α → Bool) :
    sortBy less (items.filter p) = .ok (sorted.filter p) := by
  obtain ⟨whole, hwhole, hform⟩ := sortBy_spec o hP
  obtain rfl : whole = sorted := Except.ok.inj (hwhole.symm.trans h)
  have hPpart : ∀ b ∈ items.filter p, P b := fun b hb => hP b (List.mem_filter.mp hb).1
  obtain ⟨part, hpart, hpform⟩ := sortBy_spec o hPpart
  have hwform : SortedForm P lt (items.filter p) (whole.filter p) := by
    refine ⟨hform.perm.filter p, hform.ordered.filter p, fun c hc => ?_⟩
    have hswap : ∀ l : List α,
        (l.filter p).filter (tied lt c) = (l.filter (tied lt c)).filter p := fun l => by
      rw [List.filter_filter, List.filter_filter]
      exact List.filter_congr fun x _ => Bool.and_comm _ _
    rw [hswap, hswap, hform.ties c hc]
  rw [hpart, hpform.unique o (fun b hb => hPpart b (hpform.perm.mem_iff.mp hb)) hwform
    (hpform.perm.trans hwform.perm.symm) (fun _ _ => rfl)]

theorem sortDown_filter (o : Orders P less lt) {items sorted : List α} (hP : ∀ b ∈ items, P b)
    (h : sortDown less items = .ok sorted) (p : α → Bool) :
    sortDown less (items.filter p) = .ok (sorted.filter p) := by
  unfold sortDown at h ⊢
  cases hs : sortBy less items.reverse with
  | error e => simp [hs, Except.map] at h
  | ok up =>
    simp only [hs, Except.map, Except.ok.injEq] at h
    have hP' : ∀ b ∈ items.reverse, P b := fun b hb => hP b (List.mem_reverse.mp hb)
    rw [← List.filter_reverse, sortBy_filter o hP' hs p, ← h, List.filter_reverse]
    rfl

end

end Folio.Collection
