-- The order of fields. Fields of distinct names come in one order only, and a value whose objects are
-- all in that order stands for all the values that differ from it in the order of fields alone.
import Folio.Json.Writer
import Mathlib.Data.List.Nodup

namespace Folio

/-! ## Fields in order -/

theorem insertBy_perm {α : Type} (le : α → α → Bool) (a : α) (items : List α) :
    (insertBy le a items).Perm (a :: items) := by
  induction items with
  | nil => exact .refl _
  | cons b rest ih =>
    unfold insertBy
    split
    · exact .refl _
    · exact (ih.cons b).trans (.swap a b rest)

theorem sortedBy_perm {α : Type} (le : α → α → Bool) (items : List α) :
    (sortedBy le items).Perm items := by
  induction items with
  | nil => exact .refl _
  | cons a rest ih => exact (insertBy_perm le a _).trans (ih.cons a)

namespace Json

variable {α β : Type}

theorem byName_perm (fields : List (String × α)) : (byName fields).Perm fields :=
  sortedBy_perm _ fields

/-- Only names decide about the order. -/
theorem byName_map {g : String × α → String × β} (hname : ∀ field, (g field).1 = field.1)
    (fields : List (String × α)) : byName (fields.map g) = (byName fields).map g := by
  have hinsert (a : String × α) (items : List (String × α)) :
      insertBy (fun a b => decide (a.1 ≤ b.1)) (g a) (items.map g) =
        (insertBy (fun a b => decide (a.1 ≤ b.1)) a items).map g := by
    induction items with
    | nil => rfl
    | cons b rest ih =>
      simp only [List.map_cons, insertBy, hname]
      split
      · rfl
      · rw [ih, List.map_cons]
  unfold byName
  induction fields with
  | nil => rfl
  | cons a rest ih => rw [List.map_cons, sortedBy, ih, hinsert, sortedBy]

theorem byName_sorted (fields : List (String × α)) :
    (byName fields).Pairwise (fun a b => a.1 ≤ b.1) := by
  have hinsert (a : String × α) (items : List (String × α))
      (h : items.Pairwise (fun a b => a.1 ≤ b.1)) :
      (insertBy (fun a b => decide (a.1 ≤ b.1)) a items).Pairwise (fun a b => a.1 ≤ b.1) := by
    induction items with
    | nil => exact List.pairwise_singleton _ a
    | cons b rest ih =>
      obtain ⟨hb, hrest⟩ := List.pairwise_cons.mp h
      unfold insertBy
      split
      · rename_i hle
        have hle' : a.1 ≤ b.1 := by simpa using hle
        refine List.pairwise_cons.mpr ⟨?_, h⟩
        intro c hc
        rcases List.mem_cons.mp hc with rfl | hc
        · exact hle'
        · exact String.le_trans hle' (hb c hc)
      · rename_i hle
        have hle' : b.1 ≤ a.1 := (String.le_total b.1 a.1).resolve_right (by simpa using hle)
        refine List.pairwise_cons.mpr ⟨?_, ih hrest⟩
        intro c hc
        rcases List.mem_cons.mp ((insertBy_perm _ a rest).mem_iff.mp hc) with rfl | hc
        · exact hle'
        · exact hb c hc
  unfold byName
  induction fields with
  | nil => exact List.Pairwise.nil
  | cons a rest ih => exact hinsert a _ ih

theorem byName_of_sorted {fields : List (String × α)}
    (h : fields.Pairwise (fun a b => a.1 ≤ b.1)) : byName fields = fields := by
  induction fields with
  | nil => rfl
  | cons a rest ih =>
    obtain ⟨ha, hrest⟩ := List.pairwise_cons.mp h
    have hsame := ih hrest
    unfold byName at hsame ⊢
    rw [sortedBy, hsame]
    rcases rest with _ | ⟨b, more⟩
    · rfl
    · unfold insertBy
      rw [if_pos (by simpa using ha b (by simp))]

/-- Fields of distinct names come in one order only. -/
theorem byName_eq_of_perm {xs ys : List (String × α)} (h : xs.Perm ys)
    (hnames : (xs.map (·.1)).Nodup) : byName xs = byName ys := by
  have hsame : (byName xs).Perm (byName ys) :=
    ((byName_perm xs).trans h).trans (byName_perm ys).symm
  refine hsame.eq_of_pairwise ?_ (byName_sorted xs) (byName_sorted ys)
  intro a b ha hb hab hba
  have hin : a ∈ xs := (byName_perm xs).mem_iff.mp ha
  have hin' : b ∈ xs := h.mem_iff.mpr ((byName_perm ys).mem_iff.mp hb)
  exact List.inj_on_of_nodup_map hnames hin hin' (String.le_antisymm hab hba)

/-- Fields that have the same names in the same places are the same when their orders are. -/
theorem eq_of_byName_eq {xs ys : List (String × α)} (hnames : xs.map (·.1) = ys.map (·.1))
    (h : byName xs = byName ys) : xs = ys := by
  have hinsert (a b : String × α) (xs ys : List (String × α)) (hname : a.1 = b.1)
      (hnames : xs.map (·.1) = ys.map (·.1))
      (h : insertBy (fun a b => decide (a.1 ≤ b.1)) a xs =
        insertBy (fun a b => decide (a.1 ≤ b.1)) b ys) : a = b ∧ xs = ys := by
    induction xs generalizing ys with
    | nil =>
      cases List.map_eq_nil_iff.mp hnames.symm
      simpa [insertBy] using h
    | cons x xs ih =>
      rcases ys with _ | ⟨y, ys⟩
      · cases hnames
      · simp only [List.map_cons, List.cons.injEq] at hnames
        simp only [insertBy, hname, hnames.1] at h
        split at h
        · simpa using h
        · simp only [List.cons.injEq] at h
          obtain ⟨hab, hrest⟩ := ih ys hnames.2 h.2
          exact ⟨hab, by rw [h.1, hrest]⟩
  have hordered {xs ys : List (String × α)} (h : xs.map (·.1) = ys.map (·.1)) :
      (byName xs).map (·.1) = (byName ys).map (·.1) := by
    have hbare (zs : List (String × α)) :
        (byName zs).map (·.1) = (byName ((zs.map (·.1)).map (fun name => (name, ())))).map (·.1) := by
      have hmap := byName_map (g := fun field : String × α => (field.1, ())) (fun _ => rfl) zs
      rw [List.map_map]
      simpa [Function.comp_def] using (congrArg (List.map (·.1)) hmap).symm
    rw [hbare xs, h, ← hbare ys]
  induction xs generalizing ys with
  | nil =>
    cases List.map_eq_nil_iff.mp hnames.symm
    rfl
  | cons x xs ih =>
    rcases ys with _ | ⟨y, ys⟩
    · cases hnames
    · simp only [List.map_cons, List.cons.injEq] at hnames
      obtain ⟨hhead, htail⟩ := hinsert x y (byName xs) (byName ys) hnames.1 (hordered hnames.2) h
      rw [hhead, ih hnames.2 htail]

end Json

namespace Value

mutual

/-- The value with the fields of its objects in the order of their names. Two values are the same up
to the order of fields when these are the same. -/
def inOrder : Value → Value
  | .null => .null
  | .scalar s => .scalar s
  | .list items => .list (inOrderItems items)
  | .object fields => .object (Json.byName (inOrderFields fields))

def inOrderItems : List Value → List Value
  | [] => []
  | v :: rest => inOrder v :: inOrderItems rest

def inOrderFields : List (String × Value) → List (String × Value)
  | [] => []
  | (name, v) :: rest => (name, inOrder v) :: inOrderFields rest

end

theorem inOrderItems_eq (items : List Value) : inOrderItems items = items.map inOrder := by
  induction items with
  | nil => rfl
  | cons v rest ih => rw [inOrderItems, ih, List.map_cons]

/-- A field with its value in order. -/
def fieldInOrder (field : String × Value) : String × Value := (field.1, field.2.inOrder)

theorem inOrderFields_eq (fields : List (String × Value)) :
    inOrderFields fields = fields.map fieldInOrder := by
  induction fields with
  | nil => rfl
  | cons field rest ih =>
    rw [inOrderFields, ih, List.map_cons]
    rfl

theorem inOrder_list (items : List Value) : (list items).inOrder = .list (items.map inOrder) := by
  rw [inOrder, inOrderItems_eq]

theorem inOrder_object (fields : List (String × Value)) :
    (object fields).inOrder = .object ((Json.byName fields).map fieldInOrder) := by
  rw [inOrder, inOrderFields_eq, Json.byName_map (g := fieldInOrder) (fun _ => rfl)]

/-- Objects of distinct names are the same when their fields are, in whatever order. -/
theorem inOrder_object_iff {xs ys : List (String × Value)} (hx : (xs.map (·.1)).Nodup) :
    (object xs).inOrder = (object ys).inOrder ↔
      (xs.map fieldInOrder).Perm (ys.map fieldInOrder) := by
  rw [inOrder_object, inOrder_object, ← Json.byName_map (g := fieldInOrder) (fun _ => rfl),
    ← Json.byName_map (g := fieldInOrder) (fun _ => rfl), object.injEq]
  constructor
  · intro h
    exact (Json.byName_perm _).symm.trans (h ▸ Json.byName_perm _)
  · intro h
    apply Json.byName_eq_of_perm h
    rwa [List.map_map]

/-- Objects that have the same names in the same places are the same when their values are. -/
theorem inOrder_object_iff_of_names {xs ys : List (String × Value)}
    (hnames : xs.map (·.1) = ys.map (·.1)) :
    (object xs).inOrder = (object ys).inOrder ↔ xs.map fieldInOrder = ys.map fieldInOrder := by
  rw [inOrder_object, inOrder_object, ← Json.byName_map (g := fieldInOrder) (fun _ => rfl),
    ← Json.byName_map (g := fieldInOrder) (fun _ => rfl), object.injEq]
  constructor
  · intro h
    refine Json.eq_of_byName_eq ?_ h
    simpa [fieldInOrder, Function.comp_def] using hnames
  · intro h
    rw [h]

/-- A property of values that holds of a list and of an object as soon as it holds of their parts
holds of all values. -/
theorem parts_induction {P : Value → Prop} (null : P .null) (scalar : ∀ s, P (.scalar s))
    (list : ∀ items, (∀ v ∈ items, P v) → P (.list items))
    (object : ∀ fields : List (String × Value), (∀ field ∈ fields, P field.2) → P (.object fields))
    (v : Value) : P v := by
  refine @Value.rec P (fun items => ∀ v ∈ items, P v) (fun fields => ∀ field ∈ fields, P field.2)
    (fun field => P field.2) null scalar list object ?_ ?_ ?_ ?_ ?_ v
  · intro v hv
    cases hv
  · intro v rest hv hrest w hw
    rcases List.mem_cons.mp hw with rfl | hw
    · exact hv
    · exact hrest w hw
  · intro field hfield
    cases hfield
  · intro field rest hf hrest other hother
    rcases List.mem_cons.mp hother with rfl | hother
    · exact hf
    · exact hrest other hother
  · intro name v hv
    exact hv

end Value

end Folio
