-- What merging makes of a registry. An attribute that is merged takes the place of the one of its
-- name in all but one thing: what full-text search covered stays covered. Other names are left
-- alone.
import Folio.Filter.Attribute

namespace Folio

/-- An attribute as it is known when it has taken the place of what was known. -/
def Attribute.over (a : Attribute) (known : Option Attribute) : Attribute :=
  { a with fullText := a.fullText || known.any (·.fullText) }

namespace Registry

variable {r : Registry} {found : List Attribute} {name : String}

theorem name_of_get? {a : Attribute} (h : r.get? name = some a) : a.name = name :=
  beq_iff_eq.mp (List.find?_some h :)

/-! ## One attribute -/

theorem get?_cons (b : Attribute) (rest : List Attribute) (name : String) :
    get? ⟨b :: rest⟩ name = if b.name = name then some b else get? ⟨rest⟩ name := by
  unfold get?
  by_cases h : b.name = name <;> simp [h]

theorem get?_replaced (attributes : List Attribute) (a : Attribute) (name : String) :
    get? ⟨attributes.map (fun b => if b.name == a.name then a else b)⟩ name =
      if a.name = name then (get? ⟨attributes⟩ name).map (fun _ => a) else get? ⟨attributes⟩ name := by
  induction attributes with
  | nil => exact (ite_self _).symm
  | cons b rest ih =>
    rw [List.map_cons, get?_cons, get?_cons, ih]
    by_cases hb : b.name = a.name
    · by_cases hname : a.name = name <;> simp [hb, hname]
    · by_cases hname : a.name = name
      · simp [hname, hname ▸ hb]
      · simp [hb, hname]

theorem get?_put (r : Registry) (a : Attribute) (name : String) :
    (r.put a).get? name = if a.name = name then some a else r.get? name := by
  unfold put
  split
  · rename_i h
    obtain ⟨known, hknown⟩ := Option.isSome_iff_exists.mp h
    rw [get?_replaced]
    split
    · rename_i hname
      rw [hname] at hknown
      exact congrArg (Option.map fun _ => a) hknown
    · rfl
  · rename_i h
    have hnone : r.get? a.name = none := by simpa [has] using h
    unfold get? at hnone ⊢
    rw [List.find?_append, List.find?_singleton]
    by_cases hname : a.name = name
    · rw [hname] at hnone
      simp [hnone, hname]
    · simp [hname]

theorem learn_eq (r : Registry) (a : Attribute) : r.learn a = r.put (a.over (r.get? a.name)) := by
  unfold learn Attribute.over
  cases r.get? a.name with
  | none =>
    rw [Option.any_none, Bool.or_false]
  | some known =>
    cases hflag : known.fullText with
    | true => simp [hflag]
    | false => simp [hflag]

/-- An attribute that is learned is put over what was known; other names are left alone. -/
theorem get?_learn (r : Registry) (a : Attribute) (name : String) :
    (r.learn a).get? name = if a.name = name then some (a.over (r.get? name)) else r.get? name := by
  rw [learn_eq, get?_put]
  change (if a.name = name then _ else _) = _
  split
  · rename_i hname
    rw [hname]
  · rfl

/-! ## Many attributes -/

theorem get?_merge_of_ne (h : ∀ a ∈ found, a.name ≠ name) :
    (r.merge found).get? name = r.get? name := by
  induction found generalizing r with
  | nil => rfl
  | cons a rest ih =>
    obtain ⟨hfirst, hrest⟩ := List.forall_mem_cons.mp h
    change ((r.learn a).merge rest).get? name = _
    rw [ih hrest, get?_learn, if_neg hfirst]

/-- Of attributes with distinct names each is put over what was known before any of them. -/
theorem get?_merge_of_mem (h : (found.map (·.name)).Nodup) {a : Attribute} (ha : a ∈ found) :
    (r.merge found).get? a.name = some (a.over (r.get? a.name)) := by
  induction found generalizing r with
  | nil => cases ha
  | cons b rest ih =>
    rw [List.map_cons, List.nodup_cons] at h
    obtain ⟨hfirst, hrest⟩ := h
    change ((r.learn b).merge rest).get? a.name = _
    rcases List.mem_cons.mp ha with rfl | ha
    · have hother : ∀ c ∈ rest, c.name ≠ a.name := fun c hc hname =>
        hfirst (hname ▸ List.mem_map_of_mem hc)
      rw [get?_merge_of_ne hother, get?_learn, if_pos rfl]
    · have hname : b.name ≠ a.name := fun hname => hfirst (hname ▸ List.mem_map_of_mem ha)
      rw [ih hrest ha, get?_learn, if_neg hname]

/-- Where all that is found under a name has one type, that is the type afterwards. -/
theorem typeOf?_merge {type : String} (h : ∀ a ∈ found, a.name = name → a.type = type) :
    (r.merge found).typeOf? name =
      if ∃ a ∈ found, a.name = name then some type else r.typeOf? name := by
  induction found generalizing r with
  | nil => simp [merge]
  | cons a rest ih =>
    obtain ⟨hfirst, hrest⟩ := List.forall_mem_cons.mp h
    have hlearned : (r.learn a).typeOf? name = if a.name = name then some type else r.typeOf? name := by
      unfold typeOf?
      rw [get?_learn]
      split
      · rename_i hname
        exact congrArg some (hfirst hname)
      · rfl
    change ((r.learn a).merge rest).typeOf? name = _
    rw [ih hrest, hlearned]
    by_cases hname : a.name = name <;> simp [hname]

end Registry

end Folio
