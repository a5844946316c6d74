-- Lists that are cut off.
namespace Folio

/-- The items in front of a limit; a negative limit counts from the end. -/
def upTo {α : Type} (limit : Int) (items : List α) : List α :=
  if limit < 0 then items.take (items.length - limit.natAbs) else items.take limit.toNat

section
variable {α : Type} {limit : Int} {items : List α}

theorem upTo_of_nonneg (h : 0 ≤ limit) : upTo limit items = items.take limit.toNat :=
  if_neg (by omega)

/-- A list that is no longer than the limit is not cut off. -/
theorem upTo_of_length_le (h : items.length ≤ limit) : upTo limit items = items := by
  rw [upTo_of_nonneg (by omega)]
  exact List.take_of_length_le (by omega)

theorem upTo_sublist (limit : Int) (items : List α) : (upTo limit items).Sublist items := by
  unfold upTo
  split <;> exact List.take_sublist ..

theorem upTo_front (limit : Int) (items : List α) : upTo limit items <+: items := by
  unfold upTo
  split <;> exact List.take_prefix ..

theorem length_upTo_le (h : 0 ≤ limit) : ((upTo limit items).length : Int) ≤ limit := by
  rw [upTo_of_nonneg h, List.length_take]
  omega

/-- A cut list with one more item in front, cut again. -/
theorem upTo_cons_upTo (h : 0 ≤ limit) (a : α) :
    upTo limit (a :: upTo limit items) = upTo limit (a :: items) := by
  simp only [upTo_of_nonneg h]
  cases limit.toNat with
  | zero => rfl
  | succ n =>
    rw [List.take_succ_cons, List.take_succ_cons, List.take_take, Nat.min_eq_left n.le_succ]

end

end Folio
