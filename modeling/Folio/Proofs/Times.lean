-- Times in order. A floating number that is comparable at all has its place among all others, so
-- that times can be compared one after another; and nothing passes when no time is added.
import Folio.Proofs.UnitFactors
import Mathlib.Data.Prod.Lex
import Mathlib.Data.Int.Order.Basic

namespace Folio

open Float.Model (UnpackedFloat)

/-- Where a number stands among all others: infinities are the outermost, and of numbers with the
same sign the exponent is looked at first. -/
def placeOf : UnpackedFloat → Option (Int ×ₗ Int ×ₗ Int)
  | .notANumber => none
  | .infinity .negative => some (toLex (-2, toLex (0, 0)))
  | .finite .negative m e _ => some (toLex (-1, toLex (-e, -m)))
  | .zero _ => some (toLex (0, toLex (0, 0)))
  | .finite .positive m e _ => some (toLex (1, toLex (e, m)))
  | .infinity .positive => some (toLex (2, toLex (0, 0)))

theorem compare_then_iff (e f : Int) (m n : Nat) :
    (((compare e f).then (compare m n)).isLE = true ↔ e < f ∨ e = f ∧ m ≤ n) ∧
      (((compare e f).then (compare m n)).isGE = true ↔ f < e ∨ e = f ∧ n ≤ m) := by
  rcases lt_trichotomy e f with h | rfl | h
  · simp [compare_lt_iff_lt.mpr h, h, h.not_gt, h.ne]
  · simp [Nat.isLE_compare, Nat.isGE_compare]
  · simp [compare_gt_iff_gt.mpr h, h, h.not_gt, h.ne']

theorem le_iff_placeOf (a b : UnpackedFloat) :
    a.le b = true ↔ ∃ p q, placeOf a = some p ∧ placeOf b = some q ∧ p ≤ q := by
  have hsame : ∀ sign : UnpackedFloat.Sign, compare sign sign = .eq := by rintro (_ | _) <;> rfl
  have hrises : compare UnpackedFloat.Sign.negative .positive = .lt := rfl
  have hfalls : compare UnpackedFloat.Sign.positive .negative = .gt := rfl
  unfold UnpackedFloat.le
  rcases a with (_ | _) | _ | _ | ⟨_ | _, _, _, _⟩ <;>
    rcases b with (_ | _) | _ | _ | ⟨_ | _, _, _, _⟩ <;>
    dsimp only [UnpackedFloat.compare, placeOf] <;>
    simp [Prod.Lex.le_iff, compare_then_iff, hsame, hrises, hfalls]

theorem time_le_iff (a b : Float) :
    a ≤ b ↔ ∃ p q, placeOf a.toModel.unpack = some p ∧ placeOf b.toModel.unpack = some q ∧ p ≤ q := by
  rw [← le_iff_placeOf]
  exact decide_eq_true_iff

theorem time_le_trans {a b c : Float} (hab : a ≤ b) (hbc : b ≤ c) : a ≤ c := by
  rw [time_le_iff] at hab hbc ⊢
  obtain ⟨p, q, hp, hq, hpq⟩ := hab
  obtain ⟨q', r, hq', hr, hqr⟩ := hbc
  obtain rfl := Option.some.inj (hq.symm.trans hq')
  exact ⟨p, r, hp, hr, hpq.trans hqr⟩

/-- What is compared to a time is one. -/
theorem time_of_le {a b : Float} (h : a ≤ b) : a ≤ a ∧ b ≤ b := by
  obtain ⟨p, q, hp, hq, -⟩ := (time_le_iff a b).mp h
  exact ⟨(time_le_iff a a).mpr ⟨p, p, hp, hp, le_rfl⟩, (time_le_iff b b).mpr ⟨q, q, hq, hq, le_rfl⟩⟩

/-- Only a zero is in the place of zero. -/
theorem unpack_of_zero {d : Float} (h : 0.0 ≤ d) (h' : d ≤ 0.0) : ∃ sign, d.toModel.unpack = .zero sign := by
  obtain ⟨p, q, hp, hq, hpq⟩ := (time_le_iff 0.0 d).mp h
  obtain ⟨q', p', hq', hp', hqp⟩ := (time_le_iff d 0.0).mp h'
  obtain rfl := Option.some.inj (hq.symm.trans hq')
  obtain rfl := Option.some.inj (hp.symm.trans hp')
  have hzero : placeOf (0.0 : Float).toModel.unpack = some (toLex (0, toLex (0, 0))) := by decide
  obtain rfl := Option.some.inj (hp.symm.trans hzero)
  obtain rfl := le_antisymm hqp hpq
  cases hd : d.toModel.unpack with
  | notANumber => rw [hd] at hq; cases hq
  | infinity sign => rw [hd] at hq; cases sign <;> cases hq
  | zero sign => exact ⟨sign, rfl⟩
  | finite sign m e hm => rw [hd] at hq; cases sign <;> cases hq

theorem time_beq_refl {t : Float} (ht : t ≤ t) : (t == t) = true := by
  obtain ⟨p, -, hp, -, -⟩ := (time_le_iff t t).mp ht
  change t.toModel.unpack.beq t.toModel.unpack = true
  cases hu : t.toModel.unpack with
  | notANumber => rw [hu] at hp; cases hp
  | infinity sign => cases sign <;> rfl
  | zero sign => rfl
  | finite sign m e hm =>
    have hsame : (compare e e).then (compare m m) = .eq := by simp
    cases sign with
    | negative =>
      change (some ((compare e e).then (compare m m)).swap == some .eq) = true
      rw [hsame]
      rfl
    | positive =>
      change (some ((compare e e).then (compare m m)) == some .eq) = true
      rw [hsame]
      rfl

/-- A time to which nothing is added stays the same. -/
theorem time_add_zero {t d : Float} (ht : t ≤ t) (h : 0.0 ≤ d) (h' : d ≤ 0.0) : (t + d == t) = true := by
  obtain ⟨sign, hd⟩ := unpack_of_zero h h'
  have hsum : (t + d).toModel = .pack (UnpackedFloat.add .binary64 t.toModel.unpack (.zero sign)) := by
    rw [← hd]
    rfl
  by_cases hzero : ∃ sign', t.toModel.unpack = .zero sign'
  · obtain ⟨sign', ht⟩ := hzero
    change (t + d).toModel.unpack.beq t.toModel.unpack = true
    rw [hsum, ht]
    cases sign <;> cases sign' <;> decide
  · have hsame : UnpackedFloat.add .binary64 t.toModel.unpack (.zero sign) = t.toModel.unpack := by
      cases hu : t.toModel.unpack with
      | notANumber => rfl
      | infinity sign' => rfl
      | zero sign' => exact absurd ⟨sign', hu⟩ hzero
      | finite sign' m e hm => rfl
    have hback : (t + d).toModel = t.toModel := by
      rw [hsum, hsame]
      have hbits := Number.pack_unpack t.toModel.valid
      exact (Float.Model.mk.injEq _ _ _ _).mpr (congrArg UInt64.ofBitVec hbits)
    change (t + d).toModel == t.toModel
    rw [hback]
    exact time_beq_refl ht

end Folio
