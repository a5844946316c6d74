-- One times a floating number is that number, whatever it is: the sign of a zero, the infinite numbers
-- and the undefined one included. A product of many factors starts from one, so its first factor
-- comes out of it as it went in.
import Folio.Proofs.ShortestDecimals

namespace Folio.Number

open Float.Model (Format totalExponent)
open Float.Model.UnpackedFloat

/-! ## The parts of a stored number -/

/-- A stored number is put together of its parts. -/
theorem packComponents_unpacked (b : BitVec 64) :
    packComponents .binary64 (Sign.ofBitVec (@unpackSign .binary64 b))
      (@unpackExponent .binary64 b) (@unpackMantissa .binary64 b) = b := by
  have hsign : (Sign.ofBitVec (@unpackSign .binary64 b)).toBitVec = @unpackSign .binary64 b := by
    generalize @unpackSign .binary64 b = v
    revert v
    decide
  have hb := b.isLt
  unfold packComponents
  rw [hsign]
  apply BitVec.eq_of_toNat_eq
  unfold unpackSign unpackExponent unpackMantissa
  rw [BitVec.toNat_append, BitVec.toNat_append, ← Nat.shiftLeft_add_eq_or_of_lt (BitVec.isLt _),
    ← Nat.shiftLeft_add_eq_or_of_lt (BitVec.isLt _)]
  simp only [BitVec.toNat_cast, BitVec.extractLsb_toNat, Nat.shiftRight_eq_div_pow, Nat.shiftLeft_eq]
  omega

/-- The mantissa of a number that is not too small, with the digit that is not stored. -/
theorem toNat_leading (v : BitVec 52) : (1#1 ++ v).toNat = 2 ^ 52 + v.toNat := by
  rw [BitVec.toNat_append, ← Nat.shiftLeft_add_eq_or_of_lt v.isLt]
  rfl

theorem log2_leading (v : BitVec 52) : (2 ^ 52 + v.toNat).log2 = 52 := by
  have hv := v.isLt
  rw [Nat.log2_eq_iff (by omega)]
  omega

theorem log2_small {v : BitVec 52} (h : v ≠ 0#52) : v.toNat.log2 < 52 :=
  (Nat.log2_lt (by simpa [← BitVec.toNat_inj] using h)).mpr v.isLt

theorem exponent_pos {v : BitVec 11} (h : v ≠ 0#11) : 0 < v.toNat :=
  Nat.pos_of_ne_zero (by simpa [← BitVec.toNat_inj] using h)

theorem exponent_lt {v : BitVec 11} (h : v ≠ -1#11) : v.toNat < 2047 := by
  have hv := v.isLt
  have hne : v.toNat ≠ 2047 := fun he => h (BitVec.eq_of_toNat_eq he)
  omega

theorem exponentBias_eq : Format.binary64.exponentBias = 1023 := by decide

/-! ## Reading a stored number and storing it again -/

/-- A mantissa and an exponent as they are read of a stored number: nothing is left to round. -/
def Fits (m : Nat) (e : Int) : Prop := Format.binary64.targetExponent (totalExponent m e) = e

theorem fits_iff (m : Nat) (e : Int) : Fits m e ↔ max ((m.log2 : Int) - 52 + e) (-1074) = e := by
  have hmin : Format.binary64.minExponent = -1074 := by decide
  have hbits : Format.binary64.mantissaBits = 53 := by decide
  unfold Fits Format.targetExponent totalExponent
  rw [hmin, hbits]
  omega

theorem unpack_fits {b : BitVec 64} {sign : Sign} {m : Nat} {e : Int} {hm : 0 < m}
    (h : unpack .binary64 b = .finite sign m e hm) : Fits m e := by
  rw [fits_iff]
  unfold unpack at h
  dsimp only at h
  by_cases hfull : @unpackExponent .binary64 b = -1#_
  · rw [if_pos hfull] at h
    by_cases hmantissa : @unpackMantissa .binary64 b = 0#_
    · rw [if_pos hmantissa] at h
      cases h
    · rw [if_neg hmantissa] at h
      cases h
  · rw [if_neg hfull] at h
    by_cases hexponent : @unpackExponent .binary64 b = 0#_
    · rw [if_pos hexponent] at h
      by_cases hmantissa : @unpackMantissa .binary64 b = 0#_
      · rw [dif_pos hmantissa] at h
        cases h
      · rw [dif_neg hmantissa] at h
        cases h
        have hlog := log2_small hmantissa
        rw [hexponent, exponentBias_eq, BitVec.toNat_zero]
        omega
    · rw [if_neg hexponent] at h
      cases h
      have hpos := exponent_pos hexponent
      rw [exponentBias_eq, toNat_leading, log2_leading]
      omega

/-- Of a number that is stored nothing is lost by reading it. -/
theorem pack_unpack {b : BitVec 64} (hb : Format.binary64.Valid b) :
    pack .binary64 (unpack .binary64 b) = b := by
  have hwhole := packComponents_unpacked b
  have hbits : Format.binary64.mantissaBits = 53 := by decide
  unfold unpack
  dsimp only
  by_cases hfull : @unpackExponent .binary64 b = -1#_
  · rw [if_pos hfull]
    by_cases hmantissa : @unpackMantissa .binary64 b = 0#_
    · rw [if_pos hmantissa]
      rw [hfull, hmantissa] at hwhole
      exact hwhole
    · rw [if_neg hmantissa]
      -- there is one undefined number
      exact (hb.eq_packedNaN hfull hmantissa).symm
  · rw [if_neg hfull]
    by_cases hexponent : @unpackExponent .binary64 b = 0#_
    · rw [if_pos hexponent]
      rw [hexponent] at hwhole ⊢
      by_cases hmantissa : @unpackMantissa .binary64 b = 0#_
      · rw [dif_pos hmantissa]
        rw [hmantissa] at hwhole
        exact hwhole
      · rw [dif_neg hmantissa]
        -- a small number, without the leading digit
        have hlog := log2_small hmantissa
        unfold pack
        dsimp only
        rw [exponentBias_eq, hbits, if_neg (by decide), if_neg (by omega), BitVec.ofNat_toNat,
          BitVec.setWidth_eq]
        exact hwhole
    · rw [if_neg hexponent]
      have hpos := exponent_pos hexponent
      have hlt := exponent_lt hfull
      have hbiased : (((@unpackExponent .binary64 b).toNat : Int) - ((1023 : Nat) + (52 : Nat)) +
          (1023 : Nat) + (52 : Nat)).toNat = (@unpackExponent .binary64 b).toNat := by omega
      have hmantissa : BitVec.ofNat 52 (2 ^ 52 + (@unpackMantissa .binary64 b).toNat) =
          @unpackMantissa .binary64 b := by
        apply BitVec.eq_of_toNat_eq
        rw [BitVec.toNat_ofNat, Nat.add_mod_left,
          Nat.mod_eq_of_lt (@unpackMantissa .binary64 b).isLt]
      unfold pack
      dsimp only
      rw [toNat_leading, log2_leading, exponentBias_eq, hbiased, if_neg (by omega),
        if_pos (by decide), hmantissa, BitVec.ofNat_toNat, BitVec.setWidth_eq]
      exact hwhole

/-! ## Rounding what needs no rounding -/

/-- Digits that are all zero are shifted out without a trace. -/
theorem shiftRight_exact (m n : Nat) :
    (⟨2 ^ n * m, false, false⟩ : ExtendedMantissa) >>> n = ⟨m, false, false⟩ := by
  induction n generalizing m with
  | zero =>
    rw [pow_zero, one_mul]
    rfl
  | succ n ih =>
    have hsplit : 2 ^ (n + 1) * m = 2 ^ n * (2 * m) := by rw [pow_succ, mul_assoc]
    have hstep (em : ExtendedMantissa) : em >>> (n + 1) = (em >>> n).shiftRightOne := rfl
    rw [hstep, hsplit, ih]
    simp [ExtendedMantissa.shiftRightOne]

theorem log2_shifted {m : Nat} (hm : 0 < m) (n : Nat) : (2 ^ n * m).log2 = n + m.log2 := by
  rw [Nat.log2_eq_iff (Nat.mul_pos (Nat.two_pow_pos n) hm).ne', Nat.add_assoc, pow_add, pow_add]
  exact ⟨Nat.mul_le_mul_left _ (Nat.log2_self_le hm.ne'),
    Nat.mul_lt_mul_of_pos_left Nat.lt_log2_self (Nat.two_pow_pos n)⟩

/-- Shifted by whole digits, a number is brought back to where it fits. -/
theorem shiftToTargetExponent_exact {m : Nat} {e : Int} (hm : 0 < m) (h : Fits m e) (n : Nat) :
    shiftToTargetExponent .binary64 (2 ^ n * m) (e - n) .exact = (⟨m, false, false⟩, e) := by
  have htotal : totalExponent (2 ^ n * m) (e - n) = totalExponent m e := by
    unfold totalExponent
    rw [log2_shifted hm]
    omega
  have hamount : (e - (e - n)).toNat = n := by omega
  have hexponent : e - n + n = e := by omega
  unfold shiftToTargetExponent shiftToExponent
  rw [htotal, h]
  dsimp only
  rw [hamount, hexponent, ExtendedMantissa.ofMantissaAndAccuracy, shiftRight_exact]

theorem roundWithAccuracy_exact (sign : Sign) {m : Nat} {e : Int} (hm : 0 < m) (h : Fits m e)
    (n : Nat) :
    roundWithAccuracy .binary64 sign (2 ^ n * m) (e - n) .exact = .finite sign m e hm := by
  have hagain := shiftToTargetExponent_exact hm h 0
  rw [pow_zero, one_mul, Nat.cast_zero, Int.sub_zero] at hagain
  unfold roundWithAccuracy
  rw [shiftToTargetExponent_exact hm h n]
  dsimp only [ExtendedMantissa.roundedMantissa, ExtendedMantissa.accuracy,
    Accuracy.roundToNearestEven]
  rw [hagain]
  exact dif_neg hm.ne'

/-! ## One times a number -/

theorem unpack_one : (1.0 : Float).toModel.unpack =
    .finite .positive (2 ^ 52) (-52) (Nat.two_pow_pos 52) := rfl

/-- One times a number is the number. -/
theorem one_mul_float (x : Float) : 1.0 * x = x := by
  have hpositive (sign : Sign) : Sign.positive * sign = sign := by cases sign <;> rfl
  have hunpacked : mul .binary64 (1.0 : Float).toModel.unpack x.toModel.unpack =
      x.toModel.unpack := by
    rw [unpack_one]
    cases hx : x.toModel.unpack with
    | notANumber => rfl
    | infinity sign => exact congrArg _ (hpositive sign)
    | zero sign => exact congrArg _ (hpositive sign)
    | finite sign m e hm =>
      have hround := roundWithAccuracy_exact sign hm (unpack_fits hx) 52
      rw [show e - (52 : Nat) = -52 + e by omega] at hround
      change roundWithAccuracy .binary64 (Sign.positive * sign) _ _ .exact = _
      rw [hpositive]
      exact hround
  apply eq_of_toBits
  change UInt64.ofBitVec (pack .binary64 (mul .binary64 (1.0 : Float).toModel.unpack
    x.toModel.unpack)) = x.toModel.toBits
  rw [hunpacked]
  exact congrArg UInt64.ofBitVec (pack_unpack x.toModel.valid)

end Folio.Number
