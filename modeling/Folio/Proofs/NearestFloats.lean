-- The floating number nearest to a fraction. A fraction that a floating number stands for exactly is
-- rounded to that number, and every fraction that is not beyond the largest floating number by half a
-- unit or more has one nearest to it.
import Folio.Number.Nearest
import Folio.Proofs.UnitFactors

namespace Folio.Number

open Float.Model (Format)
open Float.Model.UnpackedFloat (unpackExponent)

/-! ## The unit of a fraction -/

/-- Counted in its unit a fraction has 53 binary digits at most, and just as many unless the unit is
the least one. -/
theorem unitExponent_spec {q : Rat} (hpos : 0 < q) :
    leastExponent ≤ unitExponent q ∧ q < 2 ^ (unitExponent q + 53) ∧
      (leastExponent < unitExponent q → 2 ^ (unitExponent q + 52) ≤ q) := by
  obtain ⟨hbelow, habove⟩ := between_powers hpos
  unfold unitExponent
  dsimp only
  generalize (q.num.natAbs.log2 : Int) - q.den.log2 = l at hbelow habove ⊢
  rw [Int.sub_add_cancel]
  split
  · rename_i hlt
    refine ⟨le_max_right _ _, ?_, ?_⟩
    · exact hlt.trans_le (zpow_le_zpow_right₀ (by norm_num) (by omega))
    · intro hleast
      have heq : max (l - 53) leastExponent + 52 = l - 1 := by omega
      rwa [heq]
  · rename_i hle
    refine ⟨le_max_right _ _, ?_, ?_⟩
    · exact habove.trans_le (zpow_le_zpow_right₀ (by norm_num) (by omega))
    · intro hleast
      have heq : max (l - 53 + 1) leastExponent + 52 = l := by omega
      rw [heq]
      exact not_lt.mp hle

/-- The unit of a fraction that is stored is the one in which it is stored. -/
theorem unitExponent_stored {m : Nat} {e : Int} (h : Stored m e) :
    unitExponent (m * (2 : Rat) ^ e) = e := by
  have hm : (1 : Rat) ≤ m := by exact_mod_cast h.pos
  have hpos : (0 : Rat) < m * 2 ^ e := by positivity
  obtain ⟨hleast, habove, hbelow⟩ := unitExponent_spec hpos
  generalize unitExponent (m * (2 : Rat) ^ e) = u at hleast habove hbelow ⊢
  have hsmall : (m : Rat) * 2 ^ e < 2 ^ (53 + e) := by
    have hfits : (m : Rat) < 2 ^ (53 : Int) := by exact_mod_cast h.fits
    rw [zpow_add₀ (by norm_num)]
    gcongr
  apply le_antisymm
  · by_contra hlt
    have hpower := (hbelow (by have := h.least; omega)).trans_lt hsmall
    have := (zpow_lt_zpow_iff_right₀ (by norm_num : (1 : Rat) < 2)).mp hpower
    omega
  · by_contra hlt
    have hlead : (2 : Rat) ^ (52 : Int) ≤ m := by exact_mod_cast h.leads (by omega)
    have hlarge : (2 : Rat) ^ (52 + e) ≤ m * 2 ^ e := by
      rw [zpow_add₀ (by norm_num)]
      gcongr
    have := (zpow_lt_zpow_iff_right₀ (by norm_num : (1 : Rat) < 2)).mp (hlarge.trans_lt habove)
    omega

/-! ## Rounding -/

@[simp] theorem roundHalfEven_natCast (n : Nat) : roundHalfEven n = n := by
  have hfloor : (n : Rat).floor = n := by simpa using Rat.floor_intCast n
  simp [roundHalfEven, hfloor]

/-- Less than half a unit is not rounded up. -/
theorem roundHalfEven_le {q : Rat} {n : Nat} (hq : 0 ≤ q) (h : q < n + 1 / 2) :
    roundHalfEven q ≤ n := by
  have hfloor : ((q.floor.toNat : Int) : Rat) ≤ q := by
    rw [Int.toNat_of_nonneg (Rat.le_floor_iff.mpr (by simpa using hq))]
    exact Rat.floor_le q
  unfold roundHalfEven
  dsimp only
  generalize q.floor.toNat = below at hfloor ⊢
  have hbelow : (below : Rat) ≤ q := by exact_mod_cast hfloor
  have hn : below ≤ n := by
    have hlt : (below : Rat) < n + 1 := by linarith
    exact Nat.lt_add_one_iff.mp (by exact_mod_cast hlt)
  -- a whole number that is not below may only be reached with half a unit left
  have hrest : ¬ q - below < 1 / 2 → below + 1 ≤ n := by
    intro hhalf
    have hlt : (below : Rat) < n := by linarith
    exact_mod_cast hlt
  split
  · exact hn
  · rename_i hhalf
    split
    · split
      · exact hn
      · exact hrest hhalf
    · exact hrest hhalf

/-! ## The bits of a nearest number -/

/-- The bits of a size: the exponent counted from the least one, and the mantissa. -/
theorem nearestBits?_eq {q : Rat} (hq : q ≠ 0) : nearestBits? q =
    if (unitExponent q + 1074).toNat * 2 ^ 52 + roundHalfEven (q / 2 ^ unitExponent q) < 2047 * 2 ^ 52
    then some ((unitExponent q + 1074).toNat * 2 ^ 52 + roundHalfEven (q / 2 ^ unitExponent q))
    else none := by
  have hleast (e : Int) : e - leastExponent = e + 1074 := by unfold leastExponent; omega
  unfold nearestBits?
  rw [if_neg hq]
  dsimp only
  rw [hleast]
  rfl

theorem nearestBits?_stored {m : Nat} {e : Int} (h : Stored m e) :
    nearestBits? (m * (2 : Rat) ^ e) = some ((e + 1074).toNat * 2 ^ 52 + m) := by
  have hm : (m : Rat) ≠ 0 := by exact_mod_cast h.pos.ne'
  have hpower : (2 : Rat) ^ e ≠ 0 := by positivity
  have hfits := h.fits
  have hmost := h.most
  rw [nearestBits?_eq (mul_ne_zero hm hpower), unitExponent_stored h, mul_div_cancel_right₀ _ hpower,
    roundHalfEven_natCast, if_pos (by omega)]

/-- The bits of a finite number, which are read as they are. -/
theorem toNat_ofBits {bits : Nat} (negative : Bool) (h : bits < 2047 * 2 ^ 52) :
    (ofBits negative bits).toBits.toNat = bits + if negative then 2 ^ 63 else 0 := by
  have hroom : bits + (if negative then 2 ^ 63 else 0) < 2 ^ 64 := by cases negative <;> simp <;> omega
  generalize hn : bits + (if negative then 2 ^ 63 else 0) = n at hroom ⊢
  have hsame : (UInt64.ofNat n).toNat = n := by simpa using Nat.mod_eq_of_lt hroom
  have hvalid : Format.binary64.Valid (UInt64.ofNat n).toBitVec := by
    refine ⟨fun hfull => ?_⟩
    have hexponent := congrArg BitVec.toNat hfull
    unfold unpackExponent at hexponent
    rw [BitVec.toNat_cast, BitVec.extractLsb_toNat, Nat.shiftRight_eq_div_pow] at hexponent
    have hfield : n / 2 ^ 52 % 2 ^ 11 = 2047 := by
      rw [← hsame]
      exact hexponent
    cases negative <;> simp at hn <;> omega
  have hpacked := pack_unpack hvalid
  have hbits : (ofBits negative bits).toBits.toBitVec = (UInt64.ofNat n).toBitVec := by
    rw [← hn] at hpacked ⊢
    exact hpacked
  rw [← UInt64.toNat_toBitVec, hbits, UInt64.toNat_toBitVec, hsame]

theorem parts?_ofBits {m : Nat} {e : Int} (h : Stored m e) (negative : Bool) :
    parts? (ofBits negative ((e + 1074).toNat * 2 ^ 52 + m)) = some ⟨negative, m, e⟩ := by
  have hfits := h.fits
  have hmost := h.most
  have hleast : -1074 ≤ e := h.least
  have hleads : -1074 < e → 2 ^ 52 ≤ m := h.leads
  have hbits := toNat_ofBits negative (by omega : (e + 1074).toNat * 2 ^ 52 + m < 2047 * 2 ^ 52)
  generalize ofBits negative ((e + 1074).toNat * 2 ^ 52 + m) = x at hbits ⊢
  have hsign : signBit x = negative := by
    change decide (2 ^ 63 ≤ x.toBits.toNat) = negative
    rw [hbits]
    cases negative
    · simp
      omega
    · simp
  have hexponent : exponentField x = (e + 1074).toNat + m / 2 ^ 52 := by
    change x.toBits.toNat / 2 ^ 52 % 2048 = _
    rw [hbits]
    cases negative <;> simp <;> omega
  have hfraction : fractionField x = m % 2 ^ 52 := by
    change x.toBits.toNat % 2 ^ 52 = _
    rw [hbits]
    cases negative
    · simp
    · simp
      omega
  have hlead : Nat.pow 2 fractionBits = 2 ^ 52 := rfl
  have hexponents : leastExponent = -1074 := rfl
  unfold parts?
  rw [hsign, hexponent, hfraction, hlead, hexponents]
  by_cases hsmall : m < 2 ^ 52
  · have he : e = -1074 := by omega
    subst he
    have hfield : (-1074 + 1074 : Int).toNat + m / 2 ^ 52 = 0 := by omega
    rw [hfield, Nat.mod_eq_of_lt hsmall]
    rfl
  · have hzero : (e + 1074).toNat + m / 2 ^ 52 ≠ 0 := by omega
    have hfull : (e + 1074).toNat + m / 2 ^ 52 ≠ 2047 := by omega
    rw [if_neg (by simpa using hfull), if_neg (by simpa using hzero)]
    simp
    omega

/-! ## What is exact -/

/-- A number that is not zero is the one nearest to its value. -/
theorem nearest?_value {x : Float} {p : Parts} (h : parts? x = some p) (hpos : 0 < p.mantissa) :
    nearest? p.value = some x := by
  obtain ⟨negative, m, e⟩ := p
  have hstored : Stored m e := parts?_stored h hpos
  have hm : (0 : Rat) < m := by exact_mod_cast hpos
  have hsize : (0 : Rat) < m * 2 ^ e := by positivity
  have hsame : ofBits negative ((e + 1074).toNat * 2 ^ 52 + m) = x :=
    parts?_injective (parts?_ofBits hstored negative) h
  unfold nearest? Parts.value
  cases negative with
  | true =>
    have hvalue : (-1 : Rat) * m * 2 ^ e = -(m * 2 ^ e) := by ring
    have hneg : -((m : Rat) * 2 ^ e) < 0 := by linarith
    simp only [if_true, hvalue, hneg, neg_neg, nearestBits?_stored hstored, Option.map_some,
      decide_true, hsame]
  | false =>
    have hvalue : (1 : Rat) * m * 2 ^ e = m * 2 ^ e := by ring
    have hneg : ¬ (m : Rat) * 2 ^ e < 0 := by linarith
    simp only [Bool.false_eq_true, if_false, hvalue, hneg, nearestBits?_stored hstored,
      Option.map_some, decide_false, hsame]

/-- The number nearest to the value of a floating number has this value. -/
theorem nearest?_exact {x : Float} {q : Rat} (h : magnitude x = .finite q) :
    ∃ y, nearest? q = some y ∧ magnitude y = .finite q := by
  unfold magnitude at h
  cases hp : parts? x with
  | none =>
    rw [hp] at h
    dsimp only at h
    split at h <;> cases h
  | some p =>
    rw [hp] at h
    have hq : p.value = q := by simpa using h
    by_cases hzero : p.mantissa = 0
    · have hq0 : q = 0 := by rw [← hq, Parts.value, hzero]; simp
      subst hq0
      refine ⟨ofBits false 0, by simp [nearest?, nearestBits?], by decide +kernel⟩
    · refine ⟨x, hq ▸ nearest?_value hp (Nat.pos_of_ne_zero hzero), ?_⟩
      rw [magnitude, hp, ← hq]

/-- A number that is nearest to something is defined. -/
theorem nearest?_defined {q : Rat} {x : Float} (h : nearest? q = some x) : magnitude x ≠ .undefined := by
  unfold nearest? at h
  generalize decide (q < 0) = negative at h
  generalize (if q < 0 then -q else q) = size at h
  obtain ⟨bits, hbits, rfl⟩ := Option.map_eq_some_iff.mp h
  have hbound : bits < 2047 * 2 ^ 52 := by
    by_cases hzero : size = 0
    · simp only [nearestBits?, hzero, if_true, Option.some.injEq] at hbits
      omega
    · rw [nearestBits?_eq hzero] at hbits
      split at hbits
      · cases hbits
        assumption
      · cases hbits
  have hfield : exponentField (ofBits negative bits) ≠ 2047 := by
    change (ofBits negative bits).toBits.toNat / 2 ^ 52 % 2048 ≠ 2047
    rw [toNat_ofBits negative hbound]
    cases negative <;> simp <;> omega
  intro hundefined
  unfold magnitude at hundefined
  cases hparts : parts? (ofBits negative bits) with
  | none => exact hfield (parts?_eq_none hparts)
  | some p =>
    rw [hparts] at hundefined
    cases hundefined

/-! ## What is within range -/

/-- Half a unit beyond the largest floating number. -/
def rangeEnd : Nat := 2 ^ 1024 - 2 ^ 970

theorem unitExponent_le {q : Rat} (hpos : 0 < q) (h : q < rangeEnd) : unitExponent q ≤ 971 := by
  by_contra hlt
  obtain ⟨-, -, hbelow⟩ := unitExponent_spec hpos
  have hleast : leastExponent = -1074 := rfl
  have hpower : (2 : Rat) ^ (1024 : Int) ≤ 2 ^ (unitExponent q + 52) :=
    zpow_le_zpow_right₀ (by norm_num) (by omega)
  have hend : (rangeEnd : Rat) < 2 ^ (1024 : Int) := by
    have hnat : rangeEnd < 2 ^ 1024 := by decide +kernel
    exact_mod_cast hnat
  have := hpower.trans (hbelow (by omega))
  linarith

/-- A fraction within range has a nearest number. -/
theorem nearestBits?_isSome {q : Rat} (hq : 0 ≤ q) (h : q < rangeEnd) : (nearestBits? q).isSome := by
  by_cases hzero : q = 0
  · simp [nearestBits?, hzero]
  have hpos : 0 < q := lt_of_le_of_ne hq (Ne.symm hzero)
  have hmost := unitExponent_le hpos h
  obtain ⟨hleast, habove, -⟩ := unitExponent_spec hpos
  have hleast' : -1074 ≤ unitExponent q := hleast
  rw [nearestBits?_eq hzero]
  generalize unitExponent q = u at hmost habove hleast' ⊢
  have hunit : (0 : Rat) < 2 ^ u := by positivity
  have hquotient : 0 ≤ q / 2 ^ u := by positivity
  have hbound : (u + 1074).toNat * 2 ^ 52 + roundHalfEven (q / 2 ^ u) < 2047 * 2 ^ 52 := by
    by_cases hlast : u = 971
    · -- in the largest unit there is room for 53 digits, which half a unit must not fill up
      have hless : q / 2 ^ u < ((2 ^ 53 - 1 : Nat) : Rat) + 1 / 2 := by
        rw [div_lt_iff₀ hunit, hlast]
        have hend : ((rangeEnd : Nat) : Rat) = ((2 ^ 53 - 1 : Nat) + 1 / 2) * 2 ^ (971 : Int) := by
          have hnat : rangeEnd = (2 ^ 54 - 1) * 2 ^ 970 := by decide +kernel
          have hsplit : (2 : Rat) ^ (971 : Int) = 2 ^ 970 * 2 := by
            rw [← zpow_natCast (2 : Rat) 970, ← zpow_add_one₀ (by norm_num)]
            rfl
          rw [hnat, hsplit, Nat.cast_mul, Nat.cast_pow, Nat.cast_ofNat]
          generalize (2 : Rat) ^ 970 = unit
          push_cast
          ring
        rwa [← hend]
      have hround := roundHalfEven_le hquotient hless
      omega
    · have hless : q / 2 ^ u < ((2 ^ 53 : Nat) : Rat) + 1 / 2 := by
        rw [div_lt_iff₀ hunit]
        rw [zpow_add₀ (by norm_num)] at habove
        have hfull : ((2 ^ 53 : Nat) : Rat) = 2 ^ (53 : Int) := by norm_num
        rw [hfull]
        linarith
      have hround := roundHalfEven_le hquotient hless
      omega
  rw [if_pos hbound]
  rfl

theorem ofInt?_isSome {n : Int} (h : n.natAbs < rangeEnd) : (ofInt? n).isSome := by
  have habs : (if (n : Rat) < 0 then -(n : Rat) else n) = (n.natAbs : Rat) := by
    have hcast : ((n.natAbs : Int) : Rat) = |(n : Rat)| := by
      rw [Int.natCast_natAbs, Int.cast_abs]
    rw [← Int.cast_natCast, hcast]
    split
    · rename_i hneg
      exact (abs_of_neg hneg).symm
    · rename_i hneg
      exact (abs_of_nonneg (not_lt.mp hneg)).symm
  unfold ofInt? nearest?
  rw [Option.isSome_map, habs]
  exact nearestBits?_isSome (Nat.cast_nonneg _) (by exact_mod_cast h)

end Folio.Number
