-- The shortest decimal of a floating number rounds to that number, and no fraction rounds to two of
-- them. So the text of a floating number, from which the decimal reads back, tells which number it
-- is.
import Folio.Json.Writer
import Folio.Proofs.DecimalTexts
import Mathlib.Data.Rat.Floor
import Mathlib.Tactic.Linarith
import Mathlib.Tactic.Positivity

namespace Folio.Number

/-! ## Fractions that round to a number -/

theorem Interval.holds_of_between {i : Interval} {q : Rat} (hlow : i.low < q) (hhigh : q < i.high) :
    i.holds q = true := by
  unfold Interval.holds
  split <;> simp [hlow, hhigh, hlow.le, hhigh.le]

theorem Interval.between_of_holds {i : Interval} {q : Rat} (h : i.holds q = true) :
    i.low ≤ q ∧ q ≤ i.high := by
  unfold Interval.holds at h
  split at h
  · simpa using h
  · have hopen : i.low < q ∧ q < i.high := by simpa using h
    exact ⟨hopen.1.le, hopen.2.le⟩

/-- An end that belongs to an interval is a closed one. -/
theorem Interval.closed_of_end {i : Interval} {q : Rat} (h : i.holds q = true)
    (hend : q = i.low ∨ q = i.high) : i.closed = true := by
  unfold Interval.holds at h
  split at h
  · assumption
  · rcases hend with rfl | rfl <;> simp at h

theorem onGrid?_holds {i : Interval} {value : Rat} {exponent : Int} {d : Decimal}
    (h : onGrid? i value exponent = some d) : i.holds d.value = true := by
  unfold onGrid? at h
  dsimp only at h
  split at h
  · rename_i hunder habove
    split at h
    · cases h
      exact hunder
    · split at h
      · cases h
        exact habove
      · cases h
        unfold Decimal.value
        dsimp only
        split
        · exact hunder
        · exact habove
  · rename_i hunder habove
    cases h
    exact hunder
  · rename_i hunder habove
    cases h
    exact habove
  · cases h

/-- A grid that is finer than the interval is wide has a point in it. -/
theorem onGrid?_isSome {i : Interval} {value : Rat} {exponent : Int} (hvalue : 0 ≤ value)
    (hlow : i.low < value) (hhigh : value < i.high)
    (hfine : (10 : Rat) ^ exponent < i.high - i.low) : (onGrid? i value exponent).isSome := by
  have hunit : (0 : Rat) < 10 ^ exponent := by positivity
  unfold onGrid?
  dsimp only
  generalize hu : (10 : Rat) ^ exponent = unit at hfine hunit ⊢
  have hquotient : 0 ≤ value / unit := by positivity
  have hfloor : (((value / unit).floor.toNat : Nat) : Rat) = (value / unit).floor := by
    have : 0 ≤ (value / unit).floor := Rat.le_floor_iff.mpr (by simpa using hquotient)
    exact_mod_cast Int.toNat_of_nonneg this
  have hunder : ((value / unit).floor.toNat : Nat) * unit ≤ value := by
    rw [hfloor, ← le_div_iff₀ hunit]
    exact Rat.floor_le _
  have habove : value < (((value / unit).floor.toNat + 1 : Nat) : Rat) * unit := by
    rw [Nat.cast_add, hfloor, ← div_lt_iff₀ hunit]
    simpa using Rat.lt_floor_add_one (value / unit)
  split
  · split
    · rfl
    · split <;> rfl
  · rfl
  · rfl
  · rename_i hnounder hnoabove
    -- neither neighbour lies in the interval, so it lies between them
    have hbelow : ((value / unit).floor.toNat : Nat) * unit ≤ i.low := by
      by_contra hlt
      have hin := Interval.holds_of_between (lt_of_not_ge hlt) (lt_of_le_of_lt hunder hhigh)
      cases hnounder.symm.trans hin
    have hbeyond : i.high ≤ (((value / unit).floor.toNat + 1 : Nat) : Rat) * unit := by
      by_contra hlt
      have hin := Interval.holds_of_between (lt_trans hlow habove) (lt_of_not_ge hlt)
      cases hnoabove.symm.trans hin
    push_cast at hbeyond
    linarith


/-! ## The place of the leading digit -/

theorem tenPower_le : ∀ n < 1200, 2 * 10 ^ (n * 30103 / 100000) ≤ 100 * 2 ^ n := by
  decide +kernel

theorem twoPower_le : ∀ n < 1200, 2 * 2 ^ n ≤ 100 * 10 ^ ((n * 30103 + 99999) / 100000) := by
  decide +kernel

/-- The estimate of the leading place is not too high for numbers of any size that occurs. -/
theorem estimate_le {b : Int} (hlow : -1200 < b) (hhigh : b < 1200) :
    (10 : Rat) ^ (b * 30103 / 100000 - 2) ≤ 2 ^ (b - 1) := by
  rcases Int.eq_nat_or_neg b with ⟨n, rfl | rfl⟩
  · have hpower : (2 : Rat) * 10 ^ (n * 30103 / 100000) ≤ 100 * 2 ^ n := by
      exact_mod_cast tenPower_le n (by omega)
    have hestimate : (n : Int) * 30103 / 100000 = ((n * 30103 / 100000 : Nat) : Int) := by omega
    rw [hestimate, zpow_sub₀ (by norm_num), zpow_sub₀ (by norm_num), zpow_natCast, zpow_natCast]
    rw [div_le_div_iff₀ (by norm_num) (by norm_num)]
    norm_num
    linarith
  · have hpower : (2 : Rat) * 2 ^ n ≤ 100 * 10 ^ ((n * 30103 + 99999) / 100000) := by
      exact_mod_cast twoPower_le n (by omega)
    have hestimate : -(n : Int) * 30103 / 100000 = -(((n * 30103 + 99999) / 100000 : Nat) : Int) := by
      omega
    rw [hestimate, zpow_sub₀ (by norm_num), zpow_sub₀ (by norm_num), zpow_neg, zpow_neg,
      zpow_natCast, zpow_natCast, ← one_div, ← one_div, div_div, div_div,
      div_le_div_iff₀ (by positivity) (by positivity)]
    norm_num
    linarith

/-- A fraction lies next to the power of two that the lengths of its parts give. -/
theorem between_powers {q : Rat} (hpos : 0 < q) :
    (2 : Rat) ^ ((q.num.natAbs.log2 : Int) - q.den.log2 - 1) ≤ q ∧
      q < (2 : Rat) ^ ((q.num.natAbs.log2 : Int) - q.den.log2 + 1) := by
  have hnum : 0 < q.num := Rat.num_pos.mpr hpos
  have hvalue : q = (q.num.natAbs : Rat) / q.den := by
    have habs : ((q.num.natAbs : Int) : Rat) = (q.num : Rat) := by
      rw [Int.natAbs_of_nonneg hnum.le]
    rw [← Int.cast_natCast q.num.natAbs, habs, Rat.num_div_den]
  have hden : (0 : Rat) < q.den := by exact_mod_cast q.den_pos
  have hnumlow : (2 : Rat) ^ q.num.natAbs.log2 ≤ q.num.natAbs := by
    exact_mod_cast Nat.log2_self_le (by omega)
  have hnumhigh : (q.num.natAbs : Rat) < 2 ^ (q.num.natAbs.log2 + 1) := by
    exact_mod_cast Nat.lt_log2_self
  have hdenlow : (2 : Rat) ^ q.den.log2 ≤ q.den := by
    exact_mod_cast Nat.log2_self_le q.den_nz
  have hdenhigh : (q.den : Rat) < 2 ^ (q.den.log2 + 1) := by
    exact_mod_cast Nat.lt_log2_self
  generalize q.num.natAbs.log2 = a at hnumlow hnumhigh ⊢
  generalize q.den.log2 = b at hdenlow hdenhigh ⊢
  have hlow : (2 : Rat) ^ ((a : Int) - b - 1) = 2 ^ a / 2 ^ (b + 1) := by
    rw [← zpow_natCast, ← zpow_natCast, ← zpow_sub₀ (by norm_num)]
    push_cast
    ring_nf
  have hhigh : (2 : Rat) ^ ((a : Int) - b + 1) = 2 ^ (a + 1) / 2 ^ b := by
    rw [← zpow_natCast, ← zpow_natCast, ← zpow_sub₀ (by norm_num)]
    push_cast
    ring_nf
  rw [hlow, hhigh, hvalue]
  constructor
  · gcongr
  · gcongr

/-- The leading place is not above the first digit, for numbers of any size that occurs. -/
theorem pow_leadingPlace_le {q : Rat} (hlow : (2 : Rat) ^ (-1100 : Int) ≤ q)
    (hhigh : q < (2 : Rat) ^ (1100 : Int)) : (10 : Rat) ^ (leadingPlace q - 1) ≤ q := by
  obtain ⟨hbelow, habove⟩ := between_powers (lt_of_lt_of_le (by positivity) hlow)
  have hmost : (q.num.natAbs.log2 : Int) - q.den.log2 - 1 < 1100 :=
    (zpow_lt_zpow_iff_right₀ (by norm_num)).mp (hbelow.trans_lt hhigh)
  have hleast : -1100 < (q.num.natAbs.log2 : Int) - q.den.log2 + 1 :=
    (zpow_lt_zpow_iff_right₀ (by norm_num)).mp (hlow.trans_lt habove)
  have hestimate := (estimate_le (by omega) (by omega)).trans hbelow
  unfold leadingPlace
  dsimp only
  generalize ((q.num.natAbs.log2 : Int) - q.den.log2) * 30103 / 100000 = estimate at hestimate ⊢
  have hplaces : (List.range 4).map (fun (i : Nat) => estimate - 1 + (i : Int)) =
      [estimate - 1, estimate, estimate + 1, estimate + 2] := by
    simp [List.range_succ]
    omega
  rw [hplaces]
  simp only [List.find?_cons]
  by_cases h1 : q < 10 ^ (estimate - 1)
  · have hplace : estimate - 1 - 1 = estimate - 2 := by omega
    simpa [h1, hplace] using hestimate
  -- from the second place on, the place before it was too low
  by_cases h2 : q < 10 ^ estimate
  · simpa [h1, h2] using le_of_not_gt h1
  by_cases h3 : q < 10 ^ (estimate + 1)
  · simpa [h1, h2, h3] using le_of_not_gt h2
  have hplace : estimate + 2 - 1 = estimate + 1 := by omega
  by_cases h4 : q < 10 ^ (estimate + 2)
  · simpa [h1, h2, h3, h4, hplace] using le_of_not_gt h3
  · have hlast : estimate + 3 - 1 = estimate + 2 := by omega
    simpa [h1, h2, h3, h4, hlast] using le_of_not_gt h4

/-! ## Stored numbers -/

/-- The mantissa and the exponent of a positive floating number, as they are stored: below the
leading bit there are only the numbers with the least exponent. -/
structure Stored (mantissa : Nat) (exponent : Int) : Prop where
  pos : 0 < mantissa
  fits : mantissa < 2 ^ 53
  least : leastExponent ≤ exponent
  most : exponent ≤ 971
  leads : leastExponent < exponent → 2 ^ 52 ≤ mantissa

theorem parts?_stored {x : Float} {p : Parts} (h : parts? x = some p) (hpos : 0 < p.mantissa) :
    Stored p.mantissa p.exponent := by
  have hfraction : fractionField x < 2 ^ 52 := Nat.mod_lt _ (by decide)
  have hfield : exponentField x < 2048 := Nat.mod_lt _ (by decide)
  unfold parts? at h
  split at h
  · cases h
  · rename_i hfinite
    have hfinite' : exponentField x ≠ 2047 := by simpa using hfinite
    split at h
    · cases h
      exact ⟨hpos, by dsimp only; omega, le_refl _, (by decide : leastExponent ≤ 971),
        fun hlt => absurd hlt (lt_irrefl _)⟩
    · rename_i hnormal
      have hnormal' : exponentField x ≠ 0 := by simpa using hnormal
      have hlead : Nat.pow 2 fractionBits = 2 ^ 52 := rfl
      cases h
      have hleast : leastExponent = -1074 := rfl
      refine ⟨hpos, ?_, ?_, ?_, ?_⟩ <;> dsimp only <;> omega

theorem Stored.size {mantissa : Nat} {exponent : Int} (h : Stored mantissa exponent) :
    (2 : Rat) ^ (-1100 : Int) ≤ mantissa * 2 ^ exponent ∧
      mantissa * 2 ^ exponent < (2 : Rat) ^ (1100 : Int) := by
  have hleast := h.least
  unfold leastExponent at hleast
  have hone : (1 : Rat) ≤ mantissa := by exact_mod_cast h.pos
  have hfits : (mantissa : Rat) < 2 ^ (53 : Int) := by exact_mod_cast h.fits
  constructor
  · calc (2 : Rat) ^ (-1100 : Int) ≤ 2 ^ exponent := zpow_le_zpow_right₀ (by norm_num) (by omega)
      _ ≤ mantissa * 2 ^ exponent := le_mul_of_one_le_left (by positivity) hone
  · calc (mantissa : Rat) * 2 ^ exponent < 2 ^ (53 : Int) * 2 ^ exponent := by gcongr
      _ = 2 ^ (53 + exponent) := by rw [zpow_add₀ (by norm_num)]
      _ ≤ 2 ^ (1100 : Int) := zpow_le_zpow_right₀ (by norm_num) (by have := h.most; omega)

/-- The interval of a number reaches a quarter of its unit or a half of it down, and a half up. -/
theorem interval_ends (mantissa : Nat) (exponent : Int) :
    (interval mantissa exponent).high = (mantissa + 1 / 2) * 2 ^ exponent ∧
      (¬(mantissa = 2 ^ 52 ∧ leastExponent < exponent) ∧
          (interval mantissa exponent).low = (mantissa - 1 / 2) * 2 ^ exponent ∨
        (mantissa = 2 ^ 52 ∧ leastExponent < exponent) ∧
          (interval mantissa exponent).low = (mantissa - 1 / 4) * 2 ^ exponent) := by
  unfold interval
  dsimp only
  refine ⟨by ring, ?_⟩
  split
  · rename_i hlead
    exact .inr ⟨hlead, by ring⟩
  · rename_i hlead
    exact .inl ⟨hlead, by ring⟩

theorem interval_even {mantissa : Nat} {exponent : Int} {q : Rat}
    (h : (interval mantissa exponent).holds q = true)
    (hend : q = (interval mantissa exponent).low ∨ q = (interval mantissa exponent).high) :
    mantissa % 2 = 0 := by
  simpa [interval] using Interval.closed_of_end h hend

/-- The shortest decimal rounds to the number. -/
theorem shortest_holds {mantissa : Nat} {exponent : Int} (h : Stored mantissa exponent) :
    (interval mantissa exponent).holds (shortest mantissa exponent).value = true := by
  have hunit : (0 : Rat) < 2 ^ exponent := by positivity
  have hpos : (0 : Rat) < mantissa := by exact_mod_cast h.pos
  have hplace := pow_leadingPlace_le h.size.1 h.size.2
  obtain ⟨hhigh, hlow⟩ := interval_ends mantissa exponent
  have hfits : (mantissa : Rat) < 2 ^ 53 := by exact_mod_cast h.fits
  unfold shortest
  dsimp only
  rw [Decimal.trim_value]
  generalize leadingPlace (mantissa * (2 : Rat) ^ exponent) = place at hplace ⊢
  -- seventeen digits are enough
  have hlast : (onGrid? (interval mantissa exponent) (mantissa * 2 ^ exponent)
      (place - 1 - (16 : Nat))).isSome := by
    have hgrid : (10 : Rat) ^ (place - 1 - (16 : Nat)) = 10 ^ (place - 1) / 10 ^ 16 := by
      rw [zpow_sub₀ (by norm_num), zpow_natCast]
    refine onGrid?_isSome (by positivity) ?_ ?_ ?_
    · rcases hlow with ⟨-, hlow⟩ | ⟨-, hlow⟩ <;> rw [hlow] <;> nlinarith
    · rw [hhigh]
      nlinarith
    · rw [hgrid, div_lt_iff₀ (by norm_num), hhigh]
      rcases hlow with ⟨-, hlow⟩ | ⟨⟨hlead, -⟩, hlow⟩
      · rw [hlow]
        nlinarith
      · rw [hlow]
        have hlead' : (mantissa : Rat) = 2 ^ 52 := by exact_mod_cast hlead
        nlinarith
  have hsome : ((List.range 17).findSome? (fun (n : Nat) =>
      onGrid? (interval mantissa exponent) (mantissa * (2 : Rat) ^ exponent)
        (place - 1 - n))).isSome := by
    rw [List.findSome?_isSome_iff]
    exact ⟨16, by decide, hlast⟩
  obtain ⟨d, hd⟩ := Option.isSome_iff_exists.mp hsome
  obtain ⟨n, -, hn⟩ := List.exists_of_findSome?_eq_some hd
  rw [hd]
  exact onGrid?_holds hn

/-- No fraction rounds to two numbers, one of which is greater than the other. -/
theorem Stored.disjoint {m n : Nat} {d e : Int} {q : Rat} (hm : Stored m d) (hn : Stored n e)
    (hless : d < e ∨ d = e ∧ m < n) (hq : (interval m d).holds q = true)
    (hq' : (interval n e).holds q = true) : False := by
  obtain ⟨hhigh, -⟩ := interval_ends m d
  obtain ⟨-, hlow⟩ := interval_ends n e
  have hupper := (Interval.between_of_holds hq).2
  have hlower := (Interval.between_of_holds hq').1
  have hunit : (0 : Rat) < 2 ^ d := by positivity
  rcases hless with hless | ⟨rfl, hless⟩
  · -- the unit of the greater number is at least twice that of the other one
    have hdouble : 2 * (2 : Rat) ^ d ≤ 2 ^ e := by
      have hpower : (2 : Rat) ^ (1 + d) ≤ 2 ^ e := zpow_le_zpow_right₀ (by norm_num) (by omega)
      rwa [zpow_add₀ (by norm_num), zpow_one] at hpower
    have hleads : (2 : Rat) ^ 52 ≤ n := by
      exact_mod_cast hn.leads (lt_of_le_of_lt hm.least hless)
    have hmost : (m : Rat) ≤ 2 ^ 53 - 1 := by
      have hfits : m + 1 ≤ 2 ^ 53 := hm.fits
      have : (m : Rat) + 1 ≤ 2 ^ 53 := by exact_mod_cast hfits
      linarith
    have hreach : (2 ^ 53 - 1 / 2) * (2 : Rat) ^ d ≤ (interval n e).low := by
      rcases hlow with ⟨hnolead, hlow⟩ | ⟨⟨hlead, -⟩, hlow⟩
      · have hbeyond : 2 ^ 52 + 1 ≤ n := by
          have hatleast := hn.leads (lt_of_le_of_lt hm.least hless)
          have hother : n ≠ 2 ^ 52 := fun h => hnolead ⟨h, lt_of_le_of_lt hm.least hless⟩
          omega
        have hbeyond' : (2 : Rat) ^ 52 + 1 ≤ n := by exact_mod_cast hbeyond
        rw [hlow]
        nlinarith
      · have hlead' : (n : Rat) = 2 ^ 52 := by exact_mod_cast hlead
        rw [hlow, hlead']
        nlinarith
    rw [hhigh] at hupper
    have hlast : (m : Rat) = 2 ^ 53 - 1 := by nlinarith
    have hlast' : m = 2 ^ 53 - 1 := by
      have : (m : Rat) + 1 = 2 ^ 53 := by linarith
      have : m + 1 = 2 ^ 53 := by exact_mod_cast this
      omega
    have hend : q = (interval m d).high := by
      rw [hhigh]
      rw [hlast] at hupper ⊢
      linarith
    have heven := interval_even hq (.inr hend)
    omega
  · have hstep : (m : Rat) + 1 ≤ n := by exact_mod_cast hless
    rcases hlow with ⟨-, hlow⟩ | ⟨-, hlow⟩
    · rw [hlow] at hlower
      rw [hhigh] at hupper
      have hnext : (n : Rat) = m + 1 := by nlinarith
      have hn' : n = m + 1 := by exact_mod_cast hnext
      have hmiddle : q = (m + 1 / 2) * 2 ^ d := by
        rw [hnext] at hlower
        linarith
      have heven := interval_even hq (.inr (hmiddle.trans hhigh.symm))
      have heven' := interval_even hq' (.inl (by rw [hmiddle, hlow, hnext]; ring))
      omega
    · rw [hlow] at hlower
      rw [hhigh] at hupper
      nlinarith

/-- A fraction rounds to one number only. -/
theorem Stored.eq_of_holds {m n : Nat} {d e : Int} {q : Rat} (hm : Stored m d) (hn : Stored n e)
    (hq : (interval m d).holds q = true) (hq' : (interval n e).holds q = true) :
    m = n ∧ d = e := by
  rcases lt_trichotomy d e with hless | rfl | hless
  · exact (hm.disjoint hn (.inl hless) hq hq').elim
  · rcases lt_trichotomy m n with hless | rfl | hless
    · exact (hm.disjoint hn (.inr ⟨rfl, hless⟩) hq hq').elim
    · exact ⟨rfl, rfl⟩
    · exact (hn.disjoint hm (.inr ⟨rfl, hless⟩) hq' hq).elim
  · exact (hn.disjoint hm (.inl hless) hq' hq).elim

/-! ## Bits -/

theorem eq_of_toBits {x y : Float} (h : x.toBits = y.toBits) : x = y := by
  obtain ⟨⟨a, ha⟩⟩ := x
  obtain ⟨⟨b, hb⟩⟩ := y
  cases (h : a = b)
  rfl

/-- A floating number is its sign, its exponent and its fraction. -/
theorem eq_of_bits {x y : Float} (hsign : signBit x = signBit y)
    (hexponent : exponentField x = exponentField y)
    (hfraction : fractionField x = fractionField y) : x = y := by
  have hx := x.toBits.toNat_lt
  have hy := y.toBits.toNat_lt
  have hsign' : 2 ^ 63 ≤ x.toBits.toNat ↔ 2 ^ 63 ≤ y.toBits.toNat := decide_eq_decide.mp hsign
  have hexponent' : x.toBits.toNat / 2 ^ 52 % 2048 = y.toBits.toNat / 2 ^ 52 % 2048 := hexponent
  have hfraction' : x.toBits.toNat % 2 ^ 52 = y.toBits.toNat % 2 ^ 52 := hfraction
  apply eq_of_toBits
  apply UInt64.toNat_inj.mp
  omega

open Float.Model Float.Model.UnpackedFloat in
/-- There is one undefined number. -/
theorem undefined_bits {x : Float} (hexponent : exponentField x = 2047)
    (hfraction : fractionField x ≠ 0) : x.toBits.toBitVec = packedNaN .binary64 := by
  have he : (@unpackExponent .binary64 x.toBits.toBitVec).toNat = exponentField x := by
    unfold unpackExponent
    rw [BitVec.toNat_cast, BitVec.extractLsb_toNat, Nat.shiftRight_eq_div_pow]
    rfl
  have hf : (@unpackMantissa .binary64 x.toBits.toBitVec).toNat = fractionField x := by
    unfold unpackMantissa
    rw [BitVec.toNat_cast, BitVec.extractLsb_toNat, Nat.shiftRight_eq_div_pow, pow_zero,
      Nat.div_one]
    rfl
  apply x.toModel.valid.eq_packedNaN
  · apply BitVec.eq_of_toNat_eq
    exact he.trans hexponent
  · intro hzero
    exact hfraction (hf.symm.trans (congrArg BitVec.toNat hzero))

theorem parts?_eq_none {x : Float} (h : parts? x = none) : exponentField x = 2047 := by
  unfold parts? at h
  split at h
  · rename_i hfield
    simpa using hfield
  · split at h <;> cases h

/-- A finite number is its parts. -/
theorem parts?_injective {x y : Float} {p : Parts} (hx : parts? x = some p)
    (hy : parts? y = some p) : x = y := by
  have hfx : fractionField x < 2 ^ 52 := Nat.mod_lt _ (by decide)
  have hfy : fractionField y < 2 ^ 52 := Nat.mod_lt _ (by decide)
  have hlead : Nat.pow 2 fractionBits = 2 ^ 52 := rfl
  unfold parts? at hx hy
  split at hx
  · cases hx
  · split at hy
    · cases hy
    · split at hx <;> split at hy <;> cases hx <;> simp only [Option.some.injEq, Parts.mk.injEq] at hy
      · rename_i hzx hzy
        exact eq_of_bits hy.1.symm ((eq_of_beq hzx).trans (eq_of_beq hzy).symm) hy.2.1.symm
      · omega
      · omega
      · exact eq_of_bits hy.1.symm (by omega) (by omega)

/-! ## The text of a floating number -/

/-- The size of a finite number, zero included, rounds from a fraction. -/
def Parts.RoundsFrom (p : Parts) (q : Rat) : Prop :=
  if p.mantissa = 0 then q = 0 else (interval p.mantissa p.exponent).holds q = true

theorem floatText_some {x : Float} {p : Parts} (h : parts? x = some p) :
    ∃ text s, Json.floatText x = (if p.negative then ['-'] else []) ++ text ∧
      scientific? text = some s ∧ p.RoundsFrom s.value := by
  have hmagnitude : magnitude x = .finite p.value := by
    unfold magnitude
    rw [h]
  unfold Json.floatText floatText Parts.RoundsFrom
  rw [hmagnitude, h]
  dsimp only
  by_cases hzero : p.mantissa = 0
  · refine ⟨['0', '.', '0'], ⟨['0', '0'], -1⟩, ?_, rfl, ?_⟩
    · simp [hzero]
    · rw [if_pos hzero]
      simp [Scientific.value, valueOf]
  · obtain ⟨s, hread, hvalue⟩ :=
      scientific?_text plainLayout (shortest p.mantissa p.exponent)
    refine ⟨_, s, by simp [hzero], hread, ?_⟩
    rw [if_neg hzero, hvalue]
    exact shortest_holds (parts?_stored h (Nat.pos_of_ne_zero hzero))

/-- The sign in front of a decimal is read off. -/
theorem signOf_signed {text : List Char} {s : Scientific} (h : scientific? text = some s)
    (negative : Bool) :
    signOf ((if negative then ['-'] else []) ++ text) = (negative, text) := by
  cases negative with
  | true => rfl
  | false =>
    -- a sign would not read as a decimal
    unfold signOf
    split
    · rename_i rest hsigned
      rw [show text = '-' :: rest from hsigned] at h
      cases h
    · rename_i rest hsigned
      rw [show text = '+' :: rest from hsigned] at h
      cases h
    · rfl

theorem floatText_none {x : Float} (h : parts? x = none) :
    Json.floatText x = if fractionField x = 0 then
      (if signBit x then "-Infinity" else "Infinity").toList else "NaN".toList := by
  unfold Json.floatText magnitude
  rw [h]
  dsimp only
  by_cases hzero : fractionField x = 0 <;> simp [hzero]

theorem parts?_zero {x : Float} {p : Parts} (h : parts? x = some p) (hzero : p.mantissa = 0) :
    p.exponent = leastExponent := by
  unfold parts? at h
  split at h
  · cases h
  · split at h
    · cases h
      rfl
    · cases h
      have hlead : Nat.pow 2 fractionBits = 2 ^ 52 := rfl
      dsimp only at hzero
      omega

theorem zero_not_held {m : Nat} {e : Int} (h : Stored m e) : (interval m e).holds 0 = false := by
  by_contra hheld
  have hlower := (Interval.between_of_holds (Bool.of_not_eq_false hheld)).1
  have hunit : (0 : Rat) < 2 ^ e := by positivity
  have hone : (1 : Rat) ≤ m := by exact_mod_cast h.pos
  obtain ⟨-, ⟨-, hlow⟩ | ⟨-, hlow⟩⟩ := interval_ends m e <;> rw [hlow] at hlower <;> nlinarith

/-- A fraction is the text of one size only. -/
theorem size_eq_of_roundsFrom {x y : Float} {p r : Parts} {q : Rat} (hx : parts? x = some p)
    (hy : parts? y = some r) (hp : p.RoundsFrom q) (hr : r.RoundsFrom q) :
    p.mantissa = r.mantissa ∧ p.exponent = r.exponent := by
  unfold Parts.RoundsFrom at hp hr
  by_cases hpzero : p.mantissa = 0 <;> by_cases hrzero : r.mantissa = 0 <;>
    simp only [hpzero, hrzero, if_true, if_false] at hp hr
  · exact ⟨hpzero.trans hrzero.symm, (parts?_zero hx hpzero).trans (parts?_zero hy hrzero).symm⟩
  · rw [hp, zero_not_held (parts?_stored hy (Nat.pos_of_ne_zero hrzero))] at hr
    cases hr
  · rw [hr, zero_not_held (parts?_stored hx (Nat.pos_of_ne_zero hpzero))] at hp
    cases hp
  · exact (parts?_stored hx (Nat.pos_of_ne_zero hpzero)).eq_of_holds
      (parts?_stored hy (Nat.pos_of_ne_zero hrzero)) hp hr

/-- The words for numbers that are not finite read as no decimal. -/
theorem floatText_ne {x y : Float} {p : Parts} (hx : parts? x = some p) (hy : parts? y = none) :
    Json.floatText x ≠ Json.floatText y := by
  intro h
  obtain ⟨text, s, htext, hread, -⟩ := floatText_some hx
  have hsign := signOf_signed hread p.negative
  rw [← htext, h, floatText_none hy] at hsign
  have hunread : scientific? (signOf (if fractionField y = 0 then
      (if signBit y then "-Infinity" else "Infinity").toList else "NaN".toList)).2 = none := by
    split
    · split <;> rfl
    · rfl
  rw [hsign, hread] at hunread
  cases hunread

/-- The text of a floating number tells which number it is. -/
theorem floatText_injective : Function.Injective Json.floatText := by
  intro x y h
  cases hx : parts? x with
  | some p =>
    cases hy : parts? y with
    | some r =>
      obtain ⟨text, s, htext, hread, hrounds⟩ := floatText_some hx
      obtain ⟨text', s', htext', hread', hrounds'⟩ := floatText_some hy
      rw [htext, htext'] at h
      have hsigned := congrArg signOf h
      rw [signOf_signed hread, signOf_signed hread', Prod.mk.injEq] at hsigned
      obtain ⟨hnegative, rfl⟩ := hsigned
      cases hread.symm.trans hread'
      obtain ⟨hmantissa, hexponent⟩ := size_eq_of_roundsFrom hx hy hrounds hrounds'
      have hparts : p = r := by
        cases p
        cases r
        simp_all
      exact parts?_injective hx (hparts ▸ hy)
    | none => exact (floatText_ne hx hy h).elim
  | none =>
    cases hy : parts? y with
    | some r => exact (floatText_ne hy hx h.symm).elim
    | none =>
      have hexponent := (parts?_eq_none hx).trans (parts?_eq_none hy).symm
      rw [floatText_none hx, floatText_none hy] at h
      by_cases hzero : fractionField x = 0 <;> by_cases hzero' : fractionField y = 0
      · refine eq_of_bits ?_ hexponent (hzero.trans hzero'.symm)
        cases hsx : signBit x <;> cases hsy : signBit y <;> simp_all
      · cases hsx : signBit x <;> simp [hzero, hzero', hsx] at h
      · cases hsy : signBit y <;> simp [hzero, hzero', hsy] at h
      · apply eq_of_toBits
        apply UInt64.toBitVec_inj.mp
        rw [undefined_bits (parts?_eq_none hx) hzero, undefined_bits (parts?_eq_none hy) hzero']

end Folio.Number
