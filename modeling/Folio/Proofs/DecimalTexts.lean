-- The text of a decimal reads back as the fraction that the decimal stands for: wherever the point
-- is put, and whether or not a power of ten is written out, no figure is lost.
import Folio.Number.Decimal
import Folio.Number.Reading
import Mathlib.Algebra.Order.Field.Power
import Mathlib.Tactic.Ring

namespace Folio

/-! ## The first part of a text -/

namespace Text

variable {p : Char → Bool} {s t : List Char}

theorem takeWhile_append (hs : ∀ c ∈ s, p c = true) (ht : ∀ c ∈ t.head?, p c = false) :
    (s ++ t).takeWhile p = s := by
  rw [List.takeWhile_append_of_pos hs]
  rcases t with _ | ⟨c, rest⟩
  · simp
  · rw [List.takeWhile_cons_of_neg (by simpa using ht c rfl), List.append_nil]

theorem dropWhile_append (hs : ∀ c ∈ s, p c = true) (ht : ∀ c ∈ t.head?, p c = false) :
    (s ++ t).dropWhile p = t := by
  rw [List.dropWhile_append_of_pos hs]
  rcases t with _ | ⟨c, rest⟩
  · rfl
  · rw [List.dropWhile_cons_of_neg (by simpa using ht c rfl)]

end Text

namespace Number

/-! ## Digits -/

/-- A text of decimal digits. -/
def Figures (text : List Char) : Prop := ∀ c ∈ text, c.isDigit = true

theorem Figures.append {s t : List Char} (hs : Figures s) (ht : Figures t) : Figures (s ++ t) := by
  intro c hc
  rcases List.mem_append.mp hc with h | h
  · exact hs c h
  · exact ht c h

theorem toNat_digitChar (d : Nat) (h : d < 10) : (digitChar d).toNat - 48 = d := by
  revert d
  decide

theorem isDigit_digitChar (d : Nat) (h : d < 10) : (digitChar d).isDigit = true := by
  revert d
  decide

theorem figures_digits (n : Nat) : Figures (digits n) := by
  fun_induction digits n with
  | case1 n h => simpa [Figures] using isDigit_digitChar n h
  | case2 n h ih =>
    refine ih.append ?_
    simpa [Figures] using isDigit_digitChar (n % 10) (by omega)

theorem figures_zeros (n : Nat) : Figures (List.replicate n '0') := by
  intro c hc
  rw [List.eq_of_mem_replicate hc]
  rfl

theorem digits_ne_nil (n : Nat) : digits n ≠ [] := by
  unfold digits
  split <;> simp

theorem foldl_figures (n : Nat) (text : List Char) :
    text.foldl (fun n c => 10 * n + (c.toNat - 48)) n = n * 10 ^ text.length + valueOf text := by
  induction text generalizing n with
  | nil => simp [valueOf]
  | cons c rest ih =>
    have hzero := ih (10 * 0 + (c.toNat - 48))
    unfold valueOf at hzero ⊢
    rw [List.foldl_cons, List.foldl_cons, ih, hzero, List.length_cons, pow_succ]
    unfold valueOf
    ring

theorem valueOf_append (s t : List Char) :
    valueOf (s ++ t) = valueOf s * 10 ^ t.length + valueOf t := by
  unfold valueOf
  rw [List.foldl_append, foldl_figures]
  rfl

theorem valueOf_zeros (n : Nat) : valueOf (List.replicate n '0') = 0 := by
  induction n with
  | zero => rfl
  | succ n ih =>
    rw [List.replicate_succ', valueOf_append, ih]
    simp [valueOf]

theorem valueOf_digits (n : Nat) : valueOf (digits n) = n := by
  fun_induction digits n with
  | case1 n h => simpa [valueOf] using toNat_digitChar n h
  | case2 n h ih =>
    rw [valueOf_append, ih]
    have hlast : valueOf [digitChar (n % 10)] = n % 10 := by
      simpa [valueOf] using toNat_digitChar (n % 10) (by omega)
    rw [hlast, List.length_singleton]
    omega

theorem signOf_figures {text : List Char} (h : Figures text) : signOf text = (false, text) := by
  unfold signOf
  split
  · exact absurd (h '-' (by simp)) (by decide)
  · exact absurd (h '+' (by simp)) (by decide)
  · rfl

/-- The text of a whole number reads back. -/
theorem signed_wholeText (n : Int) :
    signed (signOf (wholeText n)).1 (valueOf (signOf (wholeText n)).2) = n := by
  unfold wholeText
  split
  · simp only [signOf, signed, valueOf_digits, if_true]
    omega
  · rw [signOf_figures (figures_digits n.natAbs)]
    simp only [signed, valueOf_digits, Bool.false_eq_true, if_false]
    omega

theorem wholeText_injective : Function.Injective wholeText := by
  intro m n h
  rw [← signed_wholeText m, h, signed_wholeText]

/-! ## What a decimal stands for -/

/-- The fraction that a decimal stands for. -/
def Decimal.value (d : Decimal) : Rat := d.digits * (10 : Rat) ^ d.exponent

/-- The fraction that a decimal in parts stands for. -/
def Scientific.value (s : Scientific) : Rat := valueOf s.figures * (10 : Rat) ^ s.exponent

theorem Decimal.trim_value (fuel : Nat) (d : Decimal) : (d.trim fuel).value = d.value := by
  fun_induction Decimal.trim fuel d with
  | case1 d => rfl
  | case2 d fuel h ih =>
    obtain ⟨k, hk⟩ := Nat.dvd_of_mod_eq_zero h.2
    rw [ih]
    unfold Decimal.value
    rw [hk, Nat.mul_div_cancel_left k (by omega), zpow_add₀ (by norm_num), Nat.cast_mul]
    ring
  | case3 d fuel h => rfl

/-! ## Reading a decimal back -/

theorem takeWhile_figures {s t : List Char} (hs : Figures s)
    (ht : ∀ c ∈ t.head?, c.isDigit = false) : (s ++ t).takeWhile Char.isDigit = s :=
  Text.takeWhile_append hs ht

theorem dropWhile_figures {s t : List Char} (hs : Figures s)
    (ht : ∀ c ∈ t.head?, c.isDigit = false) : (s ++ t).dropWhile Char.isDigit = t :=
  Text.dropWhile_append hs ht

/-- Whole figures, a point and more figures. -/
theorem scientific?_point {whole fraction : List Char} (hwhole : Figures whole)
    (hfraction : Figures fraction) (hne : whole ≠ []) :
    scientific? (whole ++ '.' :: fraction) = some ⟨whole ++ fraction, -fraction.length⟩ := by
  have hpoint : ∀ c ∈ ('.' :: fraction).head?, c.isDigit = false := by simp
  have htake : fraction.takeWhile Char.isDigit = fraction := by
    simpa using takeWhile_figures (t := []) hfraction (by simp)
  have hdrop : fraction.dropWhile Char.isDigit = [] := by
    simpa using dropWhile_figures (t := []) hfraction (by simp)
  unfold scientific?
  rw [takeWhile_figures hwhole hpoint, dropWhile_figures hwhole hpoint]
  simp [htake, hdrop, hne]


/-- Whole figures, maybe a point and more figures, and a power of ten with its sign. -/
theorem scientific?_power {whole fraction power : List Char} {n : Bool}
    (hwhole : Figures whole) (hfraction : Figures fraction) (hpower : Figures power)
    (hne : whole ≠ []) (hpow : power ≠ []) :
    scientific? (whole ++ (if fraction.isEmpty then [] else '.' :: fraction)
        ++ 'e' :: (if n then '-' else '+') :: power) =
      some ⟨whole ++ fraction,
        (if n then -(valueOf power : Int) else valueOf power) - fraction.length⟩ := by
  have hall : power.all Char.isDigit = true := List.all_eq_true.mpr hpower
  rw [List.append_assoc]
  generalize hsign : 'e' :: (if n then '-' else '+') :: power = shift
  have hend : ∀ c ∈ shift.head?, c.isDigit = false := by
    subst hsign
    simp
  have hpoint : ∀ c ∈ ((if fraction.isEmpty then [] else '.' :: fraction) ++ shift).head?,
      c.isDigit = false := by
    cases fraction with
    | nil => simpa using hend
    | cons d rest => simp
  unfold scientific?
  rw [takeWhile_figures hwhole hpoint, dropWhile_figures hwhole hpoint]
  cases fraction with
  | nil =>
    subst hsign
    cases n <;> simp [signOf, hall, hne, hpow]
  | cons d rest =>
    simp only [List.isEmpty_cons, Bool.false_eq_true, if_false, List.cons_append]
    rw [← List.cons_append, takeWhile_figures hfraction hend, dropWhile_figures hfraction hend]
    subst hsign
    cases n <;> simp [signOf, hall, hpow]

theorem valueOf_exponent (layout : Layout) (exponent : Int) :
    ∃ power, exponentText layout exponent = (if exponent < 0 then '-' else '+') :: power ∧
      Figures power ∧ power ≠ [] ∧ valueOf power = exponent.natAbs := by
  refine ⟨_, rfl, (figures_zeros _).append (figures_digits _), ?_, ?_⟩
  · simp [digits_ne_nil]
  · rw [valueOf_append, valueOf_zeros, valueOf_digits]
    omega

/-- Figures and their power of ten may be moved against one another. -/
theorem Scientific.value_eq {s : Scientific} {d : Decimal} (k : Nat)
    (hfigures : valueOf s.figures = d.digits * 10 ^ k) (hexponent : s.exponent + k = d.exponent) :
    s.value = d.value := by
  unfold Scientific.value Decimal.value
  rw [hfigures, ← hexponent, zpow_add₀ (by norm_num), zpow_natCast, Nat.cast_mul, Nat.cast_pow]
  push_cast
  ring

/-- The text of a decimal reads back as the fraction that it stands for. -/
theorem scientific?_text (layout : Layout) (d : Decimal) :
    ∃ s, scientific? (d.text layout) = some s ∧ s.value = d.value := by
  have hfig := figures_digits d.digits
  have hne := digits_ne_nil d.digits
  have hval := valueOf_digits d.digits
  have hlength : 1 ≤ (digits d.digits).length := List.length_pos_iff.mpr hne
  unfold Decimal.text
  dsimp only
  generalize digits d.digits = written at hfig hne hval hlength ⊢
  have htake (n : Nat) : Figures (written.take n) := fun c hc => hfig c (List.mem_of_mem_take hc)
  have hdrop (n : Nat) : Figures (written.drop n) := fun c hc => hfig c (List.mem_of_mem_drop hc)
  have hzero : Figures ['0'] := figures_zeros 1
  split
  · split
    -- the point stands to the left of all digits
    · refine ⟨_, scientific?_point hzero ((figures_zeros _).append hfig) (by simp),
        Scientific.value_eq 0 ?_ ?_⟩
      · simp only [valueOf_append, zerosText, valueOf_zeros, hval]
        simp [valueOf]
      · simp [zerosText]
        omega
    · split
      -- the point stands to the right of all digits
      · refine ⟨_, scientific?_point (hfig.append (figures_zeros _)) hzero (by simp [hne]),
          Scientific.value_eq (((written.length + d.exponent) - written.length).toNat + 1) ?_ ?_⟩
        · simp only [valueOf_append, zerosText, valueOf_zeros, hval]
          simp [valueOf, pow_succ, mul_assoc]
        · simp
          omega
      -- the point stands between digits
      · have hfirst : written.take (written.length + d.exponent).toNat ≠ [] := by
          simp [hne]
          omega
        refine ⟨_, scientific?_point (htake _) (hdrop _) hfirst, Scientific.value_eq 0 ?_ ?_⟩
        · simpa using hval
        · simp
          omega
  · obtain ⟨power, hpower, hpfig, hpne, hpval⟩ :=
      valueOf_exponent layout (written.length + d.exponent - 1)
    have hread := scientific?_power (n := decide (written.length + d.exponent - 1 < 0)) (htake 1)
      (hdrop 1) hpfig (by simp [hne]) hpne
    simp only [decide_eq_true_eq] at hread
    rw [hpower]
    refine ⟨_, hread, Scientific.value_eq 0 ?_ ?_⟩
    · dsimp only
      rw [List.take_append_drop, hval, pow_zero, mul_one]
    · dsimp only
      rw [hpval, List.length_drop]
      split <;> omega

/-! ## The characters of a decimal -/

/-- The text of a decimal holds figures, a point, a mark before its power of ten and signs. -/
theorem Decimal.text_chars (layout : Layout) (d : Decimal) :
    ∀ c ∈ d.text layout, c.isDigit = true ∨ c ∈ ['.', 'e', '+', '-'] := by
  have hfig := figures_digits d.digits
  have hzeros (n : Int) : Figures (zerosText n) := figures_zeros _
  obtain ⟨power, hpower, hpfig, -, -⟩ :=
    valueOf_exponent layout ((Number.digits d.digits).length + d.exponent - 1)
  unfold Decimal.text
  dsimp only
  rw [hpower]
  generalize Number.digits d.digits = written at hfig ⊢
  have htake (n : Nat) : Figures (written.take n) := fun c hc => hfig c (List.mem_of_mem_take hc)
  have hdrop (n : Nat) : Figures (written.drop n) := fun c hc => hfig c (List.mem_of_mem_drop hc)
  intro c hc
  split at hc
  · split at hc
    · simp only [List.mem_cons, List.mem_append] at hc
      rcases hc with rfl | rfl | hc | hc
      · exact .inl rfl
      · simp
      · exact .inl (hzeros _ c hc)
      · exact .inl (hfig c hc)
    · split at hc
      · simp only [List.mem_cons, List.mem_append, List.not_mem_nil, or_false] at hc
        rcases hc with (hc | hc) | rfl | rfl
        · exact .inl (hfig c hc)
        · exact .inl (hzeros _ c hc)
        · simp
        · exact .inl rfl
      · simp only [List.mem_cons, List.mem_append] at hc
        rcases hc with hc | rfl | hc
        · exact .inl (htake _ c hc)
        · simp
        · exact .inl (hdrop _ c hc)
  · simp only [List.mem_cons, List.mem_append] at hc
    rcases hc with (hc | hc) | rfl | rfl | hc
    · exact .inl (htake _ c hc)
    · split at hc
      · cases hc
      · rcases List.mem_cons.mp hc with rfl | hc
        · simp
        · exact .inl (hdrop _ c hc)
    · simp
    · split <;> simp
    · exact .inl (hpfig c hc)

/-- The text of a decimal has a point or a power of ten, so that no whole number looks like it. -/
theorem Decimal.text_mark (layout : Layout) (d : Decimal) :
    '.' ∈ d.text layout ∨ 'e' ∈ d.text layout := by
  unfold Decimal.text
  dsimp only
  split
  · left
    split
    · simp
    · split <;> simp
  · right
    simp

end Number

end Folio
