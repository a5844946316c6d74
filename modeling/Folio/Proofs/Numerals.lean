-- Decimal texts of whole numbers. A sign or none and figures of any script, mixed as they may be, are
-- read as the number that they write, exactly, up to as many figures as can be read. The text of a
-- whole number is one of them.
import Folio.Proofs.DecimalTexts
import Mathlib.Data.List.Induction
import Mathlib.Data.List.TakeWhile

namespace Folio

namespace Character

variable {c : Char} {d : Nat}

/-! ## Figures of every script -/

theorem zeros_facts : ∀ z ∈ zeros, z = 0x30 ∨ 0x660 ≤ z := by decide

theorem zeros_not_blank : ∀ z ∈ zeros, ∀ d < 10, within blankRanges (z + d) = false := by
  decide +kernel

theorem digit?_eq (h : digit? c = some d) : d < 10 ∧ ∃ z ∈ zeros, c.toNat = z + d := by
  obtain ⟨z, hz, hd⟩ := Option.map_eq_some_iff.mp h
  have hin := List.find?_some hz
  simp only [Bool.and_eq_true, decide_eq_true_eq] at hin
  exact ⟨by omega, z, List.mem_of_find?_eq_some hz, by omega⟩

theorem isDecimal_iff : isDecimal c = true ↔ ∃ d, digit? c = some d := Option.isSome_iff_exists

/-- Figures are not blank. -/
theorem isBlank_of_isDecimal (h : isDecimal c = true) : isBlank c = false := by
  obtain ⟨d, hd⟩ := isDecimal_iff.mp h
  obtain ⟨hlt, z, hz, hc⟩ := digit?_eq hd
  unfold isBlank
  rw [hc]
  exact zeros_not_blank z hz d hlt

/-- A plain figure is a digit. -/
theorem digit?_of_isDigit (h : c.isDigit = true) : digit? c = some (c.toNat - 0x30) := by
  simp only [Char.isDigit, Bool.and_eq_true, decide_eq_true_eq] at h
  have hlow : 0x30 ≤ c.toNat := h.1
  have hhigh : c.toNat ≤ 0x39 := h.2
  have hfind : zeros.find? (fun z => z ≤ c.toNat && c.toNat < z + 10) = some 0x30 := by
    unfold zeros
    rw [List.find?_cons_of_pos]
    simp only [Bool.and_eq_true, decide_eq_true_eq]
    omega
  unfold digit?
  rw [hfind]
  rfl

end Character

namespace Number

open Character

variable {c : Char} {figures text : List Char} {n : Int}

/-- The value of one figure. -/
def figureValue (c : Char) : Nat := (digit? c).getD 0

/-- The number that figures write, the highest first. -/
def amount (figures : List Char) : Nat := figures.foldl (fun n c => 10 * n + figureValue c) 0

/-- Figures of any script, not more than can be read. -/
structure Legible (figures : List Char) : Prop where
  filled : figures ≠ []
  decimal : ∀ c ∈ figures, isDecimal c = true
  short : figures.length ≤ digitLimit

/-- The decimal texts of a whole number. -/
inductive Writes : List Char → Int → Prop where
  | plain {figures : List Char} (legible : Legible figures) : Writes figures (amount figures)
  | plus {figures : List Char} (legible : Legible figures) : Writes ('+' :: figures) (amount figures)
  | minus {figures : List Char} (legible : Legible figures) : Writes ('-' :: figures) (-amount figures)

/-- The digit of the same value. -/
def plainFigure (c : Char) : Char := digitChar (figureValue c)

theorem figureValue_lt (c : Char) : figureValue c < 10 := by
  unfold figureValue
  cases h : digit? c with
  | none => decide
  | some d => exact (digit?_eq h).1

theorem plainFigure_of_plain (h : isDecimal c = true) (hplain : c.toNat < 0x80) :
    plainFigure c = c := by
  obtain ⟨d, hd⟩ := isDecimal_iff.mp h
  obtain ⟨hlt, z, hz, hc⟩ := digit?_eq hd
  have hzero : z = 0x30 := (zeros_facts z hz).resolve_right (by omega)
  have hcode : d + 48 = c.toNat := by omega
  unfold plainFigure figureValue digitChar
  rw [hd, Option.getD_some, hcode, Char.ofNat_toNat]

/-- Figures of every script become plain ones. -/
theorem plainChars_figures (h : ∀ c ∈ figures, isDecimal c = true) :
    plainChars figures = figures.map plainFigure := by
  induction figures with
  | nil => rfl
  | cons c rest ih =>
    rw [List.forall_mem_cons] at h
    rw [plainChars, ih h.2, isBlank_of_isDecimal h.1]
    obtain ⟨d, hd⟩ := isDecimal_iff.mp h.1
    have hfigure : plainFigure c = Char.ofNat (d + 48) := by
      unfold plainFigure figureValue digitChar
      rw [hd, Option.getD_some]
    rw [hd, List.map_cons]
    split
    · rw [plainFigure_of_plain h.1 (by omega)]
    · simp [hfigure]

theorem plainChars_signed {sign : List Char} (hsign : ∀ c ∈ sign, c.toNat < 0x7F)
    (h : ∀ c ∈ figures, isDecimal c = true) :
    plainChars (sign ++ figures) = sign ++ figures.map plainFigure := by
  induction sign with
  | nil => exact plainChars_figures h
  | cons c rest ih =>
    rw [List.forall_mem_cons] at hsign
    rw [List.cons_append, plainChars, if_pos hsign.1, ih hsign.2, List.cons_append]

theorem plainForm_signed (sign : List Char) (hsign : ∀ c ∈ sign, c.toNat < 0x7F)
    (h : ∀ c ∈ figures, isDecimal c = true) :
    plainForm (sign ++ figures) = sign ++ figures.map plainFigure := by
  unfold plainForm
  split
  · rename_i hplain
    simp only [List.all_eq_true, decide_eq_true_eq, List.forall_mem_append] at hplain
    rw [List.map_congr_left fun c hc => plainFigure_of_plain (h c hc) (hplain.2 c hc), List.map_id']
  · exact plainChars_signed hsign h

theorem figures_plain (figures : List Char) : Figures (figures.map plainFigure) := by
  intro c hc
  obtain ⟨d, -, rfl⟩ := List.mem_map.mp hc
  exact isDigit_digitChar _ (figureValue_lt d)

/-- Plain figures write the same number. -/
theorem valueOf_plain (figures : List Char) :
    valueOf (figures.map plainFigure) = amount figures := by
  have hvalue (c : Char) : (plainFigure c).toNat - 48 = figureValue c :=
    toNat_digitChar _ (figureValue_lt c)
  simp only [valueOf, amount, List.foldl_map, hvalue]

/-! ## Reading -/

theorem isLayout_of_isDigit (h : c.isDigit = true) : isLayout c = false := by
  simp only [Char.isDigit, Bool.and_eq_true, decide_eq_true_eq] at h
  have hlow : 0x30 ≤ c.toNat := h.1
  unfold isLayout
  simp only [Bool.or_eq_false_iff, beq_eq_false_iff_ne]
  refine ⟨⟨⟨⟨⟨?_, ?_⟩, ?_⟩, ?_⟩, ?_⟩, ?_⟩ <;>
  · rintro rfl
    exact absurd hlow (by decide)

theorem withoutUnderscores?_figures (h : Figures text) (afterDigit : Bool) :
    withoutUnderscores? afterDigit text = some text := by
  induction text generalizing afterDigit with
  | nil => rfl
  | cons c rest ih =>
    have hc : c ≠ '_' := fun he => absurd (h c List.mem_cons_self) (he ▸ by decide)
    have hrest : Figures rest := fun d hd => h d (List.mem_cons_of_mem _ hd)
    rw [withoutUnderscores?, ih hrest]
    · rfl
    · exact fun he => hc he

/-- Behind a sign or none, figures are read if they are not too many. -/
theorem readWhole_eq {negative : Bool} {plain : List Char} (hsome : plain ≠ [])
    (hplain : Figures plain)
    (hform : signOf ((plainForm text).dropWhile isLayout) = (negative, plain)) :
    readWhole text = if digitLimit < plain.length then .error (.tooLong plain.length)
      else .ok (signed negative (valueOf plain)) := by
  have hall : ∀ c ∈ plain, (fun c : Char => c.isDigit || c == '_') c = true := fun c hc =>
    Bool.or_eq_true_iff.mpr (.inl (hplain c hc))
  unfold readWhole
  rw [hform]
  dsimp only
  rw [List.takeWhile_eq_self_iff.mpr hall, List.dropWhile_eq_nil_iff.mpr hall,
    withoutUnderscores?_figures hplain]
  cases plain with
  | nil => exact absurd rfl hsome
  | cons c rest => simp

theorem signOf_legible (h : Legible figures) : signOf figures = (false, figures) := by
  unfold signOf
  split
  · exact absurd (h.decimal '-' List.mem_cons_self) (by decide)
  · exact absurd (h.decimal '+' List.mem_cons_self) (by decide)
  · rfl

theorem Legible.plain_ne_nil (h : Legible figures) : figures.map plainFigure ≠ [] := by
  simpa using h.filled

theorem dropWhile_plain (figures : List Char) :
    (figures.map plainFigure).dropWhile isLayout = figures.map plainFigure := by
  refine List.dropWhile_eq_self_iff.mpr fun hlength => ?_
  rw [isLayout_of_isDigit (figures_plain figures _ (List.getElem_mem hlength))]
  exact Bool.false_ne_true

/-- What a number is written as is read as that number. -/
theorem readWhole_of_writes (h : Writes text n) : readWhole text = .ok n := by
  have hread {figures : List Char} (negative : Bool) (legible : Legible figures)
      (hform : signOf ((plainForm text).dropWhile isLayout) =
        (negative, figures.map plainFigure)) :
      readWhole text = .ok (signed negative (amount figures)) := by
    rw [readWhole_eq legible.plain_ne_nil (figures_plain figures) hform, valueOf_plain,
      List.length_map, if_neg (Nat.not_lt.mpr legible.short)]
  cases h with
  | plain legible =>
    have hform : plainForm text = text.map plainFigure :=
      plainForm_signed [] (by simp) legible.decimal
    refine hread false legible ?_
    rw [hform, dropWhile_plain]
    exact signOf_figures (figures_plain text)
  | @plus figures legible =>
    have hform : plainForm ('+' :: figures) = '+' :: figures.map plainFigure :=
      plainForm_signed ['+'] (by simp) legible.decimal
    refine hread false legible ?_
    rw [hform]
    rfl
  | @minus figures legible =>
    have hform : plainForm ('-' :: figures) = '-' :: figures.map plainFigure :=
      plainForm_signed ['-'] (by simp) legible.decimal
    refine hread true legible ?_
    rw [hform]
    rfl

/-! ## The text of a whole number -/

theorem amount_digits (m : Nat) : amount (digits m) = m := by
  have hvalue : ∀ c ∈ digits m, plainFigure c = c := fun c hc => by
    have hdigit := figures_digits m c hc
    have hplain : c.toNat ≤ 0x39 := by
      simp only [Char.isDigit, Bool.and_eq_true, decide_eq_true_eq] at hdigit
      exact hdigit.2
    exact plainFigure_of_plain (isDecimal_iff.mpr ⟨_, digit?_of_isDigit hdigit⟩) (by omega)
  rw [← valueOf_plain, List.map_congr_left hvalue, List.map_id', valueOf_digits]

theorem length_digits_le {m k : Nat} (hk : 0 < k) (h : m < 10 ^ k) : (digits m).length ≤ k := by
  induction k generalizing m with
  | zero => exact absurd hk (Nat.lt_irrefl 0)
  | succ k ih =>
    unfold digits
    split
    · simp
    · rename_i hm
      have hrest : m / 10 < 10 ^ k := by
        rw [Nat.div_lt_iff_lt_mul (by decide), ← pow_succ]
        exact h
      have hk : 0 < k := by
        rcases Nat.eq_zero_or_pos k with rfl | hk
        · simp at hrest
          omega
        · exact hk
      rw [List.length_append, List.length_singleton]
      have := ih hk hrest
      omega

theorem amount_lt (figures : List Char) : amount figures < 10 ^ figures.length := by
  induction figures using List.reverseRecOn with
  | nil => decide
  | append_singleton figures c ih =>
    have hstep : amount (figures ++ [c]) = 10 * amount figures + figureValue c := by
      simp [amount, List.foldl_append]
    have hc := figureValue_lt c
    rw [hstep, List.length_append, List.length_singleton, pow_succ]
    omega

/-- A number with figures enough to be read is written by its own text. -/
theorem writes_wholeText (h : n.natAbs < 10 ^ digitLimit) : Writes (wholeText n) n := by
  have legible : Legible (digits n.natAbs) := by
    refine ⟨digits_ne_nil _, fun c hc => ?_, length_digits_le (by decide) h⟩
    exact isDecimal_iff.mpr ⟨_, digit?_of_isDigit (figures_digits _ c hc)⟩
  unfold wholeText
  split
  · have hminus := Writes.minus legible
    rw [amount_digits] at hminus
    have hn : -(n.natAbs : Int) = n := by omega
    rwa [hn] at hminus
  · have hplain := Writes.plain legible
    rw [amount_digits] at hplain
    have hn : (n.natAbs : Int) = n := by omega
    rwa [hn] at hplain

/-- A number that is written with figures that can be read is not too large for its own text. -/
theorem Writes.natAbs_lt (h : Writes text n) : n.natAbs < 10 ^ digitLimit := by
  have hfigures {figures : List Char} (legible : Legible figures) :
      amount figures < 10 ^ digitLimit :=
    (amount_lt figures).trans_le (Nat.pow_le_pow_right (by decide) legible.short)
  cases h with
  | plain legible => simpa using hfigures legible
  | plus legible => simpa using hfigures legible
  | minus legible => simpa using hfigures legible

end Number

end Folio
