-- Small letters. A text has as many parts in small letters as before, or more, and none of them is
-- lost; and what is plain in small letters was plain before, apart from an i and a k.
import Folio.Character.Blank
import Folio.Character.Lower
import Mathlib.Data.List.Basic

namespace Folio.Character

variable {text : List Char} {x : Char} {n : Nat}

/-! ## One character -/

/-- The sign of the kelvin, whose small form is a plain letter. -/
def kelvinSign : Nat := 0x212A

theorem caseRuns_plain : ∀ run ∈ caseRuns, run.last < 0x80 ∨ 0x80 ≤ run.first + run.shift ∨
    (run.first = kelvinSign ∧ run.last = kelvinSign) := by
  decide +kernel

/-- What becomes plain was plain before. -/
theorem plain_of_lowerCode (h : lowerCode n < 0x80) : n < 0x80 ∨ n = kelvinSign := by
  unfold lowerCode at h
  split at h
  · exact .inl ‹_›
  · cases hrun : caseRun? n with
    | none =>
      rw [hrun] at h
      exact .inl h
    | some run =>
      rw [hrun] at h
      have hin := List.find?_some hrun
      simp only [Bool.and_eq_true, decide_eq_true_eq] at hin
      dsimp only at h
      rcases caseRuns_plain run (List.mem_of_find?_eq_some hrun) with hplain | habove | hkelvin
      · omega
      · omega
      · exact .inr (by omega)

/-- The small form of one character, if it is plain and no k, is the character or that of a plain
capital. -/
theorem lower_plain {c : Char} (h : lower c = x) (hx : x.toNat < 0x80) (hnull : x.toNat ≠ 0)
    (hk : x ≠ 'k') :
    c = x ∨ (0x41 ≤ c.toNat ∧ c.toNat ≤ 0x5A ∧ c.toNat + 32 = x.toNat) := by
  have hcode : lowerCode c.toNat = x.toNat := by
    have hvalue := congrArg Char.toNat h
    rw [lower, Char.ofNat] at hvalue
    by_cases hvalid : (lowerCode c.toNat).isValidChar
    · rwa [dif_pos hvalid] at hvalue
    · rw [dif_neg hvalid] at hvalue
      exact absurd hvalue.symm hnull
  rcases plain_of_lowerCode (hcode ▸ hx) with hplain | hkelvin
  · unfold lowerCode at hcode
    rw [if_pos hplain] at hcode
    split at hcode
    · rename_i hcapital
      simp only [Bool.and_eq_true, decide_eq_true_eq] at hcapital
      exact .inr ⟨hcapital.1, hcapital.2, hcode⟩
    · exact .inl (Char.toNat_inj.mp hcode)
  · have hsmall : lowerCode kelvinSign = 'k'.toNat := by decide
    rw [hkelvin, hsmall] at hcode
    exact absurd (Char.toNat_inj.mp hcode.symm) hk

theorem exists_of_within {ranges : List (Nat × Nat)} (h : within ranges n = true) :
    ∃ range ∈ ranges, range.1 ≤ n ∧ n ≤ range.2 := by
  induction ranges with
  | nil => cases h
  | cons range rest ih =>
    unfold within at h
    split at h
    · cases h
    · rcases Bool.or_eq_true_iff.mp h with hhere | hlater
      · exact ⟨range, List.mem_cons_self, by omega, of_decide_eq_true hhere⟩
      · obtain ⟨found, hmem, hin⟩ := ih hlater
        exact ⟨found, List.mem_cons_of_mem _ hmem, hin⟩

theorem lowerCode_blanks : ∀ range ∈ blankRanges, ∀ d ≤ range.2 - range.1,
    lowerCode (range.1 + d) = range.1 + d := by
  decide +kernel

/-- Blanks have no small form. -/
theorem lower_of_isBlank {c : Char} (h : isBlank c = true) : lower c = c := by
  obtain ⟨range, hrange, hlow, hhigh⟩ := exists_of_within h
  have hcode := lowerCode_blanks range hrange (c.toNat - range.1) (by omega)
  rw [Nat.add_sub_cancel' hlow] at hcode
  rw [lower, hcode, Char.ofNat_toNat]

/-! ## Texts -/

theorem lowerAt_ne_nil (before : List Char) (c : Char) (after : List Char) :
    lowerAt before c after ≠ [] := by
  unfold lowerAt
  split
  · split <;> simp
  · split <;> simp

/-- Only an empty text is empty in small letters. -/
theorem lowerText_eq_nil_iff : lowerText text = [] ↔ text = [] := by
  cases text with
  | nil => simp [lowerText, lowerFrom]
  | cons c rest => simp [lowerText, lowerFrom, lowerAt_ne_nil]

theorem mem_lowerAt {c : Char} (h : lower c = c) (hdotted : c ≠ 'İ') (before after : List Char) :
    c ∈ lowerAt before c after := by
  have hsigma : c ≠ 'Σ' := by
    rintro rfl
    exact absurd h (by decide)
  simp [lowerAt, hsigma, hdotted, h]

/-- What has no small form stays where it is. -/
theorem mem_lowerText {c : Char} (h : c ∈ text) (hself : lower c = c) (hdotted : c ≠ 'İ') :
    c ∈ lowerText text := by
  have hfrom (before : List Char) : c ∈ lowerFrom before text := by
    induction text generalizing before with
    | nil => cases h
    | cons d rest ih =>
      rcases List.mem_cons.mp h with rfl | hrest
      · exact List.mem_append_left _ (mem_lowerAt hself hdotted before rest)
      · exact List.mem_append_right _ (ih hrest _)
  exact hfrom []

theorem exists_of_mem_lowerFrom {before : List Char} (h : x ∈ lowerFrom before text) :
    ∃ c ∈ text, x = 'ς' ∨ x = 'σ' ∨ x = 'i' ∨ x = '\u0307' ∨ x = lower c := by
  induction text generalizing before with
  | nil => cases h
  | cons c rest ih =>
    rcases List.mem_append.mp h with hhere | hlater
    · refine ⟨c, List.mem_cons_self, ?_⟩
      unfold lowerAt at hhere
      split at hhere
      · split at hhere
        · exact .inl (List.mem_singleton.mp hhere)
        · exact .inr (.inl (List.mem_singleton.mp hhere))
      · split at hhere
        · rcases List.mem_pair.mp hhere with hi | hdot
          · exact .inr (.inr (.inl hi))
          · exact .inr (.inr (.inr (.inl hdot)))
        · exact .inr (.inr (.inr (.inr (List.mem_singleton.mp hhere))))
    · obtain ⟨d, hd, hx⟩ := ih hlater
      exact ⟨d, List.mem_cons_of_mem _ hd, hx⟩

/-- What is plain in a text of small letters, and neither an i nor a k, was there before or is the
small form of a plain capital. -/
theorem exists_of_mem_lowerText (h : x ∈ lowerText text) (hx : x.toNat < 0x80)
    (hnull : x.toNat ≠ 0) (hi : x ≠ 'i') (hk : x ≠ 'k') :
    ∃ c ∈ text, c = x ∨ (0x41 ≤ c.toNat ∧ c.toNat ≤ 0x5A ∧ c.toNat + 32 = x.toNat) := by
  obtain ⟨c, hc, hsigma | hsigma | hplain | hdot | hlower⟩ := exists_of_mem_lowerFrom h
  · exact absurd (hsigma ▸ hx) (by decide)
  · exact absurd (hsigma ▸ hx) (by decide)
  · exact absurd hplain hi
  · exact absurd (hdot ▸ hx) (by decide)
  · exact ⟨c, hc, lower_plain hlower.symm hx hnull hk⟩

/-- Blanks are in small letters only where they were before. -/
theorem blank_of_mem_lowerText (h : ' ' ∈ lowerText text) : ' ' ∈ text := by
  obtain ⟨c, hc, rfl | ⟨hlow, -, hcode⟩⟩ :=
    exists_of_mem_lowerText h (by decide) (by decide) (by decide) (by decide)
  · exact hc
  · have hblank : ' '.toNat = 32 := rfl
    omega

end Folio.Character
