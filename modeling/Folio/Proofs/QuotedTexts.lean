-- A text that is written in quotes reads back as itself, whatever follows its closing quote. So
-- texts in quotes tell where they end, and different texts are written differently.
import Folio.Json.Reader
import Folio.Json.Writer
import Mathlib.Tactic.Ring

namespace Folio

/-! ## Quoted texts read back -/

namespace Text

theorem hexValue?_hexDigit (d : Nat) (h : d < 16) : hexValue? (hexDigit d) = some d := by
  revert d
  decide

theorem hexNumber?_hexText (width n : Nat) : hexNumber? (hexText width n) = some (n % 16 ^ width) := by
  induction width generalizing n with
  | zero =>
    rw [pow_zero, Nat.mod_one]
    rfl
  | succ width ih =>
    have hrest := ih (n / 16)
    unfold hexNumber? at hrest ⊢
    rw [hexText, List.foldl_append, hrest, List.foldl_cons, List.foldl_nil,
      hexValue?_hexDigit _ (Nat.mod_lt n (by omega))]
    have hdigits : 16 * (n / 16 % 16 ^ width) + n % 16 = n % 16 ^ (width + 1) := by
      rw [pow_succ', Nat.mod_mul]
      omega
    simp [hdigits]

end Text

namespace Json

/-- The code units of a character. -/
def unitsOf (c : Char) : List Nat :=
  if c.toNat < 0x10000 then [c.toNat]
  else [0xd800 + (c.toNat - 0x10000) / 0x400, 0xdc00 + (c.toNat - 0x10000) % 0x400]

theorem units?_unitEscape {unit : Nat} (h : unit < 0x10000) (rest : List Char) :
    units? (unitEscape unit ++ rest) =
      (units? rest).map (fun (units, after) => (unit :: units, after)) := by
  have hread := Text.hexNumber?_hexText 4 unit
  rw [Nat.mod_eq_of_lt (by omega)] at hread
  have hfour : ∃ a b c d, Text.hexText 4 unit = [a, b, c, d] := ⟨_, _, _, _, rfl⟩
  obtain ⟨a, b, c, d, hfour⟩ := hfour
  unfold unitEscape
  rw [hfour] at hread ⊢
  simp only [List.cons_append, List.nil_append, units?, hread]
  cases units? rest <;> rfl

/-- A written character reads back as its code units. -/
theorem units?_charText (c : Char) (rest : List Char) :
    units? (charText c ++ rest) =
      (units? rest).map (fun (units, after) => (unitsOf c ++ units, after)) := by
  have hshort (k : Char) (hk : k ∈ ['"', '\\', '\n', '\r', '\t', '\x08', '\x0c']) :
      units? (charText k ++ rest) =
        (units? rest).map (fun (units, after) => (unitsOf k ++ units, after)) := by
    simp only [List.mem_cons, List.not_mem_nil, or_false] at hk
    rcases hk with rfl | rfl | rfl | rfl | rfl | rfl | rfl <;>
      (simp [charText, units?, unitsOf]; cases units? rest <;> rfl)
  by_cases hk : c ∈ ['"', '\\', '\n', '\r', '\t', '\x08', '\x0c']
  · exact hshort c hk
  · simp only [List.mem_cons, List.not_mem_nil, or_false, not_or] at hk
    obtain ⟨h1, h2, h3, h4, h5, h6, h7⟩ := hk
    unfold charText
    simp only [beq_iff_eq, h1, h2, h3, h4, h5, h6, h7, if_false]
    split
    · rename_i hplain
      rw [Bool.and_eq_true, decide_eq_true_eq, decide_eq_true_eq] at hplain
      have hrange : 0x20 ≤ c.toNat ∧ c.toNat ≤ 0x7e :=
        ⟨UInt32.le_iff_toNat_le.mp hplain.1, UInt32.le_iff_toNat_le.mp hplain.2⟩
      rw [List.cons_append, List.nil_append, units?]
      · rw [if_neg (by omega)]
        unfold unitsOf
        rw [if_pos (by omega)]
        cases units? rest <;> rfl
      · exact h1
      · intro a b d e after hc
        exact (h2 hc).elim
      · intro k after hc
        exact (h2 hc).elim
    · split
      · rename_i hwide
        rw [units?_unitEscape hwide]
        simp [unitsOf, hwide]
      · rename_i hwide
        have hlast : c.toNat < 0x110000 := by
          rcases c.valid with hvalid | hvalid
          · exact lt_trans hvalid (by decide)
          · exact hvalid.2
        rw [List.append_assoc, units?_unitEscape (by omega), units?_unitEscape (by omega)]
        simp [unitsOf, hwide]
        cases units? rest <;> rfl

theorem charsOf_unitsOf (c : Char) (units : List Nat) :
    charsOf (unitsOf c ++ units) = c :: charsOf units := by
  have hvalid : c.toNat < 0xd800 ∨ 0xdfff < c.toNat ∧ c.toNat < 0x110000 := c.valid
  unfold unitsOf
  split
  · have hself : (0xd800 ≤ c.toNat && c.toNat < 0xe000) = false := by
      simp
      omega
    have hhalf : (0xd800 ≤ c.toNat && c.toNat < 0xdc00) = false := by
      simp
      omega
    rcases units with _ | ⟨u, rest⟩
    · simp [charsOf, hself]
    · simp only [List.cons_append, List.nil_append, charsOf, hself, hhalf, Bool.false_and]
      simp
  · have hpair : 0x10000 + (0xd800 + (c.toNat - 0x10000) / 0x400 - 0xd800) * 0x400 +
        (0xdc00 + (c.toNat - 0x10000) % 0x400 - 0xdc00) = c.toNat := by
      omega
    simp only [List.cons_append, List.nil_append, charsOf]
    rw [if_pos, hpair, Char.ofNat_toNat]
    simp
    omega

/-- A written text reads back, whatever follows its closing quote. -/
theorem string?_textText (s : String) (rest : List Char) :
    string? ((textText s ++ rest).drop 1) = some (s, rest) := by
  have hunits (chars : List Char) :
      units? (chars.flatMap charText ++ '"' :: rest) = some (chars.flatMap unitsOf, rest) := by
    induction chars with
    | nil => rfl
    | cons c more ih =>
      rw [List.flatMap_cons, List.append_assoc, units?_charText, ih]
      rfl
  have hchars (chars : List Char) : charsOf (chars.flatMap unitsOf) = chars := by
    induction chars with
    | nil => rfl
    | cons c more ih => rw [List.flatMap_cons, charsOf_unitsOf, ih]
  unfold string? textText
  simp [hunits, hchars]

/-- What is written in quotes, and what follows it, can be told. -/
theorem textText_split {s t : String} {rest rest' : List Char}
    (h : textText s ++ rest = textText t ++ rest') : s = t ∧ rest = rest' := by
  have hread := string?_textText s rest
  rw [h, string?_textText] at hread
  cases hread
  exact ⟨rfl, rfl⟩

end Json

end Folio
