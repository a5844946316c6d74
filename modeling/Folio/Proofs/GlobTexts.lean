-- What a glob stands for, and what a text means as one. A glob between stars is found in a text just if
-- something it stands for occurs there. A text that is taken for a glob looks for itself exactly if each
-- of its characters is read as itself: no star, no question mark and no bracket that is closed.
import Folio.Text.Glob
import Mathlib.Data.List.Infix
import Mathlib.Data.List.TakeWhile

namespace Folio.Text

namespace Glob

variable {pieces others : List Piece} {text : List Char}

/-! ## Texts that a glob stands for -/

/-- A star stands for any text, all other pieces for one character. -/
def PieceStands (piece : Piece) (part : List Char) : Prop :=
  piece = .star ∨ ∃ c, part = [c] ∧ stepHolds c piece = true

/-- Pieces stand for a text that can be cut into what each of them stands for. -/
def Stands : List Piece → List Char → Prop
  | [], text => text = []
  | piece :: pieces, text =>
    ∃ part rest, part ++ rest = text ∧ PieceStands piece part ∧ Stands pieces rest

theorem mem_suffixes {part : List Char} : part ∈ suffixes text ↔ part <:+ text := by
  induction text with
  | nil => simp [suffixes]
  | cons c rest ih => simp [suffixes, ih, List.suffix_cons_iff]

theorem stands_star_iff :
    Stands (.star :: pieces) text ↔ ∃ rest, rest <:+ text ∧ Stands pieces rest := by
  constructor
  · rintro ⟨part, rest, rfl, -, hrest⟩
    exact ⟨rest, List.suffix_append .., hrest⟩
  · rintro ⟨rest, ⟨part, rfl⟩, hrest⟩
    exact ⟨part, rest, rfl, .inl rfl, hrest⟩

theorem stands_step_iff {piece : Piece} (h : piece ≠ .star) :
    Stands (piece :: pieces) text ↔
      ∃ c rest, text = c :: rest ∧ stepHolds c piece = true ∧ Stands pieces rest := by
  constructor
  · rintro ⟨part, rest, rfl, hstar | ⟨c, rfl, hc⟩, hrest⟩
    · exact absurd hstar h
    · exact ⟨c, rest, rfl, hc, hrest⟩
  · rintro ⟨c, rest, rfl, hc, hrest⟩
    exact ⟨[c], rest, rfl, .inr ⟨c, rfl, hc⟩, hrest⟩

theorem fits_nil_of_step {piece : Piece} (h : piece ≠ .star) : fits (piece :: pieces) [] = false := by
  cases piece with
  | star => exact absurd rfl h
  | _ => rfl

theorem fits_cons_of_step {piece : Piece} (h : piece ≠ .star) (c : Char) (rest : List Char) :
    fits (piece :: pieces) (c :: rest) = (stepHolds c piece && fits pieces rest) := by
  cases piece with
  | star => exact absurd rfl h
  | _ => rfl

/-- What is decided is what the pieces stand for. -/
theorem fits_iff : fits pieces text = true ↔ Stands pieces text := by
  induction pieces generalizing text with
  | nil => exact List.isEmpty_iff
  | cons piece pieces ih =>
    by_cases hstar : piece = .star
    · subst hstar
      simp only [fits, List.any_eq_true, mem_suffixes, stands_star_iff, ih]
    · rw [stands_step_iff hstar]
      cases text with
      | nil => simp [fits_nil_of_step hstar]
      | cons c rest => simp [fits_cons_of_step hstar, ih]

theorem stands_append_iff :
    Stands (pieces ++ others) text ↔
      ∃ first last, first ++ last = text ∧ Stands pieces first ∧ Stands others last := by
  induction pieces generalizing text with
  | nil =>
    constructor
    · exact fun h => ⟨[], text, rfl, rfl, h⟩
    · rintro ⟨_, last, rfl, rfl, h⟩
      exact h
  | cons piece pieces ih =>
    constructor
    · rintro ⟨part, rest, rfl, hpart, hrest⟩
      obtain ⟨first, last, rfl, hfirst, hlast⟩ := ih.mp hrest
      exact ⟨part ++ first, last, List.append_assoc .., ⟨part, first, rfl, hpart, hfirst⟩, hlast⟩
    · rintro ⟨_, last, rfl, ⟨part, first, rfl, hpart, hfirst⟩, hlast⟩
      exact ⟨part, first ++ last, (List.append_assoc ..).symm, hpart,
        ih.mpr ⟨first, last, rfl, hfirst, hlast⟩⟩

/-- Between stars, something that the pieces stand for has to occur in the text. -/
theorem stands_around_iff :
    Stands (.star :: (pieces ++ [.star])) text ↔ ∃ part, part <:+: text ∧ Stands pieces part := by
  rw [stands_star_iff]
  constructor
  · rintro ⟨rest, ⟨before, rfl⟩, hrest⟩
    obtain ⟨part, after, rfl, hpart, -⟩ := stands_append_iff.mp hrest
    exact ⟨part, ⟨before, after, List.append_assoc ..⟩, hpart⟩
  · rintro ⟨part, ⟨before, after, rfl⟩, hpart⟩
    refine ⟨part ++ after, ⟨before, (List.append_assoc ..).symm⟩, stands_append_iff.mpr ?_⟩
    exact ⟨part, after, rfl, hpart, stands_star_iff.mpr ⟨[], List.nil_suffix, rfl⟩⟩

/-! ## Reading a text as a glob -/

/-- How much behind a bracket belongs to the set, even if it is what would close it. -/
def bodyStart (text : List Char) : Nat :=
  let start := if text.head? == some '!' then 1 else 0
  if text[start]? == some ']' then start + 1 else start

theorem bracketBody?_eq (text : List Char) :
    bracketBody? text =
      if (text.drop (bodyStart text)).contains ']' then
        some (text.take (bodyStart text) ++ (text.drop (bodyStart text)).takeWhile (· != ']'))
      else none := rfl

theorem bodyStart_le (text : List Char) : bodyStart text ≤ text.length := by
  match text with
  | [] => decide
  | [c] =>
    unfold bodyStart
    by_cases h : c = '!'
    · simp [h]
    · simp only [List.head?_cons, h, beq_iff_eq, Option.some.injEq, if_false]
      split <;> simp
  | c :: d :: rest =>
    unfold bodyStart
    dsimp only
    split <;> split <;> simp

/-- Up to a character that occurs, less than all is taken. -/
theorem length_takeWhile_lt {d : Char} (h : d ∈ text) :
    (text.takeWhile (· != d)).length < text.length := by
  by_contra hle
  have hall := (List.takeWhile_prefix (· != d)).eq_of_length_le (Nat.le_of_not_lt hle)
  simpa using List.takeWhile_eq_self_iff.mp hall d h

/-- A bracket is closed inside the text. -/
theorem length_lt_of_bracketBody? {rest body : List Char} (h : bracketBody? rest = some body) :
    body.length < rest.length := by
  rw [bracketBody?_eq] at h
  split at h
  · rename_i hclosed
    cases h
    have hshort := length_takeWhile_lt (List.contains_iff_mem.mp hclosed)
    rw [List.length_drop] at hshort
    rw [List.length_append, List.length_take]
    omega
  · cases h

theorem piecesAfter_eq_read (skipped : Nat) (text : List Char) :
    piecesAfter skipped text = read (text.drop skipped) := by
  induction text generalizing skipped with
  | nil => cases skipped <;> rfl
  | cons c rest ih =>
    cases skipped with
    | zero => rfl
    | succ n => exact ih n

theorem read_star (rest : List Char) : read ('*' :: rest) = .star :: read rest := rfl

theorem read_any (rest : List Char) : read ('?' :: rest) = .any :: read rest := rfl

/-- A bracket that is closed is read with all up to where it is closed. -/
theorem read_bracket {rest body : List Char} (h : bracketBody? rest = some body) :
    read ('[' :: rest) = setOf body :: read (rest.drop (body.length + 1)) := by
  unfold read
  rw [piecesAfter]
  simp [h, piecesAfter_eq_read]

/-- What stands between brackets is never read as a star, nor as a character. -/
theorem setOf_cases (body : List Char) :
    setOf body = .any ∨ ∃ negated chunks, setOf body = .oneOf negated chunks := by
  unfold setOf
  split
  · split
    · exact .inl rfl
    · exact .inr ⟨_, _, rfl⟩
  · exact .inr ⟨_, _, rfl⟩

theorem setOf_ne_star (body : List Char) : setOf body ≠ .star := by
  rcases setOf_cases body with h | ⟨_, _, h⟩ <;> simp [h]

theorem setOf_ne_char (body : List Char) (c : Char) : setOf body ≠ .char c := by
  rcases setOf_cases body with h | ⟨_, _, h⟩ <;> simp [h]

/-- A character that is read as itself. -/
def IsLiteral (c : Char) (rest : List Char) : Prop :=
  c ≠ '*' ∧ c ≠ '?' ∧ (c = '[' → bracketBody? rest = none)

theorem read_literal {c : Char} {rest : List Char} (h : IsLiteral c rest) :
    read (c :: rest) = .char c :: read rest := by
  obtain ⟨hstar, hany, hopen⟩ := h
  unfold read
  rw [piecesAfter, if_neg (by simpa using hstar), if_neg (by simpa using hany)]
  split
  · rename_i hbracket
    rw [beq_iff_eq] at hbracket
    rw [hopen hbracket, hbracket]
  · rfl

/-- What is read first is a star, a question mark, a bracket that is closed, or a character as
itself. -/
theorem reading_induction {P : List Char → Prop} (nil : P [])
    (star : ∀ rest, P rest → P ('*' :: rest)) (any : ∀ rest, P rest → P ('?' :: rest))
    (bracket : ∀ rest body, bracketBody? rest = some body → P (rest.drop (body.length + 1)) →
      P ('[' :: rest))
    (literal : ∀ c rest, IsLiteral c rest → P rest → P (c :: rest)) (text : List Char) : P text := by
  induction hn : text.length using Nat.strong_induction_on generalizing text with
  | _ n ih =>
    subst hn
    cases text with
    | nil => exact nil
    | cons c rest =>
      have hrest : P rest := ih rest.length (Nat.lt_succ_self _) rest rfl
      by_cases hstar : c = '*'
      · exact hstar ▸ star rest hrest
      by_cases hany : c = '?'
      · exact hany ▸ any rest hrest
      by_cases hopen : c = '['
      · subst hopen
        cases hbody : bracketBody? rest with
        | none => exact literal _ rest ⟨hstar, hany, fun _ => hbody⟩ hrest
        | some body =>
          refine bracket rest body hbody (ih _ ?_ _ rfl)
          rw [List.length_drop, List.length_cons]
          omega
      · exact literal c rest ⟨hstar, hany, fun h => absurd h hopen⟩ hrest

theorem bodyStart_append_star (text : List Char) : bodyStart (text ++ ['*']) = bodyStart text := by
  match text with
  | [] => rfl
  | [c] => by_cases h : c = '!' <;> simp [bodyStart, h]
  | c :: d :: rest => by_cases h : c = '!' <;> simp [bodyStart, h]

/-- A star at the end neither closes a bracket nor belongs to what closes it. -/
theorem bracketBody?_append_star (text : List Char) :
    bracketBody? (text ++ ['*']) = bracketBody? text := by
  rw [bracketBody?_eq, bracketBody?_eq, bodyStart_append_star,
    List.drop_append_of_le_length (bodyStart_le text),
    List.take_append_of_le_length (bodyStart_le text)]
  by_cases h : ']' ∈ text.drop (bodyStart text)
  · rw [List.takeWhile_append, if_neg (length_takeWhile_lt h).ne]
    simp [h]
  · simp [h]

/-- A star at the end is read as a star, whatever stands before it. -/
theorem read_append_star (text : List Char) : read (text ++ ['*']) = read text ++ [.star] := by
  induction text using reading_induction with
  | nil => rfl
  | star rest ih => exact congrArg _ ih
  | any rest ih => exact congrArg _ ih
  | bracket rest body hbody ih =>
    have hlength := length_lt_of_bracketBody? hbody
    rw [List.cons_append, read_bracket hbody, read_bracket ((bracketBody?_append_star rest).trans hbody),
      List.drop_append_of_le_length hlength, ih]
    rfl
  | literal c rest h ih =>
    have hagain : IsLiteral c (rest ++ ['*']) :=
      ⟨h.1, h.2.1, fun hopen => (bracketBody?_append_star rest).trans (h.2.2 hopen)⟩
    rw [List.cons_append, read_literal h, read_literal hagain, ih]
    rfl

/-! ## Texts that look for themselves -/

/-- Every character of the text is read as itself. -/
def Plain (text : List Char) : Prop := read text = text.map .char

instance (text : List Char) : Decidable (Plain text) :=
  inferInstanceAs (Decidable (read text = text.map .char))

/-- There is no mark in a plain text, and no bracket that is closed. -/
theorem plain_cons_iff {c : Char} {rest : List Char} :
    Plain (c :: rest) ↔ IsLiteral c rest ∧ Plain rest := by
  unfold Plain
  rw [List.map_cons]
  constructor
  · intro h
    have hliteral : IsLiteral c rest := by
      refine ⟨?_, ?_, ?_⟩
      · rintro rfl
        cases (List.cons.inj h).1
      · rintro rfl
        cases (List.cons.inj h).1
      · rintro rfl
        cases hbody : bracketBody? rest with
        | none => rfl
        | some body =>
          rw [read_bracket hbody] at h
          exact absurd (List.cons.inj h).1 (setOf_ne_char body '[')
    rw [read_literal hliteral] at h
    exact ⟨hliteral, (List.cons.inj h).2⟩
  · rintro ⟨hliteral, hrest⟩
    rw [read_literal hliteral, hrest]

/-- Where no mark stands at all, every character is read as itself. -/
theorem plain_of_no_marks (hstar : '*' ∉ text) (hany : '?' ∉ text) (hopen : '[' ∉ text) :
    Plain text := by
  induction text with
  | nil => rfl
  | cons c rest ih =>
    rw [List.mem_cons, not_or] at hstar hany hopen
    exact plain_cons_iff.mpr ⟨⟨Ne.symm hstar.1, Ne.symm hany.1,
      fun h => absurd h (Ne.symm hopen.1)⟩, ih hstar.2 hany.2 hopen.2⟩

/-- Characters stand for themselves. -/
theorem stands_chars_iff (part : List Char) : Stands (part.map .char) text ↔ text = part := by
  induction part generalizing text with
  | nil => rfl
  | cons c rest ih =>
    rw [List.map_cons, stands_step_iff Piece.noConfusion]
    constructor
    · rintro ⟨d, others, rfl, hc, hrest⟩
      rw [eq_of_beq hc, ih.mp hrest]
    · rintro rfl
      exact ⟨c, rest, rfl, beq_self_eq_true c, ih.mpr rfl⟩

/-- A glob that stands for anything stands for a text with one character for each piece that is no
star. -/
theorem stands_shortest (h : Stands pieces text) :
    ∃ short, Stands pieces short ∧ short.length = pieces.countP (· != .star) := by
  induction pieces generalizing text with
  | nil => exact ⟨[], rfl, rfl⟩
  | cons piece pieces ih =>
    obtain ⟨part, rest, -, hpart, hrest⟩ := h
    obtain ⟨short, hshort, hlength⟩ := ih hrest
    by_cases hstar : piece = .star
    · exact ⟨short, ⟨[], short, rfl, .inl hstar, hshort⟩, by simp [hstar, hlength]⟩
    · obtain ⟨c, -, hc⟩ := hpart.resolve_left hstar
      exact ⟨c :: short, ⟨[c], short, rfl, .inr ⟨c, rfl, hc⟩, hshort⟩, by simp [hstar, hlength]⟩

/-- A question mark as it is read, and any other character as itself. -/
def single (c : Char) : Piece := if c = '?' then .any else .char c

/-- No more characters are asked for than a glob has, and as many only if each character is read as a
piece of its own. -/
theorem countP_read (text : List Char) :
    (read text).countP (· != .star) ≤ text.length ∧
      ((read text).countP (· != .star) = text.length → read text = text.map single) := by
  induction text using reading_induction with
  | nil => exact ⟨Nat.le_refl 0, fun _ => rfl⟩
  | star rest ih =>
    rw [read_star, List.countP_cons_of_neg (by decide), List.length_cons]
    exact ⟨by omega, fun h => by omega⟩
  | any rest ih =>
    rw [read_any, List.countP_cons_of_pos (by decide), List.length_cons]
    exact ⟨by omega, fun h => congrArg _ (ih.2 (by omega))⟩
  | bracket rest body hbody ih =>
    have hlength := length_lt_of_bracketBody? hbody
    rw [List.length_drop] at ih
    rw [read_bracket hbody, List.countP_cons_of_pos (by simpa using setOf_ne_star body),
      List.length_cons]
    exact ⟨by omega, fun h => by omega⟩
  | literal c rest h ih =>
    have hsingle : single c = .char c := if_neg h.2.1
    rw [read_literal h, List.countP_cons_of_pos rfl, List.length_cons, List.map_cons, hsingle]
    exact ⟨by omega, fun hall => congrArg _ (ih.2 (by omega))⟩

/-- Question marks stand for any character. -/
theorem stands_singles (part : List Char) :
    Stands (part.map single) (part.map fun c => if c = '?' then 'x' else c) := by
  induction part with
  | nil => rfl
  | cons c rest ih =>
    refine ⟨[_], _, rfl, .inr ⟨_, rfl, ?_⟩, ih⟩
    unfold single
    by_cases h : c = '?' <;> simp [h, stepHolds]

/-- The glob for texts with a part. -/
theorem read_around (part : List Char) :
    read ('*' :: (part ++ ['*'])) = .star :: (read part ++ [.star]) := by
  rw [read_star, read_append_star]

/-- Between stars a text looks for itself if it is plain, and only then. -/
theorem around_occurs_iff_plain (part : List Char) :
    (∀ text, Stands (read ('*' :: (part ++ ['*']))) text ↔ part <:+: text) ↔ Plain part := by
  simp only [read_around, stands_around_iff]
  constructor
  · intro h
    obtain ⟨found, -, hfound⟩ := (h part).mpr List.infix_rfl
    obtain ⟨short, hshort, hlength⟩ := stands_shortest hfound
    obtain ⟨hle, hsingle⟩ := countP_read part
    -- the part has to occur in the shortest text that it stands for
    have hge := ((h short).mp ⟨short, List.infix_rfl, hshort⟩).length_le
    have hread : read part = part.map single := hsingle (by omega)
    -- and in the text with other characters in the place of its question marks
    have hother := (h _).mp ⟨_, List.infix_rfl, hread ▸ stands_singles part⟩
    have hsame := hother.eq_of_length (by rw [List.length_map])
    have hnone : '?' ∉ part := by
      rw [hsame]
      simp only [List.mem_map, not_exists, not_and]
      intro c _
      split
      · decide
      · assumption
    refine hread.trans (List.map_congr_left fun c hc => if_neg ?_)
    rintro rfl
    exact hnone hc
  · intro hplain text
    rw [hplain]
    simp only [stands_chars_iff]
    exact ⟨fun ⟨_, hpart, he⟩ => he ▸ hpart, fun hpart => ⟨part, hpart, rfl⟩⟩

end Glob

end Folio.Text
