-- Filters that look for a phrase. The tokens of a value are its runs of word characters in small
-- letters. A phrase is looked for in the text of all tokens with blanks between and around them; since
-- no token holds a blank and none is empty, it is found there just where its tokens follow each other.
import Folio.Proofs.Ranking
import Folio.Proofs.SmallLetters
import Mathlib.Data.List.Infix

namespace Folio

namespace Text

variable {part text : List Char} {wanted held : List (List Char)} {t : List Char} {v : Value}

/-! ## Runs of word characters -/

/-- A character that no word holds. -/
def isGap (c : Char) : Bool := !Character.isWord c

theorem modifyHead_append_nil (ts : List (List Char)) : ts.modifyHead ([] ++ ·) = ts := by
  cases ts <;> rfl

theorem wordRunsFrom_eq (run text : List Char) :
    wordRunsFrom run text =
      ((text.splitOnP isGap).modifyHead (run.reverse ++ ·)).filter (!·.isEmpty) := by
  induction text generalizing run with
  | nil => cases run <;> simp [wordRunsFrom]
  | cons c rest ih =>
    have hgap : isGap c = !Character.isWord c := rfl
    rw [List.splitOnP_cons_eq_if_modifyHead, hgap]
    unfold wordRunsFrom
    cases Character.isWord c with
    | true => simp [ih, Function.comp_def]
    | false =>
      have hrest : wordRunsFrom [] rest = (rest.splitOnP isGap).filter (!·.isEmpty) := by
        rw [ih, List.reverse_nil, modifyHead_append_nil]
      cases run <;> simp [hrest]

/-- The runs are what is left between the gaps. -/
theorem wordRuns_eq (text : List Char) :
    wordRuns text = (text.splitOnP isGap).filter (!·.isEmpty) := by
  unfold wordRuns
  rw [wordRunsFrom_eq, List.reverse_nil, modifyHead_append_nil]

theorem not_mem_of_mem_splitOnP {p : Char → Bool} (h : t ∈ text.splitOnP p) {c : Char}
    (hc : c ∈ t) : p c = false := by
  induction text generalizing t with
  | nil =>
    rw [List.splitOnP_nil, List.mem_singleton] at h
    exact absurd hc (h ▸ List.not_mem_nil)
  | cons d rest ih =>
    rw [List.splitOnP_cons_eq_if_modifyHead] at h
    split at h
    · rcases List.mem_cons.mp h with rfl | h
      · cases hc
      · exact ih h hc
    · rename_i hd
      cases hrest : rest.splitOnP p with
      | nil => exact absurd hrest (List.splitOnP_ne_nil p rest)
      | cons first others =>
        rw [hrest, List.modifyHead_cons] at h
        rcases List.mem_cons.mp h with rfl | h
        · rcases List.mem_cons.mp hc with rfl | hc
          · exact Bool.eq_false_iff.mpr hd
          · exact ih (hrest ▸ List.mem_cons_self) hc
        · exact ih (hrest ▸ List.mem_cons_of_mem _ h) hc

/-- A token is not empty and holds no blank. -/
theorem token_facts (h : t ∈ tokens v) : t ≠ [] ∧ ' ' ∉ t := by
  obtain ⟨run, hrun, rfl⟩ := List.mem_map.mp h
  rw [wordRuns_eq, List.mem_filter] at hrun
  obtain ⟨hsplit, hsome⟩ := hrun
  refine ⟨fun hnone => ?_, fun hblank => ?_⟩
  · rw [Character.lowerText_eq_nil_iff] at hnone
    rw [hnone] at hsome
    cases hsome
  · have hgap := not_mem_of_mem_splitOnP hsplit (Character.blank_of_mem_lowerText hblank)
    exact absurd hgap (by decide)

/-! ## Blanks between and around tokens -/

/-- What is decided is whether the part occurs. -/
theorem occursIn_iff : occursIn part text = true ↔ part <:+: text := by
  induction text with
  | nil => simp [occursIn]
  | cons c rest ih =>
    rw [occursIn, Bool.or_eq_true, List.isPrefixOf_iff_prefix, ih, List.infix_cons_iff]

/-- The tokens with a blank behind each of them. -/
def spaced (ts : List (List Char)) : List Char := ts.flatMap (· ++ [' '])

theorem joined_append_blank (h : held ≠ []) : joined [' '] held ++ [' '] = spaced held := by
  induction held with
  | nil => exact absurd rfl h
  | cons t rest ih =>
    cases rest with
    | nil => simp [joined, spaced]
    | cons u others =>
      rw [joined, List.append_assoc, ih (List.cons_ne_nil _ _), List.append_assoc]
      · simp [spaced]
      · simp

/-- A blank ends a token, and so tokens are told apart. -/
theorem start_of_spaced_start (hw : ∀ t ∈ wanted, ' ' ∉ t) (hh : ∀ t ∈ held, ' ' ∉ t)
    (h : spaced wanted <+: spaced held) : wanted <+: held := by
  induction wanted generalizing held with
  | nil => exact List.nil_prefix
  | cons t rest ih =>
    obtain ⟨after, hafter⟩ := h
    cases held with
    | nil => simp [spaced] at hafter
    | cons u others =>
      rw [List.forall_mem_cons] at hw hh
      have heq : t ++ ' ' :: (spaced rest ++ after) = u ++ ' ' :: spaced others := by
        simpa [spaced] using hafter
      obtain ⟨rfl, hrest⟩ : t = u ∧ spaced rest ++ after = spaced others := by
        rcases List.append_eq_append_iff.mp heq with ⟨more, rfl, hmore⟩ | ⟨more, rfl, hmore⟩
        · cases more with
          | nil => exact ⟨(List.append_nil _).symm, (List.cons.inj hmore).2⟩
          | cons c more =>
            obtain ⟨rfl, -⟩ := List.cons.inj hmore
            simp at hh
        · cases more with
          | nil => exact ⟨List.append_nil _, (List.cons.inj hmore).2.symm⟩
          | cons c more =>
            obtain ⟨rfl, -⟩ := List.cons.inj hmore
            simp at hw
      exact List.cons_prefix_cons.mpr ⟨rfl, ih hw.2 hh.2 ⟨after, hrest⟩⟩

theorem spaced_ends (ts : List (List Char)) : ∃ before, ' ' :: spaced ts = before ++ [' '] := by
  rcases List.eq_nil_or_concat ts with rfl | ⟨others, t, rfl⟩
  · exact ⟨[], rfl⟩
  · exact ⟨' ' :: (spaced others ++ t), by simp [spaced]⟩

theorem spaced_block_of_block (h : wanted <:+: held) :
    ' ' :: spaced wanted <:+: ' ' :: spaced held := by
  obtain ⟨first, last, rfl⟩ := h
  obtain ⟨before, hbefore⟩ := spaced_ends first
  refine ⟨before, spaced last, ?_⟩
  have hparts : ' ' :: spaced (first ++ wanted ++ last) =
      ' ' :: spaced first ++ spaced wanted ++ spaced last := by simp [spaced]
  rw [hparts, hbefore]
  simp

theorem block_of_spaced_block (hw : ∀ t ∈ wanted, ' ' ∉ t) (hh : ∀ t ∈ held, ' ' ∉ t)
    (h : ' ' :: spaced wanted <:+: ' ' :: spaced held) : wanted <:+: held := by
  obtain ⟨before, after, heq⟩ := h
  -- by the tokens that stand before the block
  induction held generalizing before with
  | nil =>
    have hlength := congrArg List.length heq
    cases wanted with
    | nil => exact List.nil_infix
    | cons t rest =>
      simp [spaced] at hlength
      omega
  | cons u others ih =>
    cases before with
    | nil => exact (start_of_spaced_start hw hh ⟨after, by simpa using heq⟩).isInfix
    | cons c before =>
      rw [List.forall_mem_cons] at hh
      have hrest : before ++ ' ' :: (spaced wanted ++ after) = u ++ ' ' :: spaced others := by
        simpa [spaced] using (List.cons.inj heq).2
      have hlater : ∃ more, more ++ ' ' :: spaced wanted ++ after = ' ' :: spaced others := by
        rcases List.append_eq_append_iff.mp hrest with ⟨more, rfl, hmore⟩ | ⟨more, rfl, hmore⟩
        · cases more with
          | nil => exact ⟨[], by simpa using hmore⟩
          | cons d more =>
            obtain ⟨rfl, -⟩ := List.cons.inj hmore
            simp at hh
        · exact ⟨more, by simpa using hmore.symm⟩
      obtain ⟨more, hmore⟩ := hlater
      exact List.infix_cons (ih hh.2 more hmore)

end Text

namespace Collection

open Text

/-! ## Phrases -/

/-- A phrase is held where its tokens are a block of the tokens of the value. -/
theorem holdsPhrase_iff (v reference : Value) :
    holdsPhrase v reference = true ↔ tokens reference ≠ [] ∧ tokens reference <:+: tokens v := by
  have hwanted : ∀ t ∈ tokens reference, t ≠ [] ∧ ' ' ∉ t := fun t ht => token_facts ht
  have hheld : ∀ t ∈ tokens v, ' ' ∉ t := fun t ht => (token_facts ht).2
  unfold holdsPhrase
  generalize tokens reference = wanted at hwanted
  generalize tokens v = held at hheld
  cases wanted with
  | nil => simp [joined]
  | cons t rest =>
    obtain ⟨⟨hsome, -⟩, -⟩ := List.forall_mem_cons.mp hwanted
    have hjoined : (joined [' '] (t :: rest)).isEmpty = false := by
      cases rest <;> simp [joined, hsome]
    simp only [hjoined, Bool.not_false, Bool.true_and, ne_eq, reduceCtorEq, not_false_eq_true,
      true_and, occursIn_iff, List.cons_append]
    rw [joined_append_blank (List.cons_ne_nil t rest)]
    cases held with
    | nil =>
      -- between the two blanks nothing is held
      refine iff_of_false (fun h => ?_) (by simp)
      obtain ⟨c, hc⟩ := List.exists_mem_of_ne_nil t hsome
      have hmem := h.subset (List.mem_cons_of_mem ' ' (List.mem_flatMap.mpr
        ⟨t, List.mem_cons_self, List.mem_append_left [' '] hc⟩))
      have hblank : c = ' ' := by simpa [joined] using hmem
      exact (hwanted t List.mem_cons_self).2 (hblank ▸ hc)
    | cons u others =>
      rw [joined_append_blank (List.cons_ne_nil u others)]
      exact ⟨block_of_spaced_block (fun t ht => (hwanted t ht).2) hheld, spaced_block_of_block⟩

theorem holdsTokens_iff (v reference : Value) :
    holdsTokens v reference = true ↔ ∀ t ∈ tokens reference, t ∈ tokens v := by
  simp [holdsTokens]

/-- The tokens of a value are what is left of it between the characters that no word holds, in small
letters. A phrase is found where it has tokens and these follow each other in the value, whatever the
value is, and there all its tokens are found. -/
theorem phrases_are_blocks_of_tokens (doc : Fields) (attr : String) (reference : Value) :
    (∀ v, tokens v =
      (((tokenSource v).splitOnP (!Character.isWord ·)).filter (!·.isEmpty)).map
        Character.lowerText) ∧
    (∃ found, passes doc (Query.test attr "ContainsTokenSequence" reference) = .ok found ∧
      (found = true ↔ tokens reference ≠ [] ∧ tokens reference <:+: tokens (doc.get attr))) ∧
    (passes doc (Query.test attr "ContainsTokenSequence" reference) = .ok true →
      passes doc (Query.test attr "ContainsAllTokens" reference) = .ok true) := by
  have hphrase : passes doc (Query.test attr "ContainsTokenSequence" reference) =
      .ok (holdsPhrase (doc.get attr) reference) := passes_test ..
  have htokens : passes doc (Query.test attr "ContainsAllTokens" reference) =
      .ok (holdsTokens (doc.get attr) reference) := passes_test ..
  refine ⟨fun v => congrArg _ (wordRuns_eq _), ⟨_, hphrase, holdsPhrase_iff _ _⟩, ?_⟩
  rw [hphrase, htokens, Except.ok.injEq, Except.ok.injEq, holdsPhrase_iff, holdsTokens_iff]
  exact fun ⟨_, hblock⟩ t ht => hblock.subset ht

/-- A phrase of two words is found in a title, and so are its words. -/
theorem brown_fox_is_found :
    let doc : Fields := [("title", .text "The quick brown fox")]
    passes doc (Query.test "title" "ContainsTokenSequence" (.text "Brown, FOX!")) = .ok true ∧
      passes doc (Query.test "title" "ContainsAllTokens" (.text "Brown, FOX!")) = .ok true := by
  intro doc
  obtain ⟨-, -, hwords⟩ := phrases_are_blocks_of_tokens doc "title" (.text "Brown, FOX!")
  have hfound : passes doc (Query.test "title" "ContainsTokenSequence" (.text "Brown, FOX!")) =
      .ok true := by decide +kernel
  exact ⟨hfound, hwords hfound⟩

end Collection

end Folio
