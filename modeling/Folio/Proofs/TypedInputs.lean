-- Typed and given inputs. A number, a truth value or a list of items that is typed as a text is read
-- as the input that the text stands for. Blanks around it do not matter, a number is exact whatever
-- the type is, and each item between commas is read as that item of the list would be.
import Folio.Proofs.Numerals
import Folio.Proofs.Retyping
import Folio.Proofs.SmallLetters

namespace Folio

open Character Number Text

variable {text core small : List Char} {type : FieldType} {op : Operator} {s : Scalar} {n : Int}
  {b : Bool}

/-! ## Blanks around a text -/

namespace Text

/-- A text with blanks around it, or without. -/
def Padded (text core : List Char) : Prop :=
  ∃ before after, text = before ++ core ++ after ∧ before.all isBlank = true ∧
    after.all isBlank = true

theorem padded_self (core : List Char) : Padded core core := ⟨[], [], by simp⟩

theorem trimmed_of_padded (h : Padded text core) : trimmed text = trimmed core := by
  obtain ⟨before, after, rfl, hbefore, hafter⟩ := h
  rw [List.all_eq_true] at hbefore hafter
  have hfront : before.dropWhile isBlank = [] := List.dropWhile_eq_nil_iff.mpr hbefore
  have hback : after.reverse.dropWhile isBlank = [] :=
    List.dropWhile_eq_nil_iff.mpr fun c hc => hafter c (List.mem_reverse.mp hc)
  unfold trimmed
  rw [List.append_assoc, List.dropWhile_append, hfront, List.isEmpty_nil, if_pos rfl,
    List.dropWhile_append]
  split
  · rename_i hnone
    rw [List.isEmpty_iff.mp hnone, List.dropWhile_eq_nil_iff.mpr hafter]
  · rw [List.reverse_append, List.dropWhile_append, hback, List.isEmpty_nil, if_pos rfl]

/-- A text without blanks is as it is. -/
theorem trimmed_of_no_blank (h : ∀ c ∈ core, isBlank c = false) : trimmed core = core := by
  have hkept {text : List Char} (htext : ∀ c ∈ text, isBlank c = false) :
      text.dropWhile isBlank = text :=
    List.dropWhile_eq_self_iff.mpr fun hlength => by simp [htext _ (List.getElem_mem hlength)]
  unfold trimmed
  rw [hkept h, hkept fun c hc => h c (List.mem_reverse.mp hc), List.reverse_reverse]

/-! ## Texts with commas -/

/-- A text that can stand between commas. -/
structure Neat (core : List Char) : Prop where
  filled : core ≠ []
  trim : trimmed core = core
  unbroken : ',' ∉ core

theorem neat_of_no_blank (hfilled : core ≠ []) (hblank : ∀ c ∈ core, isBlank c = false)
    (hcomma : ',' ∉ core) : Neat core :=
  ⟨hfilled, trimmed_of_no_blank hblank, hcomma⟩

theorem Neat.unbroken_padded (hneat : Neat core) (h : Padded text core) : ',' ∉ text := by
  obtain ⟨before, after, rfl, hbefore, hafter⟩ := h
  rw [List.all_eq_true] at hbefore hafter
  have hcomma : isBlank ',' = false := by decide
  intro hin
  rcases List.mem_append.mp hin with hin | hin
  · rcases List.mem_append.mp hin with hin | hin
    · exact absurd (hbefore _ hin) (by simp [hcomma])
    · exact hneat.unbroken hin
  · exact absurd (hafter _ hin) (by simp [hcomma])

theorem pieces_unbroken {separator : Char} (h : separator ∉ text) :
    pieces separator text = [text] := by
  induction text with
  | nil => rfl
  | cons c rest ih =>
    rw [List.mem_cons, not_or] at h
    simp [pieces, ih h.2, Ne.symm h.1]

theorem pieces_append {separator : Char} (h : separator ∉ text) (rest : List Char) :
    pieces separator (text ++ separator :: rest) = text :: pieces separator rest := by
  induction text with
  | nil => simp [pieces]
  | cons c others ih =>
    rw [List.mem_cons, not_or] at h
    simp [pieces, ih h.2, Ne.symm h.1]

/-- Texts that are joined are the pieces between the separators. -/
theorem pieces_joined {separator : Char} {texts : List (List Char)} (hsome : texts ≠ [])
    (h : ∀ t ∈ texts, separator ∉ t) : pieces separator (joined [separator] texts) = texts := by
  induction texts with
  | nil => exact absurd rfl hsome
  | cons t rest ih =>
    rw [List.forall_mem_cons] at h
    cases rest with
    | nil => exact pieces_unbroken h.1
    | cons next others =>
      have hrest := ih (List.cons_ne_nil _ _) h.2
      rw [joined, List.append_assoc, List.singleton_append, pieces_append h.1, hrest]
      exact List.cons_ne_nil _ _

end Text

/-- The items of a text with commas are the texts between them, without their blanks. -/
theorem commaItems_joined {texts cores : List (List Char)} (hneat : ∀ core ∈ cores, Neat core)
    (hpadded : List.Forall₂ Padded texts cores) :
    commaItems (.ofList (joined [','] texts)) = cores.map fun core => .text (.ofList core) := by
  obtain ⟨htrimmed, hunbroken⟩ : texts.map trimmed = cores ∧ ∀ t ∈ texts, ',' ∉ t := by
    induction hpadded with
    | nil => exact ⟨rfl, by simp⟩
    | cons h _ ih =>
      rw [List.forall_mem_cons] at hneat
      obtain ⟨hrest, hunbroken⟩ := ih hneat.2
      refine ⟨?_, List.forall_mem_cons.mpr ⟨hneat.1.unbroken_padded h, hunbroken⟩⟩
      rw [List.map_cons, hrest, trimmed_of_padded h, hneat.1.trim]
  have hfilled : cores.filter (!·.isEmpty) = cores :=
    List.filter_eq_self.mpr fun core hcore => by simp [(hneat core hcore).filled]
  unfold commaItems
  rw [String.toList_ofList]
  cases texts with
  | nil =>
    cases htrimmed
    rfl
  | cons t rest => rw [pieces_joined (List.cons_ne_nil _ _) hunbroken, htrimmed, hfilled]

/-- A text that is read as a scalar, whatever blanks are around it. -/
structure ReadAs (type : FieldType) (core : List Char) (s : Scalar) : Prop where
  neat : Neat core
  read : ∀ text, Padded text core → parseText (.ofList text) type = .ok (some s)

/-! ## Numbers -/

namespace Number

theorem Writes.mem (h : Writes text n) {c : Char} (hc : c ∈ text) :
    c = '+' ∨ c = '-' ∨ isDecimal c = true := by
  cases h with
  | plain legible => exact .inr (.inr (legible.decimal c hc))
  | plus legible =>
    rcases List.mem_cons.mp hc with hsign | hfigure
    · exact .inl hsign
    · exact .inr (.inr (legible.decimal c hfigure))
  | minus legible =>
    rcases List.mem_cons.mp hc with hsign | hfigure
    · exact .inr (.inl hsign)
    · exact .inr (.inr (legible.decimal c hfigure))

theorem Writes.neat (h : Writes text n) : Neat text := by
  have hfilled : text ≠ [] := by
    cases h with
    | plain legible => exact legible.filled
    | plus _ => exact List.cons_ne_nil _ _
    | minus _ => exact List.cons_ne_nil _ _
  refine neat_of_no_blank hfilled (fun c hc => ?_) fun hcomma => ?_
  · rcases h.mem hc with rfl | rfl | hfigure
    · decide
    · decide
    · exact isBlank_of_isDecimal hfigure
  · rcases h.mem hcomma with hplus | hminus | hfigure
    · exact absurd hplus (by decide)
    · exact absurd hminus (by decide)
    · exact absurd hfigure (by decide)

theorem Writes.isWholeText (h : Writes text n) : isWholeText text = true := by
  obtain ⟨negative, figures, hsign, legible⟩ :
      ∃ negative figures, signOf text = (negative, figures) ∧ Legible figures := by
    cases h with
    | plain legible => exact ⟨_, _, signOf_legible legible, legible⟩
    | plus legible => exact ⟨_, _, rfl, legible⟩
    | minus legible => exact ⟨_, _, rfl, legible⟩
  have hfilled : figures.isEmpty = false := by simp [legible.filled]
  have hdecimal : figures.all isDecimal = true := List.all_eq_true.mpr legible.decimal
  unfold Folio.isWholeText
  rw [hsign]
  simp [hfilled, hdecimal]

/-- A number does not read as null, for there is no l in it. -/
theorem Writes.lowerText_ne_null (h : Writes text n) : lowerText text ≠ "null".toList := by
  intro hnull
  have hl : 'l' ∈ lowerText text := by
    rw [hnull]
    decide
  obtain ⟨c, hc, hsame⟩ :=
    exists_of_mem_lowerText hl (by decide) (by decide) (by decide) (by decide)
  have hcode : c.toNat = 0x6C ∨ c.toNat = 0x4C := by
    have hletter : 'l'.toNat = 0x6C := rfl
    rcases hsame with rfl | ⟨-, -, hcapital⟩
    · exact .inl hletter
    · exact .inr (by omega)
  rcases h.mem hc with rfl | rfl | hfigure
  · exact absurd hcode (by decide)
  · exact absurd hcode (by decide)
  · obtain ⟨d, hd⟩ := isDecimal_iff.mp hfigure
    obtain ⟨hlt, z, hz, hplace⟩ := digit?_eq hd
    rcases zeros_facts z hz with hzero | habove
    · omega
    · omega

end Number

theorem readNumber?_of_writes (h : Writes text n) (type : FieldType) :
    readNumber? type text = some (.int n) := by
  unfold readNumber?
  rw [h.isWholeText, if_pos rfl, readWhole?, readWhole_of_writes h]
  rfl

/-- A number is read as it is written, whatever kind of number the type is for. -/
theorem readAs_of_writes (hnumeric : type.isNumeric = true) (h : Writes core n) :
    ReadAs type core (.int n) := by
  refine ⟨h.neat, fun text hpadded => ?_⟩
  have htrimmed : trimmed text = core := (trimmed_of_padded hpadded).trans h.neat.trim
  have hnull : (String.ofList (lowerText core) == "null") = false := by
    rw [beq_eq_false_iff_ne, Ne, ← String.toList_inj, String.toList_ofList]
    exact h.lowerText_ne_null
  unfold parseText
  dsimp only
  rw [String.toList_ofList, htrimmed, hnull, hnumeric, readNumber?_of_writes h]
  rfl

/-! ## Words -/

/-- A truth value in small letters. -/
def flagWord (b : Bool) : List Char := (if b then "true" else "false").toList

theorem isBlank_of_letter {c : Char} (hlow : 0x61 ≤ c.toNat) (hhigh : c.toNat ≤ 0x7A) :
    isBlank c = false := by
  simp [isBlank, blankRanges, within]
  omega

theorem neat_of_lowerText (h : lowerText core = small) (hfilled : small ≠ [])
    (hletters : ∀ c ∈ small, 0x61 ≤ c.toNat ∧ c.toNat ≤ 0x7A) : Neat core := by
  subst h
  refine neat_of_no_blank (mt lowerText_eq_nil_iff.mpr hfilled) (fun c hc => ?_) fun hcomma => ?_
  · cases hblank : isBlank c with
    | false => rfl
    | true =>
      have hdotted : c ≠ 'İ' := by
        rintro rfl
        exact absurd hblank (by decide)
      have hletter := hletters c (mem_lowerText hc (lower_of_isBlank hblank) hdotted)
      exact absurd hblank (by simp [isBlank_of_letter hletter.1 hletter.2])
  · have hletter := hletters ',' (mem_lowerText hcomma (by decide) (by decide))
    exact absurd hletter.1 (by decide)

theorem neat_of_flagWord (h : lowerText core = flagWord b) : Neat core := by
  cases b with
  | true => exact neat_of_lowerText h (by simp [flagWord]) (by simp [flagWord])
  | false => exact neat_of_lowerText h (by simp [flagWord]) (by simp [flagWord])

theorem neat_of_null (h : lowerText core = "null".toList) : Neat core :=
  neat_of_lowerText h (by simp) (by simp)

theorem isNumeric_of_isBoolean (h : type.isBoolean = true) : type.isNumeric = false := by
  unfold FieldType.isBoolean at h
  unfold FieldType.isNumeric
  simp only [Bool.or_eq_true, beq_iff_eq] at h
  rcases h with hname | hname
  · rw [hname]
    decide
  · rw [hname]
    decide

/-- The words for truth are read as truth values, in capitals or in small letters. -/
theorem readAs_of_flagWord (hboolean : type.isBoolean = true) (h : lowerText core = flagWord b) :
    ReadAs type core (.flag b) := by
  have hneat := neat_of_flagWord h
  refine ⟨hneat, fun text hpadded => ?_⟩
  have htrimmed : trimmed text = core := (trimmed_of_padded hpadded).trans hneat.trim
  unfold parseText
  dsimp only
  rw [String.toList_ofList, htrimmed, h, isNumeric_of_isBoolean hboolean, hboolean]
  cases b with
  | true =>
    have hword : String.ofList (flagWord true) = "true" := String.ofList_toList
    simp [hword, trueWords]
  | false =>
    have hword : String.ofList (flagWord false) = "false" := String.ofList_toList
    simp [hword, trueWords, falseWords]

theorem lowerText_flagText (b : Bool) : lowerText (flagText b) = flagWord b := by
  cases b <;> decide +kernel

/-! ## One input -/

/-- What is typed in place of a list of items is read as its items are. -/
theorem coerce_typed_items (type : FieldType) {texts cores : List (List Char)}
    (hmany : op.takesMany = true) (hneat : ∀ core ∈ cores, Neat core)
    (hpadded : List.Forall₂ Padded texts cores) :
    coerce op (.text (.ofList (joined [','] texts))) type =
      (parseItems type (cores.map fun core => .text (.ofList core))).map .many := by
  unfold coerce inputs?
  simp only [Value.shown, hmany, if_true, commaItems_joined hneat hpadded]

theorem parseScalar_text (text : List Char) (type : FieldType) :
    parseScalar (.text (.ofList text)) type = parseText (.ofList text) type.element := by
  have helement : (if type.isArray then type.element else type) = type.element := by
    cases type with
    | none => rfl
    | some t => grind [FieldType.isArray, FieldType.element]
  rw [parseScalar, helement]

theorem ReadAs.parseScalar (h : ReadAs type.element core s) :
    parseScalar (.text (.ofList core)) type = .ok (some s) :=
  (parseScalar_text core type).trans (h.read core (padded_self core))

/-- What is read as a scalar makes it the operand, or the only item of it. -/
theorem ReadAs.coerce (op : Operator) (h : ReadAs type.element core s) (hpadded : Padded text core) :
    coerce op (.text (.ofList text)) type = .ok (if op.takesMany then .many [s] else .one s) := by
  cases hmany : op.takesMany with
  | true =>
    have hitem := coerce_typed_items type hmany (List.forall_mem_singleton.mpr h.neat)
      (.cons hpadded .nil)
    rw [joined] at hitem
    rw [hitem, List.map_singleton, parseItems, h.parseScalar]
    rfl
  | false =>
    unfold Folio.coerce inputs?
    rw [hmany]
    unfold parseOperand
    rw [if_neg Bool.false_ne_true]
    dsimp only
    rw [parseScalar_text, h.read text hpadded]
    rfl

/-- A scalar that is no text makes the same operand by itself, if its own text is read so. -/
theorem ReadAs.coerce_given (op : Operator) {shown : List Char} (h : ReadAs type.element shown s)
    (hshown : (Value.scalar s).shown = .ofList shown)
    (halone : Folio.parseScalar (.scalar s) type = .ok (some s)) :
    Folio.coerce op (.scalar s) type = .ok (if op.takesMany then .many [s] else .one s) := by
  have htyped := h.coerce op (padded_self shown)
  cases hmany : op.takesMany with
  | true =>
    rw [hmany, ← hshown] at htyped
    rw [← htyped]
    cases s <;> simp [Folio.coerce, inputs?, hmany, Value.shown]
  | false => cases s <;> simp [Folio.coerce, inputs?, hmany, parseOperand, halone, Except.map]

/-! ## Lists of inputs -/

/-- What the items of lists are typed as, by the type of an item. -/
inductive Typed (type : FieldType) : List Char → Value → Prop where
  | whole {core : List Char} {n : Int} (numeric : type.isNumeric = true) (writes : Writes core n) :
    Typed type core (.int n)
  | flag {core : List Char} {b : Bool} (boolean : type.isBoolean = true)
    (word : lowerText core = flagWord b) : Typed type core (.flag b)
  | text {core : List Char} (neat : Neat core) : Typed type core (.text (.ofList core))
  | null {core : List Char} (word : lowerText core = "null".toList) : Typed type core .null

variable {item : Value}

theorem Typed.neat (h : Typed type core item) : Neat core := by
  cases h with
  | whole _ writes => exact writes.neat
  | flag _ word => exact neat_of_flagWord word
  | text neat => exact neat
  | null word => exact neat_of_null word

/-- What an item is typed as is read as the item. -/
theorem Typed.parseScalar (h : Typed type.element core item) :
    parseScalar (.text (.ofList core)) type = parseScalar item type := by
  cases h with
  | whole numeric writes => exact (readAs_of_writes numeric writes).parseScalar
  | flag boolean word => exact (readAs_of_flagWord boolean word).parseScalar
  | text neat => rfl
  | null word =>
    have hnull : readsAsNull (.ofList core) = true := by
      unfold readsAsNull
      rw [String.toList_ofList, (neat_of_null word).trim, word, String.ofList_toList]
      rfl
    exact (parseScalar_text core type).trans (parseText_null hnull type.element)

theorem parseItems_typed {cores : List (List Char)} {items : List Value}
    (h : List.Forall₂ (Typed type.element) cores items) :
    parseItems type (cores.map fun core => .text (.ofList core)) = parseItems type items := by
  induction h with
  | nil => rfl
  | cons hfirst _ ih => rw [List.map_cons, parseItems, parseItems, hfirst.parseScalar, ih]

theorem neat_of_typed {cores : List (List Char)} {items : List Value}
    (h : List.Forall₂ (Typed type) cores items) : ∀ core ∈ cores, Neat core := by
  induction h with
  | nil => simp
  | cons hfirst _ ih => exact List.forall_mem_cons.mpr ⟨hfirst.neat, ih⟩

/-- Typed and given inputs agree. On numbers, each text of a whole number, with a sign or without and
with blanks around it, makes the operand that the number itself makes, which is that very number for
floats too; a number has such a text just if it has no more figures than can be read. On truth values
so do their words, in capitals or in small letters. And where an operator takes several values, items
that are typed between commas with blanks around them make what the list of them makes, be it an
operand or a fault; nulls are left out of both. -/
theorem typed_as_given (op : Operator) (type : FieldType) :
    (type.element.isNumeric = true →
      (∀ n : Int, Writes (wholeText n) n ↔ n.natAbs < 10 ^ digitLimit) ∧
        ∀ text numeral n, Padded text numeral → Writes numeral n →
          coerce op (.text (.ofList text)) type = coerce op (.int n) type ∧
            coerce op (.int n) type = .ok (if op.takesMany then .many [.int n] else .one (.int n))) ∧
      (type.element.isBoolean = true → ∀ text word b, Padded text word →
        lowerText word = flagWord b →
          coerce op (.text (.ofList text)) type = coerce op (.flag b) type ∧
            coerce op (.flag b) type =
              .ok (if op.takesMany then .many [.flag b] else .one (.flag b))) ∧
      (op.takesMany = true → ∀ texts cores items, List.Forall₂ Padded texts cores →
        List.Forall₂ (Typed type.element) cores items →
          coerce op (.text (.ofList (joined [','] texts))) type = coerce op (.list items) type) := by
  refine ⟨fun hnumeric => ⟨fun _ => ⟨Writes.natAbs_lt, writes_wholeText⟩,
      fun text numeral n hpadded hwrites => ?_⟩,
    fun hboolean text word b hpadded hword => ?_, fun hmany texts cores items hpadded htyped => ?_⟩
  · have hown := readAs_of_writes hnumeric (writes_wholeText hwrites.natAbs_lt)
    have hgiven := hown.coerce_given op rfl rfl
    exact ⟨((readAs_of_writes hnumeric hwrites).coerce op hpadded).trans hgiven.symm, hgiven⟩
  · have hown := readAs_of_flagWord hboolean (lowerText_flagText b)
    have hgiven := hown.coerce_given op rfl rfl
    exact ⟨((readAs_of_flagWord hboolean hword).coerce op hpadded).trans hgiven.symm, hgiven⟩
  · have hgiven : coerce op (.list items) type = (parseItems type items).map .many := rfl
    rw [hgiven, coerce_typed_items type hmany (neat_of_typed htyped) hpadded,
      parseItems_typed htyped]

theorem typed_prices_are_the_prices :
    let prices : FieldType := some "[]float32"
    coerce .containsAny (.text " 12, NULL ,+٣") prices =
        coerce .containsAny (.list [.int 12, .null, .int 3]) prices ∧
      coerce .anyLess (.text "\t-7 ") prices = coerce .anyLess (.int (-7)) prices ∧
      coerce .isIn (.text " True") (some "bool") = coerce .isIn (.flag true) (some "bool") := by
  intro prices
  obtain ⟨hnumber, -, hlist⟩ := typed_as_given .containsAny prices
  have htwelve : Writes ['1', '2'] 12 :=
    .plain ⟨by decide, List.all_eq_true.mp (by decide), by decide⟩
  have hthree : Writes ['+', '٣'] 3 :=
    .plus ⟨by decide, List.all_eq_true.mp (by decide +kernel), by decide⟩
  have hseven : Writes ['-', '7'] (-7) :=
    .minus ⟨by decide, List.all_eq_true.mp (by decide), by decide⟩
  refine ⟨hlist rfl [[' ', '1', '2'], [' ', 'N', 'U', 'L', 'L', ' '], ['+', '٣']]
    [['1', '2'], ['N', 'U', 'L', 'L'], ['+', '٣']] _ ?_ ?_, ?_, ?_⟩
  · exact .cons ⟨[' '], [], rfl, by decide, by decide⟩
      (.cons ⟨[' '], [' '], rfl, by decide, by decide⟩ (.cons (padded_self _) .nil))
  · exact .cons (.whole (by decide) htwelve)
      (.cons (.null (by decide +kernel)) (.cons (.whole (by decide) hthree) .nil))
  · exact (((typed_as_given .anyLess prices).1 (by decide)).2 _ _ _
      ⟨['\t'], [' '], rfl, by decide, by decide⟩ hseven).1
  · exact ((typed_as_given .isIn (some "bool")).2.1 (by decide) _ _ true
      ⟨[' '], [], rfl, by decide, by decide⟩ (lowerText_flagText true)).1

end Folio
