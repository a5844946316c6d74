-- The canonical text of a value is unambiguous. Two values have the same text exactly when they are
-- the same up to the order of their fields, and where a text stands inside another one its end can
-- be told.
import Folio.Proofs.FieldOrder
import Folio.Proofs.QuotedTexts
import Folio.Proofs.ShortestDecimals

namespace Folio

/-! ## Words -/

namespace Json

/-- The text of a number: figures, signs and what stands between them, or the words for numbers that
are not finite. -/
def Numeral (text : List Char) : Prop :=
  ∀ c ∈ text, c.isDigit = true ∨
    c ∈ ['.', 'e', '+', '-', 'I', 'n', 'f', 'i', 't', 'y', 'N', 'a']

/-- It is decided by a walk through the text, where all characters would be gone through otherwise. -/
instance (text : List Char) : Decidable (Numeral text) :=
  decidable_of_iff (text.all fun c => c.isDigit ||
    ['.', 'e', '+', '-', 'I', 'n', 'f', 'i', 't', 'y', 'N', 'a'].contains c) (by simp [Numeral])

theorem numeral_wholeText (n : Int) : Numeral (Number.wholeText n) := by
  have hdigits : Numeral (Number.digits n.natAbs) := fun c hc =>
    .inl (Number.figures_digits n.natAbs c hc)
  unfold Number.wholeText
  split
  · intro c hc
    rcases List.mem_cons.mp hc with rfl | hc
    · simp
    · exact hdigits c hc
  · exact hdigits

theorem floatText_finite {x : Float} {p : Number.Parts} (h : Number.parts? x = some p) :
    floatText x = (if p.negative then ['-'] else []) ++
      (if p.mantissa == 0 then ['0', '.', '0']
        else (Number.shortest p.mantissa p.exponent).text Number.plainLayout) := by
  unfold floatText Number.floatText Number.magnitude
  rw [h]

theorem numeral_floatText (x : Float) : Numeral (floatText x) := by
  cases hx : Number.parts? x with
  | some p =>
    rw [floatText_finite hx]
    intro c hc
    rcases List.mem_append.mp hc with hc | hc
    · split at hc <;> simp_all
    · split at hc
      · simp only [List.mem_cons, List.not_mem_nil, or_false] at hc
        rcases hc with rfl | rfl | rfl <;> simp
      · rcases Number.Decimal.text_chars _ _ c hc with hdigit | hmark
        · exact .inl hdigit
        · simp only [List.mem_cons, List.not_mem_nil, or_false] at hmark
          rcases hmark with rfl | rfl | rfl | rfl <;> simp
  | none =>
    rw [Number.floatText_none hx]
    split
    · split <;> decide
    · decide

/-- The text of a floating number holds a character that stands in no whole number. -/
theorem floatText_mark (x : Float) : '.' ∈ floatText x ∨ 'e' ∈ floatText x ∨ 'n' ∈ floatText x ∨
    'N' ∈ floatText x := by
  cases hx : Number.parts? x with
  | some p =>
    rw [floatText_finite hx, List.mem_append, List.mem_append]
    by_cases hzero : p.mantissa = 0
    · simp [hzero]
    · rcases Number.Decimal.text_mark Number.plainLayout
        (Number.shortest p.mantissa p.exponent) with hc | hc <;> simp [hzero, hc]
  | none =>
    rw [Number.floatText_none hx]
    split
    · split <;> decide
    · decide

theorem floatText_ne_wholeText (x : Float) (n : Int) : floatText x ≠ Number.wholeText n := by
  intro h
  have hwhole : ∀ c ∈ floatText x, c.isDigit = true ∨ c = '-' := by
    rw [h]
    unfold Number.wholeText
    split
    · intro c hc
      rcases List.mem_cons.mp hc with rfl | hc
      · exact .inr rfl
      · exact .inl (Number.figures_digits _ c hc)
    · exact fun c hc => .inl (Number.figures_digits _ c hc)
  rcases floatText_mark x with hc | hc | hc | hc <;> exact absurd (hwhole _ hc) (by decide)

/-- Values that are written as one word. -/
def isWord : Value → Bool
  | .null | .int _ | .float _ | .flag _ => true
  | _ => false

/-- The words that are no numbers. -/
def keywords : List Value := [.null, .flag true, .flag false]

theorem valueText_int (n : Int) : valueText .compact (.int n) = Number.wholeText n := by
  rw [valueText, scalarText]

theorem valueText_float (x : Float) : valueText .compact (.float x) = floatText x := by
  rw [valueText, scalarText]

theorem word_cases {v : Value} (h : isWord v = true) :
    v ∈ keywords ∨ (∃ n, v = .int n) ∨ ∃ x, v = .float x := by
  rcases v with _ | (s | n | x | b) | items | fields
  · exact .inl (by simp [keywords])
  · cases h
  · exact .inr (.inl ⟨n, rfl⟩)
  · exact .inr (.inr ⟨x, rfl⟩)
  · exact .inl (by cases b <;> simp [keywords])
  · cases h
  · cases h

/-- A keyword looks like no number. -/
theorem keyword_ne {v : Value} {text : List Char} (hv : v ∈ keywords) (h : Numeral text) :
    valueText .compact v ≠ text := by
  have hletter : 'u' ∈ valueText .compact v ∨ 's' ∈ valueText .compact v := by
    simp only [keywords, List.mem_cons, List.not_mem_nil, or_false] at hv
    rcases hv with rfl | rfl | rfl <;> decide
  rintro rfl
  rcases hletter with hc | hc <;> exact absurd (h _ hc) (by decide)

theorem keyword_injective {v w : Value} (hv : v ∈ keywords) (hw : w ∈ keywords)
    (h : valueText .compact v = valueText .compact w) : v = w := by
  simp only [keywords, List.mem_cons, List.not_mem_nil, or_false] at hv hw
  rcases hv with rfl | rfl | rfl <;> rcases hw with rfl | rfl | rfl <;>
    first | rfl | exact absurd h (by decide)

/-- Different words have different texts. -/
theorem word_injective {v w : Value} (hv : isWord v = true) (hw : isWord w = true)
    (h : valueText .compact v = valueText .compact w) : v = w := by
  rcases word_cases hv with hkey | ⟨m, rfl⟩ | ⟨x, rfl⟩
  · rcases word_cases hw with hkey' | ⟨n, rfl⟩ | ⟨y, rfl⟩
    · exact keyword_injective hkey hkey' h
    · exact absurd h (keyword_ne hkey (valueText_int n ▸ numeral_wholeText n))
    · exact absurd h (keyword_ne hkey (valueText_float y ▸ numeral_floatText y))
  · rcases word_cases hw with hkey' | ⟨n, rfl⟩ | ⟨y, rfl⟩
    · exact absurd h.symm (keyword_ne hkey' (valueText_int m ▸ numeral_wholeText m))
    · rw [valueText_int, valueText_int] at h
      rw [Number.wholeText_injective h]
    · rw [valueText_int, valueText_float] at h
      exact absurd h.symm (floatText_ne_wholeText y m)
  · rcases word_cases hw with hkey' | ⟨n, rfl⟩ | ⟨y, rfl⟩
    · exact absurd h.symm (keyword_ne hkey' (valueText_float x ▸ numeral_floatText x))
    · rw [valueText_int, valueText_float] at h
      exact absurd h (floatText_ne_wholeText x n)
    · rw [valueText_float, valueText_float] at h
      rw [Number.floatText_injective h]

/-! ## Where a value ends -/

/-- The marks that tell where a value begins or ends. -/
def isMark (c : Char) : Bool := ['"', '[', '\x7b', ',', ']', '\x7d'].contains c

theorem word_noMark {v : Value} (h : isWord v = true) :
    ∀ c ∈ valueText .compact v, isMark c = false := by
  have hnumeral {text : List Char} (h : Numeral text) : ∀ c ∈ text, isMark c = false := by
    intro c hc
    rcases h c hc with hdigit | hother
    · by_contra hmark
      have hin : c ∈ ['"', '[', '\x7b', ',', ']', '\x7d'] :=
        List.contains_iff_mem.mp (Bool.of_not_eq_false hmark)
      simp only [List.mem_cons, List.not_mem_nil, or_false] at hin
      rcases hin with rfl | rfl | rfl | rfl | rfl | rfl <;> cases hdigit
    · simp only [List.mem_cons, List.not_mem_nil, or_false] at hother
      rcases hother with rfl | rfl | rfl | rfl | rfl | rfl | rfl | rfl | rfl | rfl | rfl | rfl <;>
        rfl
  rcases word_cases h with hkey | ⟨n, rfl⟩ | ⟨x, rfl⟩
  · have hwords : ∀ v ∈ keywords, (valueText .compact v).all (fun c => !isMark c) = true := by
      decide
    simpa using hwords v hkey
  · exact hnumeral (valueText_int n ▸ numeral_wholeText n)
  · exact hnumeral (valueText_float x ▸ numeral_floatText x)

/-- What may follow a value: nothing, or a mark. -/
def Ends (rest : List Char) : Prop := ∀ c ∈ rest.head?, isMark c = true

theorem ends_cons {c : Char} (h : isMark c = true) (rest : List Char) : Ends (c :: rest) := by
  intro d hd
  cases hd
  exact h

/-- A text without marks ends where a mark follows. -/
theorem split_at_mark {s t rest rest' : List Char} (hs : ∀ c ∈ s, isMark c = false)
    (ht : ∀ c ∈ t, isMark c = false) (hrest : Ends rest) (hrest' : Ends rest')
    (h : s ++ rest = t ++ rest') : s = t ∧ rest = rest' := by
  have hnot {u : List Char} (hu : ∀ c ∈ u, isMark c = false) : ∀ c ∈ u, (!isMark c) = true :=
    fun c hc => by rw [hu c hc]; rfl
  have hstop {u : List Char} (hu : Ends u) : ∀ c ∈ u.head?, (!isMark c) = false :=
    fun c hc => by rw [hu c hc]; rfl
  have htake := congrArg (List.takeWhile (fun c => !isMark c)) h
  have hdrop := congrArg (List.dropWhile (fun c => !isMark c)) h
  rw [Text.takeWhile_append (hnot hs) (hstop hrest),
    Text.takeWhile_append (hnot ht) (hstop hrest')] at htake
  rw [Text.dropWhile_append (hnot hs) (hstop hrest),
    Text.dropWhile_append (hnot ht) (hstop hrest')] at hdrop
  exact ⟨htake, hdrop⟩

/-- The mark that a value opens with; a word has none. -/
def opening : Value → Option Char
  | .text _ => some '"'
  | .list _ => some '['
  | .object _ => some '\x7b'
  | _ => none

theorem isWord_of_opening {v : Value} (h : opening v = none) : isWord v = true := by
  rcases v with _ | (s | n | x | b) | items | fields <;> first | rfl | cases h

theorem valueText_list (items : List Value) : valueText .compact (.list items) =
    '[' :: Text.joined [','] (items.map (valueText .compact)) ++ [']'] := by
  have hitems (items : List Value) : itemTexts .compact items = items.map (valueText .compact) := by
    induction items with
    | nil => rfl
    | cons v rest ih => rw [itemTexts, ih, List.map_cons]
  rw [valueText, hitems]
  rfl

/-- The text of a field. -/
def fieldText (field : String × Value) : List Char :=
  textText field.1 ++ ':' :: valueText .compact field.2

theorem valueText_object (fields : List (String × Value)) : valueText .compact (.object fields) =
    '\x7b' :: Text.joined [','] ((byName fields).map fieldText) ++ ['\x7d'] := by
  have hfields (fields : List (String × Value)) : fieldTexts .compact fields =
      fields.map (fun field => (field.1, valueText .compact field.2)) := by
    induction fields with
    | nil => rfl
    | cons field rest ih =>
      rw [fieldTexts, ih]
      rfl
  have horder := byName_map (g := fun field : String × Value =>
    (field.1, valueText .compact field.2)) (fun _ => rfl) fields
  rw [valueText, hfields, horder, List.map_map]
  congr 3
  apply List.map_congr_left
  intro field _
  simp [fieldText, Layout.compact]

theorem word_ne_nil {v : Value} (h : isWord v = true) : valueText .compact v ≠ [] := by
  rcases word_cases h with hkey | ⟨n, rfl⟩ | ⟨x, rfl⟩
  · simp only [keywords, List.mem_cons, List.not_mem_nil, or_false] at hkey
    rcases hkey with rfl | rfl | rfl <;> decide
  · rw [valueText_int]
    unfold Number.wholeText
    split
    · simp
    · exact Number.digits_ne_nil _
  · rw [valueText_float]
    intro hnil
    have hmark := floatText_mark x
    simp [hnil] at hmark

/-- A value opens with its mark, or with a character that is none. -/
theorem valueText_head (v : Value) (rest : List Char) :
    ∃ c, (valueText .compact v ++ rest).head? = some c ∧
      opening v = if isMark c then some c else none := by
  cases ho : opening v with
  | none =>
    have hword := isWord_of_opening ho
    obtain ⟨c, more, hc⟩ := List.exists_cons_of_ne_nil (word_ne_nil hword)
    refine ⟨c, by rw [hc]; rfl, ?_⟩
    rw [word_noMark hword c (by simp [hc])]
    rfl
  | some mark =>
    rcases v with _ | (s | n | x | b) | items | fields <;> cases ho
    · exact ⟨'"', by rw [valueText, scalarText]; rfl, rfl⟩
    · exact ⟨'[', by rw [valueText_list]; rfl, rfl⟩
    · exact ⟨'\x7b', by rw [valueText_object]; rfl, rfl⟩

theorem opening_eq {v w : Value} {rest rest' : List Char}
    (h : valueText .compact v ++ rest = valueText .compact w ++ rest') : opening v = opening w := by
  obtain ⟨c, hc, hv⟩ := valueText_head v rest
  obtain ⟨d, hd, hw⟩ := valueText_head w rest'
  rw [h, hd] at hc
  cases hc
  exact hv.trans hw.symm

/-! ## The text of a value is its own -/

/-- Where the parts of a list can be told apart, so can the lists. -/
theorem joined_split {α β : Type} {f : α → List Char} {g : α → β} {close : Char}
    (hclose : close = ']' ∨ close = '\x7d')
    (hhead : ∀ a rest, (f a ++ rest).head? ≠ some close)
    {xs : List α} (hparts : ∀ a ∈ xs, ∀ b rest rest', Ends rest → Ends rest' →
      f a ++ rest = f b ++ rest' → g a = g b ∧ rest = rest')
    {ys : List α} {rest rest' : List Char}
    (h : Text.joined [','] (xs.map f) ++ close :: rest =
      Text.joined [','] (ys.map f) ++ close :: rest') :
    xs.map g = ys.map g ∧ rest = rest' := by
  -- what follows the first part: the rest of the list behind a comma, or its end
  let tail (zs : List α) (after : List Char) : List Char :=
    if zs.isEmpty then close :: after
    else ',' :: (Text.joined [','] (zs.map f) ++ close :: after)
  have hcons (z : α) (zs : List α) (after : List Char) :
      Text.joined [','] ((z :: zs).map f) ++ close :: after = f z ++ tail zs after := by
    rcases zs with _ | ⟨z', zs⟩ <;> simp [tail, Text.joined]
  have hmark : isMark close = true := by rcases hclose with rfl | rfl <;> rfl
  have hcomma : close ≠ ',' := by rcases hclose with rfl | rfl <;> decide
  have hends (zs : List α) (after : List Char) : Ends (tail zs after) := by
    unfold tail
    split
    · exact ends_cons hmark after
    · exact ends_cons rfl _
  induction xs generalizing ys with
  | nil =>
    rcases ys with _ | ⟨y, ys⟩
    · simpa [Text.joined] using h
    · rw [hcons] at h
      exact absurd (congrArg List.head? h).symm (hhead y _)
  | cons x xs ih =>
    rcases ys with _ | ⟨y, ys⟩
    · rw [hcons] at h
      exact absurd (congrArg List.head? h) (hhead x _)
    · rw [hcons, hcons] at h
      obtain ⟨hview, htail⟩ := hparts x (by simp) y _ _ (hends xs rest) (hends ys rest') h
      have hrest : xs.map g = ys.map g ∧ rest = rest' := by
        rcases xs with _ | ⟨x', xs⟩ <;> rcases ys with _ | ⟨y', ys⟩
        · exact ⟨rfl, (List.cons.inj htail).2⟩
        · exact absurd (List.cons.inj htail).1 hcomma
        · exact absurd (List.cons.inj htail).1.symm hcomma
        · exact ih (fun a ha => hparts a (by simp [ha])) (List.cons.inj htail).2
      exact ⟨by rw [List.map_cons, List.map_cons, hview, hrest.1], hrest.2⟩

/-- Two texts of values that go on to the same text belong to the same value up to the order of
fields, and what follows them is the same. -/
theorem valueText_split (v : Value) : ∀ {w : Value} {rest rest' : List Char}, Ends rest →
    Ends rest' → valueText .compact v ++ rest = valueText .compact w ++ rest' →
    v.inOrder = w.inOrder ∧ rest = rest' := by
  have hword {v w : Value} {rest rest' : List Char} (hv : opening v = none) (hrest : Ends rest)
      (hrest' : Ends rest') (h : valueText .compact v ++ rest = valueText .compact w ++ rest') :
      v.inOrder = w.inOrder ∧ rest = rest' := by
    have hv' := isWord_of_opening hv
    have hw' := isWord_of_opening ((opening_eq h).symm.trans hv)
    obtain ⟨htext, hafter⟩ := split_at_mark (word_noMark hv') (word_noMark hw') hrest hrest' h
    exact ⟨by rw [word_injective hv' hw' htext], hafter⟩
  have hhead (v : Value) (rest : List Char) {close : Char} (hclose : close = ']' ∨ close = '\x7d') :
      (valueText .compact v ++ rest).head? ≠ some close := by
    obtain ⟨c, hc, hv⟩ := valueText_head v rest
    rw [hc]
    rintro ⟨rfl⟩
    rcases hclose with rfl | rfl <;>
      (rcases v with _ | (s | n | x | b) | items | fields <;> cases hv)
  induction v using Value.parts_induction with
  | null => exact fun hrest hrest' h => hword rfl hrest hrest' h
  | scalar s =>
    intro w rest rest' hrest hrest' h
    rcases s with s | n | x | b
    · have ho := (opening_eq h).symm
      rcases w with _ | (t | n | x | b) | items | fields <;> cases ho
      rw [valueText, valueText, scalarText, scalarText] at h
      obtain ⟨rfl, hafter⟩ := textText_split h
      exact ⟨rfl, hafter⟩
    · exact hword rfl hrest hrest' h
    · exact hword rfl hrest hrest' h
    · exact hword rfl hrest hrest' h
  | list items ih =>
    intro w rest rest' hrest hrest' h
    have ho := (opening_eq h).symm
    rcases w with _ | (t | n | x | b) | others | fields <;> cases ho
    rw [valueText_list, valueText_list, List.append_assoc, List.append_assoc] at h
    obtain ⟨hitems, hafter⟩ := joined_split (g := Value.inOrder) (.inl rfl)
      (fun v rest => hhead v rest (.inl rfl)) (fun v hv w rest rest' => ih v hv) (List.cons.inj h).2
    exact ⟨by rw [Value.inOrder_list, Value.inOrder_list, hitems], hafter⟩
  | object fields ih =>
    intro w rest rest' hrest hrest' h
    have ho := (opening_eq h).symm
    rcases w with _ | (t | n | x | b) | items | others <;> cases ho
    rw [valueText_object, valueText_object, List.append_assoc, List.append_assoc] at h
    obtain ⟨hfields, hafter⟩ := joined_split (g := Value.fieldInOrder) (.inr rfl) (by
        intro field rest
        simp [fieldText, textText]) (by
        intro field hfield other rest rest' hrest hrest' h
        unfold fieldText at h
        rw [List.append_assoc, List.append_assoc] at h
        obtain ⟨hname, hvalue⟩ := textText_split h
        obtain ⟨hsame, hafter⟩ := ih field ((byName_perm fields).mem_iff.mp hfield) hrest hrest'
          (List.cons.inj hvalue).2
        exact ⟨Prod.ext hname hsame, hafter⟩) (List.cons.inj h).2
    exact ⟨by rw [Value.inOrder_object, Value.inOrder_object, hfields], hafter⟩

/-- Putting fields in order does not change the text. -/
theorem valueText_inOrder (v : Value) : valueText .compact v.inOrder = valueText .compact v := by
  induction v using Value.parts_induction with
  | null => rfl
  | scalar s => rfl
  | list items ih =>
    have hitems : (items.map Value.inOrder).map (valueText .compact) =
        items.map (valueText .compact) := by
      rw [List.map_map]
      exact List.map_congr_left ih
    rw [Value.inOrder_list, valueText_list, valueText_list, hitems]
  | object fields ih =>
    have hsorted : ((byName fields).map Value.fieldInOrder).Pairwise (fun a b => a.1 ≤ b.1) :=
      List.pairwise_map.mpr (byName_sorted fields)
    have hfields : ((byName fields).map Value.fieldInOrder).map fieldText =
        (byName fields).map fieldText := by
      rw [List.map_map]
      apply List.map_congr_left
      intro field hfield
      simp only [Function.comp_apply, fieldText, Value.fieldInOrder,
        ih field ((byName_perm fields).mem_iff.mp hfield)]
    rw [Value.inOrder_object, valueText_object, valueText_object, byName_of_sorted hsorted, hfields]

/-- Two values have the same canonical text exactly when they are the same up to the order of their
fields. -/
theorem valueText_eq_iff (v w : Value) :
    valueText .compact v = valueText .compact w ↔ v.inOrder = w.inOrder := by
  constructor
  · intro h
    have hends : Ends [] := fun c hc => nomatch hc
    exact (valueText_split v hends hends (congrArg (· ++ []) h)).1
  · intro h
    rw [← valueText_inOrder v, h, valueText_inOrder]

/-! ## No character beyond ASCII -/

/-- A text without characters beyond ASCII. -/
def Plain (text : List Char) : Prop := ∀ c ∈ text, c.toNat < 128

instance (text : List Char) : Decidable (Plain text) :=
  decidable_of_iff (text.all fun c => c.toNat < 128) (by simp [Plain])

theorem Plain.append {s t : List Char} (hs : Plain s) (ht : Plain t) : Plain (s ++ t) := by
  intro c hc
  rcases List.mem_append.mp hc with h | h
  · exact hs c h
  · exact ht c h

theorem Plain.cons {c : Char} {t : List Char} (hc : c.toNat < 128) (ht : Plain t) :
    Plain (c :: t) := by
  intro d hd
  rcases List.mem_cons.mp hd with rfl | h
  · exact hc
  · exact ht d h

theorem plain_hexText (width n : Nat) : Plain (Text.hexText width n) := by
  have hdigit : ∀ d < 16, (Text.hexDigit d).toNat < 128 := by decide
  induction width generalizing n with
  | zero => exact fun c hc => nomatch hc
  | succ width ih =>
    exact (ih (n / 16)).append (Plain.cons (hdigit _ (Nat.mod_lt n (by omega)))
      (fun c hc => nomatch hc))

theorem plain_charText (c : Char) : Plain (charText c) := by
  have hnil : Plain [] := fun c hc => nomatch hc
  have hescape (n : Nat) : Plain (unitEscape n) :=
    Plain.cons (by decide) (Plain.cons (by decide) (plain_hexText 4 n))
  unfold charText
  iterate 7
    split
    · exact Plain.cons (by decide) (Plain.cons (by decide) hnil)
  split
  · rename_i hplain
    rw [Bool.and_eq_true, decide_eq_true_eq, decide_eq_true_eq] at hplain
    have hlast : c.toNat ≤ 0x7e := UInt32.le_iff_toNat_le.mp hplain.2
    exact Plain.cons (by omega) hnil
  · split
    · exact hescape _
    · exact (hescape _).append (hescape _)

theorem plain_textText (s : String) : Plain (textText s) := by
  refine (Plain.cons (by decide) ?_).append (Plain.cons (by decide) (fun c hc => nomatch hc))
  intro c hc
  obtain ⟨d, -, hd⟩ := List.mem_flatMap.mp hc
  exact plain_charText d c hd

theorem plain_word {v : Value} (h : isWord v = true) : Plain (valueText .compact v) := by
  have hnumeral {text : List Char} (h : Numeral text) : Plain text := by
    intro c hc
    rcases h c hc with hdigit | hother
    · unfold Char.isDigit at hdigit
      rw [Bool.and_eq_true, decide_eq_true_eq, decide_eq_true_eq] at hdigit
      have hlast : c.toNat ≤ 57 := UInt32.le_iff_toNat_le.mp hdigit.2
      omega
    · have hall : Plain ['.', 'e', '+', '-', 'I', 'n', 'f', 'i', 't', 'y', 'N', 'a'] := by decide
      exact hall c hother
  rcases word_cases h with hkey | ⟨n, rfl⟩ | ⟨x, rfl⟩
  · simp only [keywords, List.mem_cons, List.not_mem_nil, or_false] at hkey
    rcases hkey with rfl | rfl | rfl <;> decide
  · exact hnumeral (valueText_int n ▸ numeral_wholeText n)
  · exact hnumeral (valueText_float x ▸ numeral_floatText x)

theorem plain_joined {texts : List (List Char)} (h : ∀ t ∈ texts, Plain t) :
    Plain (Text.joined [','] texts) := by
  induction texts with
  | nil => exact fun c hc => nomatch hc
  | cons t rest ih =>
    rcases rest with _ | ⟨u, more⟩
    · exact h t (by simp)
    · have hcomma : Plain [','] := by decide
      exact ((h t (by simp)).append hcomma).append (ih (fun s hs => h s (by simp [hs])))

/-- The canonical text of a value is plain. -/
theorem plain_valueText (v : Value) : Plain (valueText .compact v) := by
  have hnil : Plain [] := fun c hc => nomatch hc
  induction v using Value.parts_induction with
  | null => exact plain_word rfl
  | scalar s =>
    rcases s with s | n | x | b
    · rw [valueText, scalarText]
      exact plain_textText s
    · exact plain_word rfl
    · exact plain_word rfl
    · exact plain_word rfl
  | list items ih =>
    rw [valueText_list]
    refine (Plain.cons (by decide) (plain_joined ?_)).append (Plain.cons (by decide) hnil)
    intro t ht
    obtain ⟨v, hv, rfl⟩ := List.mem_map.mp ht
    exact ih v hv
  | object fields ih =>
    rw [valueText_object]
    refine (Plain.cons (by decide) (plain_joined ?_)).append (Plain.cons (by decide) hnil)
    intro t ht
    obtain ⟨field, hfield, rfl⟩ := List.mem_map.mp ht
    exact (plain_textText field.1).append
      (Plain.cons (by decide) (ih field ((byName_perm fields).mem_iff.mp hfield)))

end Json

end Folio
