-- What is told about attributes that rows show. One pass over the rows gathers all that is seen of
-- each attribute; what has been gathered after any number of values is a fact about these values, so
-- the numbers told are those of the rows, in whatever order the rows come.
import Folio.Proofs.NearestFloats
import Folio.Proofs.NullFindings
import Folio.Proofs.NumericSorting

namespace Folio

/-! ## Things with names -/

namespace Named

variable {α : Type} {all : Named α} {name : String}

theorem get?_eq_none_iff : all.get? name = none ↔ name ∉ names all := by
  induction all with
  | nil => simp [names]
  | cons entry rest ih =>
    rw [get?_cons]
    by_cases h : entry.1 = name
    · simp [h, names]
    · simpa [h, names, Ne.symm h] using ih

theorem get?_of_mem (hnames : (names all).Nodup) {a : α} (h : (name, a) ∈ all) :
    all.get? name = some a := by
  induction all with
  | nil => simp at h
  | cons entry rest ih =>
    obtain ⟨hnot, hrest⟩ := List.nodup_cons.mp hnames
    rw [get?_cons]
    rcases List.mem_cons.mp h with rfl | hin
    · simp
    · have hname : name ∈ rest.map (·.1) := List.mem_map.mpr ⟨_, hin, rfl⟩
      have hne : entry.1 ≠ name := fun he => hnot (show entry.1 ∈ rest.map (·.1) by rwa [he])
      rw [if_neg hne, ih hrest hin]

theorem nodup_put (h : (names all).Nodup) (a : α) : (names (put all name a)).Nodup := by
  by_cases hhas : has all name = true
  · rw [names_put_of_has all name a hhas]
    exact h
  · have hnot : name ∉ names all := by
      rw [← get?_eq_none_iff]
      simpa [has_eq_isSome] using hhas
    simp only [put, hhas, Bool.false_eq_true, if_false, names, List.map_append, List.map_cons,
      List.map_nil]
    apply List.Nodup.append h (List.nodup_singleton name)
    simpa [List.disjoint_singleton] using hnot

end Named

namespace Discovery

variable {name : String} {docs : List Fields} {values : List Value} {limit : Int}

/-! ## The values of an attribute -/

/-- The values that stand under a name. -/
def under (name : String) (fields : Fields) : List Value :=
  (fields.filter (·.1 == name)).map (·.2)

/-- The values that documents have of an attribute. -/
def valuesOf (name : String) (docs : List Fields) : List Value :=
  docs.flatMap fun doc => under name (attributesOf doc)

theorem mem_under {fields : Fields} {v : Value} : v ∈ under name fields ↔ (name, v) ∈ fields := by
  unfold under
  constructor
  · intro h
    obtain ⟨⟨other, w⟩, hin, rfl⟩ := List.mem_map.mp h
    obtain ⟨hfield, hname⟩ := List.mem_filter.mp hin
    rwa [← eq_of_beq hname]
  · intro h
    exact List.mem_map.mpr ⟨_, List.mem_filter.mpr ⟨h, beq_self_eq_true name⟩, rfl⟩

theorem mem_valuesOf {v : Value} :
    v ∈ valuesOf name docs ↔ ∃ doc ∈ docs, (name, v) ∈ attributesOf doc := by
  simp [valuesOf, mem_under]

/-- Of distinct names each has one value at most. -/
theorem length_under {fields : Fields} (h : (Named.names fields).Nodup) :
    (under name fields).length = if Named.has fields name then 1 else 0 := by
  induction fields with
  | nil => rfl
  | cons field rest ih =>
    obtain ⟨hnot, hrest⟩ := List.nodup_cons.mp h
    have hlength := ih hrest
    unfold under at hlength ⊢
    by_cases hname : field.1 = name
    · have hgone : Named.has rest name = false := by
        rw [Named.has_eq_isSome, Named.get?_eq_none_iff.mpr (hname ▸ hnot)]
        rfl
      rw [hgone] at hlength
      simpa [Named.has_cons, hname] using hlength
    · simpa [Named.has_cons, hname] using hlength

theorem length_valuesOf (h : ∀ doc ∈ docs, (Named.names (attributesOf doc)).Nodup) :
    (valuesOf name docs).length = docs.countP fun doc => Named.has (attributesOf doc) name := by
  induction docs with
  | nil => rfl
  | cons doc rest ih =>
    obtain ⟨hdoc, hrest⟩ := List.forall_mem_cons.mp h
    have hlength := ih hrest
    unfold valuesOf at hlength ⊢
    rw [List.flatMap_cons, List.length_append, length_under hdoc, hlength, List.countP_cons, Nat.add_comm]

theorem valuesOf_perm {others : List Fields} (h : docs.Perm others) :
    (valuesOf name docs).Perm (valuesOf name others) := h.flatMap_right _

/-! ## All that is seen -/

/-- What is seen of an attribute in its values. -/
def seenIn (values : List Value) : Evidence := values.foldl Evidence.add .none

/-- One more value is heard of an attribute of which nothing need be known. -/
def hear (e : Option Evidence) (v : Value) : Option Evidence := some ((e.getD .none).add v)

theorem get?_note (known : Named Evidence) (other : String) (v : Value) :
    (note known other v).get? name = if other = name then hear (known.get? name) v else known.get? name := by
  unfold note hear
  by_cases h : other = name
  · simp [h]
  · simp [h, Named.get?_put_of_ne _ _ (Ne.symm h)]

theorem get?_notes (fields : Fields) (known : Named Evidence) :
    (fields.foldl (fun known field => note known field.1 field.2) known).get? name =
      (under name fields).foldl hear (known.get? name) := by
  induction fields generalizing known with
  | nil => rfl
  | cons field rest ih =>
    rw [List.foldl_cons, ih, get?_note]
    unfold under
    by_cases h : field.1 = name <;> simp [h]

theorem get?_evidence_foldl (docs : List Fields) :
    (evidence docs).get? name = (valuesOf name docs).foldl hear none := by
  have hrun (known : Named Evidence) : (docs.foldl (fun known doc =>
      (attributesOf doc).foldl (fun known field => note known field.1 field.2) known) known).get? name =
        (valuesOf name docs).foldl hear (known.get? name) := by
    induction docs generalizing known with
    | nil => rfl
    | cons doc rest ih =>
      have hrest := ih ((attributesOf doc).foldl (fun known field => note known field.1 field.2) known)
      rw [get?_notes] at hrest
      rw [List.foldl_cons, hrest]
      unfold valuesOf
      rw [List.flatMap_cons, List.foldl_append]
  exact hrun []

theorem foldl_hear (values : List Value) (e : Evidence) :
    values.foldl hear (some e) = some (values.foldl Evidence.add e) := by
  induction values generalizing e with
  | nil => rfl
  | cons v rest ih => exact ih (e.add v)

/-- What has been gathered of an attribute is what is seen in its values. -/
theorem get?_evidence {e : Evidence} (h : (evidence docs).get? name = some e) :
    e = seenIn (valuesOf name docs) := by
  rw [get?_evidence_foldl] at h
  unfold seenIn
  cases hvalues : valuesOf name docs with
  | nil =>
    rw [hvalues] at h
    cases h
  | cons v rest =>
    rw [hvalues, List.foldl_cons] at h
    exact (Option.some.inj ((foldl_hear rest _).symm.trans h)).symm

theorem nodup_evidence (docs : List Fields) : (Named.names (evidence docs)).Nodup := by
  have hfields (fields : Fields) (known : Named Evidence) (h : (Named.names known).Nodup) :
      (Named.names (fields.foldl (fun known field => note known field.1 field.2) known)).Nodup := by
    induction fields generalizing known with
    | nil => exact h
    | cons field rest ih => exact ih _ (Named.nodup_put h _)
  have hrun (known : Named Evidence) (h : (Named.names known).Nodup) : (Named.names (docs.foldl (fun known doc =>
      (attributesOf doc).foldl (fun known field => note known field.1 field.2) known) known)).Nodup := by
    induction docs generalizing known with
    | nil => exact h
    | cons doc rest ih => exact ih _ (hfields _ _ h)
  exact hrun [] List.nodup_nil

/-! ## Samples -/

/-- Different values, each under the text that identifies it. -/
structure Samples (seen : Fields) : Prop where
  keyed : ∀ entry ∈ seen, entry.1 = identity entry.2
  nodup : (Named.names seen).Nodup

theorem Samples.nil : Samples [] := ⟨by simp, List.nodup_nil⟩

/-- Values are told apart by their texts. -/
theorem Samples.different {seen : Fields} (h : Samples seen) :
    ((seen.map (·.2)).map identity).Nodup := by
  have hsame : (seen.map (·.2)).map identity = Named.names seen := by
    rw [List.map_map]
    apply List.map_congr_left
    intro entry hentry
    exact (h.keyed entry hentry).symm
  rw [hsame]
  exact h.nodup

theorem mem_addUnique {seen : Fields} {v w : Value} (h : w ∈ (addUnique seen v).map (·.2)) :
    w ∈ seen.map (·.2) ∨ w = v := by
  unfold addUnique at h
  split at h
  · exact .inl h
  · simpa using h

theorem addUnique_ne_nil (seen : Fields) (v : Value) : addUnique seen v ≠ [] := by
  unfold addUnique
  split
  · rename_i h
    intro hnil
    simp [hnil, Named.has] at h
  · simp

theorem Samples.addUnique {seen : Fields} (h : Samples seen) (v : Value) :
    Samples (Discovery.addUnique seen v) := by
  unfold Discovery.addUnique
  split
  · exact h
  · rename_i hhas
    have hnot : identity v ∉ Named.names seen := by
      rw [← Named.get?_eq_none_iff]
      simpa [Named.has_eq_isSome] using hhas
    constructor
    · intro entry hentry
      rcases List.mem_append.mp hentry with hold | hnew
      · exact h.keyed entry hold
      · rw [List.mem_singleton.mp hnew]
    · rw [Named.names, List.map_append]
      apply List.Nodup.append h.nodup (List.nodup_singleton _)
      simpa [List.disjoint_singleton] using hnot

theorem Samples.addAll {seen : Fields} (h : Samples seen) (items : List Value) :
    Samples (items.foldl Discovery.addUnique seen) := by
  induction items generalizing seen with
  | nil => exact h
  | cons v rest ih => exact ih (h.addUnique v)

theorem mem_addAll {seen : Fields} {items : List Value} {w : Value}
    (h : w ∈ (items.foldl addUnique seen).map (·.2)) : w ∈ seen.map (·.2) ∨ w ∈ items := by
  induction items generalizing seen with
  | nil => exact .inl h
  | cons v rest ih =>
    rcases ih h with hseen | hrest
    · rcases mem_addUnique hseen with hold | rfl
      · exact .inl hold
      · exact .inr List.mem_cons_self
    · exact .inr (List.mem_cons_of_mem _ hrest)

theorem addAll_eq_nil_iff {seen : Fields} {items : List Value} :
    items.foldl addUnique seen = [] ↔ seen = [] ∧ items = [] := by
  induction items generalizing seen with
  | nil => simp
  | cons v rest ih => simp [ih, addUnique_ne_nil]

/-! ## What has been gathered -/

/-- A value is an item of a list among others, and not null. -/
def IsElement (values : List Value) (v : Value) : Prop :=
  ∃ items, Value.list items ∈ values ∧ v ∈ items ∧ v.isNull = false

/-- A value is among others, neither null nor a list. -/
def IsSingle (values : List Value) (v : Value) : Prop :=
  v ∈ values ∧ v.isNull = false ∧ v.items? = none

/-- What has been gathered of an attribute after some values. -/
structure Gathered (values : List Value) (e : Evidence) : Prop where
  frequency : e.frequency = values.length
  numbers : e.numbers = values.filter isNumber
  uniques : Samples e.uniques
  elements : Samples e.elements
  single : ∀ v ∈ e.uniques.map (·.2), IsSingle values v
  element : ∀ v ∈ e.elements.map (·.2), IsElement values v
  empty_iff : e.elements = [] ↔ ∀ v, ¬ IsElement values v

theorem IsElement.append {v : Value} (h : IsElement values v) (w : Value) :
    IsElement (values ++ [w]) v := by
  obtain ⟨items, hlist, hv⟩ := h
  exact ⟨items, List.mem_append_left _ hlist, hv⟩

theorem IsSingle.append {v : Value} (h : IsSingle values v) (w : Value) :
    IsSingle (values ++ [w]) v := ⟨List.mem_append_left _ h.1, h.2⟩

/-- Only a list adds elements. -/
theorem isElement_append_iff {v w : Value} (h : w.items? = none) :
    IsElement (values ++ [w]) v ↔ IsElement values v := by
  constructor
  · rintro ⟨items, hlist, hv⟩
    rcases List.mem_append.mp hlist with hold | hnew
    · exact ⟨items, hold, hv⟩
    · rw [← List.mem_singleton.mp hnew] at h
      cases h
  · exact fun hv => hv.append w

theorem isElement_append_list {v : Value} {items : List Value} :
    IsElement (values ++ [.list items]) v ↔ IsElement values v ∨ v ∈ items.filter (!·.isNull) := by
  constructor
  · rintro ⟨others, hlist, hin, hnull⟩
    rcases List.mem_append.mp hlist with hold | hnew
    · exact .inl ⟨others, hold, hin, hnull⟩
    · cases List.mem_singleton.mp hnew
      exact .inr (List.mem_filter.mpr ⟨hin, by simp [hnull]⟩)
  · rintro (hold | hnew)
    · exact hold.append _
    · obtain ⟨hin, hnull⟩ := List.mem_filter.mp hnew
      exact ⟨items, by simp, hin, by simpa using hnull⟩

theorem gathered_nil : Gathered [] Evidence.none :=
  ⟨rfl, rfl, .nil, .nil, by simp [Evidence.none], by simp [Evidence.none],
    by simp [Evidence.none, IsElement]⟩

/-- A list adds its elements. -/
theorem Gathered.list {e : Evidence} (h : Gathered values e) (items : List Value) :
    Gathered (values ++ [.list items]) (e.add (.list items)) where
  frequency := by simp [Evidence.add, h.frequency]
  numbers := by simp [Evidence.add, h.numbers, isNumber]
  uniques := h.uniques
  elements := h.elements.addAll _
  single := fun v hv => (h.single v hv).append _
  element := by
    intro v hv
    rw [isElement_append_list]
    exact (mem_addAll hv).imp_left (h.element v)
  empty_iff := by
    have hadd : (e.add (.list items)).elements = (items.filter (!·.isNull)).foldl addUnique e.elements := rfl
    rw [hadd, addAll_eq_nil_iff, h.empty_iff, List.eq_nil_iff_forall_not_mem]
    simp only [isElement_append_list, not_or, forall_and]

theorem Gathered.null {e : Evidence} (h : Gathered values e) :
    Gathered (values ++ [.null]) (e.add .null) where
  frequency := by simp [Evidence.add, h.frequency]
  numbers := by simp [Evidence.add, h.numbers, isNumber]
  uniques := h.uniques
  elements := h.elements
  single := fun v hv => (h.single v hv).append _
  element := fun v hv => (h.element v hv).append _
  empty_iff := by
    simp only [isElement_append_iff (rfl : Value.null.items? = none)]
    exact h.empty_iff

/-- Any other value is a sample itself, as long as there is room. -/
theorem add_single {v : Value} (hnull : v.isNull = false) (hlist : v.items? = none) (e : Evidence) :
    e.add v = { e with
      frequency := e.frequency + 1
      type := (typeOf? v).or e.type
      uniques := if e.uniques.length < uniqueLimit then addUnique e.uniques v else e.uniques
      numbers := if isNumber v then e.numbers ++ [v] else e.numbers } := by
  cases v with
  | null => cases hnull
  | list items => cases hlist
  | scalar s => rfl
  | object fields => rfl

theorem Gathered.one {e : Evidence} (h : Gathered values e) {v : Value} (hnull : v.isNull = false)
    (hlist : v.items? = none) : Gathered (values ++ [v]) (e.add v) := by
  rw [add_single hnull hlist]
  refine ⟨by simp [h.frequency], ?_, ?_, h.elements, ?_, fun w hw => (h.element w hw).append v, ?_⟩
  · by_cases hnumber : isNumber v = true
    · simp [hnumber, h.numbers]
    · simp [hnumber, h.numbers]
  · dsimp only
    split
    · exact h.uniques.addUnique v
    · exact h.uniques
  · intro w hw
    dsimp only at hw
    split at hw
    · rcases mem_addUnique hw with hold | rfl
      · exact (h.single w hold).append v
      · exact ⟨by simp, hnull, hlist⟩
    · exact (h.single w hw).append v
  · simp only [isElement_append_iff hlist]
    exact h.empty_iff

theorem Gathered.add {e : Evidence} (h : Gathered values e) (v : Value) :
    Gathered (values ++ [v]) (e.add v) := by
  cases v with
  | null => exact h.null
  | list items => exact h.list items
  | scalar s => exact h.one rfl rfl
  | object fields => exact h.one rfl rfl

theorem gathered_seenIn (values : List Value) : Gathered values (seenIn values) := by
  unfold seenIn
  induction values using List.reverseRecOn with
  | nil => exact gathered_nil
  | append_singleton values v ih =>
    rw [List.foldl_append]
    exact ih.add v

/-! ## The least and the greatest number -/

/-- A value among others that none of them is less than. -/
def IsLeast (values : List Value) (v : Value) : Prop :=
  v ∈ values ∧ ∀ w ∈ values, Collection.stands w .less v = false

/-- A value among others that none of them is more than. -/
def IsGreatest (values : List Value) (v : Value) : Prop :=
  v ∈ values ∧ ∀ w ∈ values, Collection.stands w .more v = false

/-- The least and the greatest of some numbers, as floating numbers; none if there are no numbers. -/
def IsRange (numbers : List Value) : Option (Float × Float) → Prop
  | none => numbers = []
  | some (low, high) => ∃ v w, IsLeast numbers v ∧ IsGreatest numbers w ∧
      Reader.number v = .sound low ∧ Reader.number w = .sound high

/-- Where a number stands among all numbers. -/
def levelOf (v : Value) : WithBot (WithTop Rat) := (v.number?.getD .undefined).level

open Folio.Value (IsNumber)

theorem stands_numbers {v w : Value} (hv : IsNumber v) (hw : IsNumber w) (r : Relation) :
    ∃ p q, v.number? = some p ∧ w.number? = some q ∧ Collection.stands v r w = r.ofMagnitudes p q := by
  cases hv with
  | whole m => cases hw <;> exact ⟨_, _, rfl, rfl, rfl⟩
  | floating hx => cases hw <;> exact ⟨_, _, rfl, rfl, rfl⟩

theorem stands_less {v w : Value} (hv : IsNumber v) (hw : IsNumber w) :
    Collection.stands v .less w = decide (levelOf v < levelOf w) := by
  obtain ⟨p, q, hp, hq, heq⟩ := stands_numbers hv hw .less
  rw [heq, levelOf, levelOf, hp, hq]
  exact Number.Magnitude.less_eq_level (hv.defined hp) (hw.defined hq)

theorem stands_more {v w : Value} (hv : IsNumber v) (hw : IsNumber w) :
    Collection.stands v .more w = decide (levelOf w < levelOf v) := by
  obtain ⟨p, q, hp, hq, heq⟩ := stands_numbers hv hw .more
  rw [heq, levelOf, levelOf, hp, hq]
  exact Number.Magnitude.less_eq_level (hw.defined hq) (hv.defined hp)

/-- The best of some values is one of them, and none of them is better. -/
theorem best_spec {β : Type} [LinearOrder β] {better : Value → Value → Bool} (rank : Value → β)
    (h : ∀ v ∈ values, ∀ w ∈ values, better v w = decide (rank v < rank w)) {found : Value}
    (hfound : best better values = some found) :
    found ∈ values ∧ ∀ v ∈ values, better v found = false := by
  have hrun (rest : List Value) (first : Value) (hin : ∀ v ∈ first :: rest, v ∈ values) :
      (rest.foldl (fun a b => if better b a then b else a) first) ∈ first :: rest ∧
        ∀ v ∈ first :: rest, rank (rest.foldl (fun a b => if better b a then b else a) first) ≤ rank v := by
    induction rest generalizing first with
    | nil => simp
    | cons v rest ih =>
      simp only [List.forall_mem_cons] at hin
      obtain ⟨hfirst, hv, hrest⟩ := hin
      rw [List.foldl_cons, h v hv first hfirst]
      by_cases hless : rank v < rank first
      · obtain ⟨hmem, hle⟩ := ih v (List.forall_mem_cons.mpr ⟨hv, hrest⟩)
        simp only [hless, decide_true, if_true]
        refine ⟨List.mem_cons_of_mem _ hmem, ?_⟩
        intro w hw
        rcases List.mem_cons.mp hw with rfl | hw
        · exact (hle v List.mem_cons_self).trans hless.le
        · exact hle w hw
      · obtain ⟨hmem, hle⟩ := ih first (List.forall_mem_cons.mpr ⟨hfirst, hrest⟩)
        simp only [hless, decide_false, Bool.false_eq_true, if_false]
        refine ⟨?_, ?_⟩
        · rw [List.mem_cons] at hmem ⊢
          exact hmem.imp_right (List.mem_cons_of_mem v)
        · intro w hw
          simp only [List.mem_cons] at hw
          rcases hw with rfl | rfl | hw
          · exact hle w List.mem_cons_self
          · exact (hle first List.mem_cons_self).trans (not_lt.mp hless)
          · exact hle w (List.mem_cons_of_mem _ hw)
  cases values with
  | nil => cases hfound
  | cons first rest =>
    obtain ⟨hmem, hle⟩ := hrun rest first fun v hv => hv
    cases hfound
    refine ⟨hmem, ?_⟩
    intro v hv
    rw [h v hv _ hmem]
    exact decide_eq_false (not_lt.mpr (hle v hv))

/-- A number that a floating number can stand for: defined, and not beyond all of them. -/
def InRange (v : Value) : Prop := IsNumber v ∧ ∀ n, v = .int n → n.natAbs < Number.rangeEnd

theorem InRange.read {v : Value} (h : InRange v) : ∃ x, Reader.number v = .sound x := by
  obtain ⟨hnumber, hrange⟩ := h
  cases hnumber with
  | floating hx => exact ⟨_, rfl⟩
  | whole n =>
    obtain ⟨x, hx⟩ := Option.isSome_iff_exists.mp (Number.ofInt?_isSome (hrange n rfl))
    refine ⟨x, ?_⟩
    have hread : Reader.number (.int n) = Reader.ofOption (Number.ofInt? n) := rfl
    rw [hread, hx]
    rfl

/-- Numbers within range have a least and a greatest one. -/
theorem rangeOf_sound {numbers : List Value} (h : ∀ v ∈ numbers, InRange v) :
    ∃ range, rangeOf numbers = .sound range ∧ IsRange numbers range := by
  cases hnumbers : numbers with
  | nil => exact ⟨none, rfl, rfl⟩
  | cons first rest =>
    rw [← hnumbers]
    obtain ⟨low, hlow⟩ : ∃ low, best (fun a b => Collection.stands a .less b) numbers = some low := by
      rw [hnumbers]
      exact ⟨_, rfl⟩
    obtain ⟨high, hhigh⟩ : ∃ high, best (fun a b => Collection.stands a .more b) numbers = some high := by
      rw [hnumbers]
      exact ⟨_, rfl⟩
    have hleast : IsLeast numbers low := best_spec levelOf
      (fun v hv w hw => stands_less (h v hv).1 (h w hw).1) hlow
    have hgreatest : IsGreatest numbers high := best_spec (fun v => OrderDual.toDual (levelOf v))
      (fun v hv w hw => stands_more (h v hv).1 (h w hw).1) hhigh
    obtain ⟨x, hx⟩ := (h low hleast.1).read
    obtain ⟨y, hy⟩ := (h high hgreatest.1).read
    refine ⟨some (x, y), ?_, low, high, hleast, hgreatest, hx, hy⟩
    simp only [rangeOf, hlow, hhigh, Reader.pair, hx, hy, Checked.map, Checked.both, Checked.within]

/-! ## What is told -/

/-- The samples of an attribute: items of its lists, if they have any, or else values of its own. -/
structure SampledFrom (values : List Value) (limit : Int) (samples : List Value) : Prop where
  different : (samples.map identity).Nodup
  elements : (∃ v, IsElement values v) → samples.length ≤ limit ∧ ∀ v ∈ samples, IsElement values v
  singles : (¬∃ v, IsElement values v) →
    samples.length ≤ scalarSampleLimit ∧ ∀ v ∈ samples, IsSingle values v

theorem sortSamples_perm (items : List Value) : (sortSamples items).Perm items := by
  unfold sortSamples
  split
  rename_i sorted hsorted
  exact Collection.sortBy_perm hsorted

/-- What is told of an attribute of which some values have been seen. -/
theorem attribute_of_gathered {e : Evidence} (h : Gathered values e) (hlimit : 0 ≤ limit)
    (hrange : ∀ v ∈ values, isNumber v = true → InRange v) (name : String) (total : Nat) :
    ∃ a, e.attribute name total limit = .sound a ∧ a.name = name ∧ a.frequency = values.length ∧
      a.total = total ∧ IsRange (values.filter isNumber) a.range ∧ SampledFrom values limit a.samples := by
  have hnumbers : ∀ v ∈ e.numbers, InRange v := by
    intro v hv
    rw [h.numbers, List.mem_filter] at hv
    exact hrange v hv.1 hv.2
  obtain ⟨range, hsound, hspec⟩ := rangeOf_sound hnumbers
  rw [h.numbers] at hspec
  refine ⟨_, by rw [Evidence.attribute, hsound]; rfl, rfl, by rw [h.frequency], rfl, hspec, ?_⟩
  by_cases hempty : e.elements = []
  · have hnone : ¬∃ v, IsElement values v := not_exists.mpr (h.empty_iff.mp hempty)
    simp only [hempty, List.isEmpty_nil, if_true]
    refine ⟨?_, fun hsome => absurd hsome hnone, fun _ => ⟨List.length_take_le _ _, ?_⟩⟩
    · rw [List.map_take]
      exact h.uniques.different.sublist (List.take_sublist _ _)
    · intro v hv
      exact h.single v (List.mem_of_mem_take hv)
  · have hsome : ∃ v, IsElement values v := by
      by_contra hnone
      exact hempty (h.empty_iff.mpr (not_exists.mp hnone))
    have hperm := sortSamples_perm (e.elements.map (·.2))
    have hfront := upTo_sublist limit (sortSamples (e.elements.map (·.2)))
    simp only [hempty, List.isEmpty_iff, if_false]
    refine ⟨?_, fun _ => ⟨length_upTo_le hlimit, ?_⟩, fun hnone => absurd hsome hnone⟩
    · exact ((hperm.map identity).nodup_iff.mpr h.elements.different).sublist (hfront.map identity)
    · intro v hv
      exact h.element v (hperm.mem_iff.mp (hfront.subset hv))

/-- Rows of which statistics can be told: each name of a row has one value, whole numbers are within
the range of floating ones, and floating numbers are defined. -/
structure Regular (docs : List Fields) : Prop where
  names : ∀ doc ∈ docs, (Named.names (attributesOf doc)).Nodup
  whole : ∀ doc ∈ docs, ∀ name n, (name, .int n) ∈ attributesOf doc → n.natAbs < Number.rangeEnd
  floating : ∀ doc ∈ docs, ∀ name x, (name, .float x) ∈ attributesOf doc → Number.magnitude x ≠ .undefined

theorem Regular.perm (h : Regular docs) {others : List Fields} (hperm : docs.Perm others) :
    Regular others where
  names := fun doc hdoc => h.names doc (hperm.mem_iff.mpr hdoc)
  whole := fun doc hdoc => h.whole doc (hperm.mem_iff.mpr hdoc)
  floating := fun doc hdoc => h.floating doc (hperm.mem_iff.mpr hdoc)

theorem Regular.inRange (h : Regular docs) {v : Value} (hv : v ∈ valuesOf name docs)
    (hnumber : isNumber v = true) : InRange v := by
  obtain ⟨doc, hdoc, hfield⟩ := mem_valuesOf.mp hv
  unfold isNumber at hnumber
  split at hnumber
  · rename_i n
    refine ⟨.whole n, ?_⟩
    intro m hm
    cases hm
    exact h.whole doc hdoc name n hfield
  · rename_i x
    refine ⟨.floating (h.floating doc hdoc name x hfield), ?_⟩
    intro m hm
    cases hm
  · cases hnumber

/-- What is told of an attribute is so in the rows. -/
structure Describes (docs : List Fields) (limit : Int) (a : Attribute) : Prop where
  frequency : a.frequency = docs.countP fun doc => Named.has (attributesOf doc) a.name
  total : a.total = docs.length
  range : IsRange ((valuesOf a.name docs).filter isNumber) a.range
  samples : SampledFrom (valuesOf a.name docs) limit a.samples

/-- Statistics of rows: each attribute of a row once, by name. -/
structure Statistics (docs : List Fields) (limit : Int) (found : List Attribute) : Prop where
  increasing : found.Pairwise fun a b => a.name < b.name
  unreserved : ∀ a ∈ found, a.name ∉ reserved
  complete : ∀ name, (∃ a ∈ found, a.name = name) ↔ ∃ doc ∈ docs, Mentions name doc
  describes : ∀ a ∈ found, Describes docs limit a

theorem not_reserved {doc : Fields} (h : Mentions name doc) : name ∉ reserved := by
  have hfields : ∃ fields : Fields, attributesOf doc = fields.filter fun field => !reserved.contains field.1 := by
    unfold attributesOf
    split <;> exact ⟨_, rfl⟩
  obtain ⟨fields, heq⟩ := hfields
  unfold Mentions at h
  rw [heq, Named.has, List.any_filter, List.any_eq_true] at h
  obtain ⟨field, -, hfield⟩ := h
  rw [Bool.and_eq_true, beq_iff_eq] at hfield
  rw [← hfield.2]
  simpa using hfield.1

/-- If each entry makes an attribute of its name, they make a list of them. -/
theorem told_sound {entries : Named Evidence} {total : Nat} {P : Attribute → Prop}
    (h : ∀ entry ∈ entries, ∃ a, entry.2.attribute entry.1 total limit = .sound a ∧ a.name = entry.1 ∧ P a) :
    ∃ found, entries.foldr (fun (name, e) (rest : Checked (List Attribute)) =>
      (e.attribute name total limit).andThen fun a => rest.map (a :: ·)) (.sound []) = .sound found ∧
      found.map (·.name) = entries.map Prod.fst ∧ ∀ a ∈ found, P a := by
  induction entries with
  | nil => exact ⟨[], rfl, rfl, by simp⟩
  | cons entry rest ih =>
    obtain ⟨⟨a, ha, hname, hp⟩, hrest⟩ := List.forall_mem_cons.mp h
    obtain ⟨found, hfound, hnames, hall⟩ := ih hrest
    refine ⟨a :: found, ?_, ?_, List.forall_mem_cons.mpr ⟨hp, hall⟩⟩
    · rw [List.foldr_cons, hfound]
      dsimp only
      rw [ha]
      rfl
    · rw [List.map_cons, List.map_cons, hname, hnames]

theorem describes_of_entry (h : Regular docs) (hlimit : 0 ≤ limit) {entry : String × Evidence}
    (hentry : entry ∈ evidence docs) :
    ∃ a, entry.2.attribute entry.1 docs.length limit = .sound a ∧ a.name = entry.1 ∧ Describes docs limit a := by
  obtain ⟨name, e⟩ := entry
  have hseen : e = seenIn (valuesOf name docs) :=
    get?_evidence (Named.get?_of_mem (nodup_evidence docs) hentry)
  have hgathered := gathered_seenIn (valuesOf name docs)
  rw [← hseen] at hgathered
  obtain ⟨a, ha, rfl, hfrequency, htotal, hrange, hsamples⟩ :=
    attribute_of_gathered hgathered hlimit (fun v hv => h.inRange hv) name docs.length
  refine ⟨a, ha, rfl, ?_, htotal, hrange, hsamples⟩
  rw [hfrequency, length_valuesOf h.names]

/-- Statistics of rows can be told, and they are so. -/
theorem statistics_of_rows (h : Regular docs) (hlimit : 0 ≤ limit) :
    ∃ found, ofDocuments docs limit = .sound found ∧ Statistics docs limit found := by
  have hperm := Json.byName_perm (evidence docs)
  have hentries : ∀ entry ∈ Json.byName (evidence docs), ∃ a,
      entry.2.attribute entry.1 docs.length limit = .sound a ∧ a.name = entry.1 ∧ Describes docs limit a :=
    fun entry hentry => describes_of_entry h hlimit (hperm.mem_iff.mp hentry)
  obtain ⟨found, hfound, hnames, hall⟩ := told_sound hentries
  have hcomplete (name : String) : (∃ a ∈ found, a.name = name) ↔ ∃ doc ∈ docs, Mentions name doc :=
    found_iff hfound
  refine ⟨found, hfound, ?_, ?_, hcomplete, hall⟩
  · have hnodup : (found.map (·.name)).Nodup := by
      rw [hnames]
      exact (hperm.map Prod.fst).nodup_iff.mpr (nodup_evidence docs)
    have hsorted : (found.map (·.name)).Pairwise (· ≤ ·) := by
      rw [hnames, List.pairwise_map]
      exact Json.byName_sorted (evidence docs)
    have hstrict := hsorted.and hnodup
    rw [List.pairwise_map] at hstrict
    exact hstrict.imp fun hab => lt_of_le_of_ne hab.1 hab.2
  · intro a ha
    obtain ⟨doc, -, hdoc⟩ := (hcomplete a.name).mp ⟨a, ha, rfl⟩
    exact not_reserved hdoc

/-! ## The order of the rows -/

/-- Two ranges of the same numeric values. -/
def SameRange : Option (Float × Float) → Option (Float × Float) → Prop
  | none, none => True
  | some (low, high), some (low', high') =>
    (Number.magnitude low).same (Number.magnitude low') = true ∧
      (Number.magnitude high).same (Number.magnitude high') = true
  | _, _ => False

/-- Two attributes of which the same is told, apart from samples and types. -/
structure SameStatistics (a b : Attribute) : Prop where
  name : a.name = b.name
  frequency : a.frequency = b.frequency
  total : a.total = b.total
  range : SameRange a.range b.range

theorem nearest_of_read {n : Int} {x : Float} (h : Reader.number (.int n) = .sound x) :
    Number.nearest? n = some x := by
  have hread : Reader.number (.int n) = Reader.ofOption (Number.ofInt? n) := rfl
  rw [hread] at h
  unfold Reader.ofOption Number.ofInt? at h
  cases hx : Number.nearest? n with
  | none =>
    rw [hx] at h
    cases h
  | some y =>
    rw [hx] at h
    cases h
    rfl

/-- What is read of a number is defined. -/
theorem defined_of_read {v : Value} (hv : IsNumber v) {x : Float} (hx : Reader.number v = .sound x) :
    Number.magnitude x ≠ .undefined := by
  cases hv with
  | whole n => exact Number.nearest?_defined (nearest_of_read hx)
  | floating hdefined =>
    cases hx
    exact hdefined

theorem finite_of_level {p : Number.Magnitude} {q : Rat} (hp : p ≠ .undefined)
    (h : p.level = (Number.Magnitude.finite q).level) : p = .finite q := by
  cases p with
  | undefined => exact absurd rfl hp
  | finite r => simpa [Number.Magnitude.level] using h
  | infinite negative => cases negative <;> simp [Number.Magnitude.level] at h

/-- A whole number and a floating one of its value are read as the same. -/
theorem level_of_read {n : Int} {y : Float} (hy : Number.magnitude y ≠ .undefined)
    (h : levelOf (.int n) = levelOf (.float y)) {x : Float} (hx : Reader.number (.int n) = .sound x) :
    (Number.magnitude x).level = (Number.magnitude y).level := by
  have hexact : Number.magnitude y = .finite n := finite_of_level hy h.symm
  obtain ⟨z, hz, hvalue⟩ := Number.nearest?_exact hexact
  rw [nearest_of_read hx] at hz
  cases hz
  rw [hvalue, hexact]

/-- Numbers of one value are read as floating numbers of one value. -/
theorem same_of_levelOf {v w : Value} (hv : IsNumber v) (hw : IsNumber w) (h : levelOf v = levelOf w)
    {x y : Float} (hx : Reader.number v = .sound x) (hy : Reader.number w = .sound y) :
    (Number.magnitude x).same (Number.magnitude y) = true := by
  rw [Number.Magnitude.same_eq_level (defined_of_read hv hx) (defined_of_read hw hy), decide_eq_true_iff]
  cases hv with
  | whole m =>
    cases hw with
    | whole n =>
      have hmn : m = n := by simpa [levelOf, Value.number?, Number.ofWhole, Number.Magnitude.level] using h
      subst hmn
      rw [hx] at hy
      cases hy
      rfl
    | floating hdefined =>
      cases hy
      exact level_of_read hdefined h hx
  | floating hdefined =>
    cases hx
    cases hw with
    | whole n => exact (level_of_read hdefined h.symm hy).symm
    | floating hother =>
      cases hy
      exact h

/-- One least number has the place of another one. -/
theorem levelOf_least {numbers others : List Value} (hnumbers : ∀ v ∈ numbers, IsNumber v)
    (hperm : numbers.Perm others) {v w : Value} (hv : IsLeast numbers v) (hw : IsLeast others w) :
    levelOf v = levelOf w := by
  have hwin : w ∈ numbers := hperm.mem_iff.mpr hw.1
  have hvw := hv.2 w hwin
  have hwv := hw.2 v (hperm.mem_iff.mp hv.1)
  rw [stands_less (hnumbers w hwin) (hnumbers v hv.1)] at hvw
  rw [stands_less (hnumbers v hv.1) (hnumbers w hwin)] at hwv
  exact le_antisymm (not_lt.mp (of_decide_eq_false hvw)) (not_lt.mp (of_decide_eq_false hwv))

theorem levelOf_greatest {numbers others : List Value} (hnumbers : ∀ v ∈ numbers, IsNumber v)
    (hperm : numbers.Perm others) {v w : Value} (hv : IsGreatest numbers v) (hw : IsGreatest others w) :
    levelOf v = levelOf w := by
  have hwin : w ∈ numbers := hperm.mem_iff.mpr hw.1
  have hvw := hv.2 w hwin
  have hwv := hw.2 v (hperm.mem_iff.mp hv.1)
  rw [stands_more (hnumbers w hwin) (hnumbers v hv.1)] at hvw
  rw [stands_more (hnumbers v hv.1) (hnumbers w hwin)] at hwv
  exact le_antisymm (not_lt.mp (of_decide_eq_false hwv)) (not_lt.mp (of_decide_eq_false hvw))

/-- Numbers in another order have a range of the same values. -/
theorem IsRange.perm {numbers others : List Value} (hnumbers : ∀ v ∈ numbers, IsNumber v)
    (hperm : numbers.Perm others) {range other : Option (Float × Float)} (h : IsRange numbers range)
    (h' : IsRange others other) : SameRange range other := by
  cases range with
  | none =>
    cases other with
    | none => trivial
    | some ends =>
      obtain ⟨v, -, hv, -⟩ := h'
      have hin := hperm.mem_iff.mpr hv.1
      rw [show numbers = [] from h] at hin
      cases hin
  | some ends =>
    obtain ⟨v, w, hv, hw, hlow, hhigh⟩ := h
    cases other with
    | none =>
      have hin := hperm.mem_iff.mp hv.1
      rw [show others = [] from h'] at hin
      cases hin
    | some others' =>
      obtain ⟨v', w', hv', hw', hlow', hhigh'⟩ := h'
      have hv'in := hnumbers v' (hperm.mem_iff.mpr hv'.1)
      have hw'in := hnumbers w' (hperm.mem_iff.mpr hw'.1)
      exact ⟨same_of_levelOf (hnumbers v hv.1) hv'in (levelOf_least hnumbers hperm hv hv') hlow hlow',
        same_of_levelOf (hnumbers w hw.1) hw'in (levelOf_greatest hnumbers hperm hw hw') hhigh hhigh'⟩

theorem SameStatistics.of_describes (h : Regular docs) {others : List Fields} (hperm : docs.Perm others)
    {a b : Attribute} (ha : Describes docs limit a) (hb : Describes others limit b) (hname : a.name = b.name) :
    SameStatistics a b where
  name := hname
  frequency := by rw [ha.frequency, hb.frequency, hname, hperm.countP_eq]
  total := by rw [ha.total, hb.total, hperm.length_eq]
  range := by
    have hvalues : ((valuesOf b.name docs).filter isNumber).Perm ((valuesOf b.name others).filter isNumber) :=
      (valuesOf_perm hperm).filter isNumber
    have hrange := ha.range
    rw [hname] at hrange
    refine hrange.perm (fun v hv => ?_) hvalues hb.range
    obtain ⟨hin, hnumber⟩ := List.mem_filter.mp hv
    exact (h.inRange hin hnumber).1

theorem forall₂_of_names {P : Attribute → Attribute → Prop} {found others : List Attribute}
    (hnames : found.map (·.name) = others.map (·.name))
    (h : ∀ a ∈ found, ∀ b ∈ others, a.name = b.name → P a b) : List.Forall₂ P found others := by
  induction found generalizing others with
  | nil =>
    cases List.map_eq_nil_iff.mp hnames.symm
    exact .nil
  | cons a rest ih =>
    cases others with
    | nil => cases hnames
    | cons b more =>
      obtain ⟨hname, hrest⟩ := List.cons.inj hnames
      refine .cons (h a List.mem_cons_self b List.mem_cons_self hname) (ih hrest ?_)
      intro a ha b hb
      exact h a (List.mem_cons_of_mem _ ha) b (List.mem_cons_of_mem _ hb)

/-- Names in rising order are told by which they are. -/
theorem Statistics.names_eq {found others : List Attribute} {rows : List Fields}
    (h : Statistics docs limit found) (h' : Statistics rows limit others) (hperm : docs.Perm rows) :
    found.map (·.name) = others.map (·.name) := by
  have hrising (all : List Attribute) (h : all.Pairwise fun a b => a.name < b.name) :
      (all.map (·.name)).Pairwise (· < ·) := List.pairwise_map.mpr h
  have hnodup (all : List Attribute) (h : all.Pairwise fun a b => a.name < b.name) :
      (all.map (·.name)).Nodup := (hrising all h).imp fun hab => ne_of_lt hab
  have hsame : (found.map (·.name)).Perm (others.map (·.name)) := by
    rw [List.perm_ext_iff_of_nodup (hnodup _ h.increasing) (hnodup _ h'.increasing)]
    intro name
    rw [List.mem_map, List.mem_map, h.complete, h'.complete]
    simp only [hperm.mem_iff]
  refine hsame.eq_of_pairwise ?_ (hrising _ h.increasing) (hrising _ h'.increasing)
  intro a b _ _ hab hba
  exact absurd hab (lt_asymm hba)

/-- What is told about the attributes of rows is so, whatever order the rows come in: names in rising
order, how many rows have each, the range of its numbers, and different samples of it. -/
theorem statistics_are_exact (docs : List Fields) {limit : Int} (h : Regular docs) (hlimit : 1 ≤ limit) :
    ∃ found, ofDocuments docs limit = .sound found ∧ Statistics docs limit found ∧
      ∀ others, docs.Perm others → ∃ found', ofDocuments others limit = .sound found' ∧
        List.Forall₂ SameStatistics found found' := by
  obtain ⟨found, hfound, hstatistics⟩ := statistics_of_rows h (by omega : 0 ≤ limit)
  refine ⟨found, hfound, hstatistics, ?_⟩
  intro others hperm
  obtain ⟨found', hfound', hstatistics'⟩ := statistics_of_rows (h.perm hperm) (by omega : 0 ≤ limit)
  refine ⟨found', hfound', forall₂_of_names (hstatistics.names_eq hstatistics' hperm) ?_⟩
  intro a ha b hb hname
  exact .of_describes h hperm (hstatistics.describes a ha) (hstatistics'.describes b hb) hname

/-- Rows with prices of both kinds and with lists; one keeps its attributes in a field of their own. -/
def catalogue : List Fields := [
  [("id", .int 1), ("price", .int 12), ("tags", .list [.text "map", .null])],
  [("id", .int 2), ("attributes", .object [("price", .float 2.5), ("id", .text "b"), ("sold", .flag true)])],
  [("id", .int 3), ("price", .null), ("tags", .list []), ("sold", .flag false)]]

theorem catalogue_regular : Regular catalogue := by
  have hattributes : catalogue.map attributesOf = [[("price", .int 12), ("tags", .list [.text "map", .null])],
    [("price", .float 2.5), ("sold", .flag true)],
    [("price", .null), ("tags", .list []), ("sold", .flag false)]] := rfl
  have hrow (P : Fields → Prop) (h : ∀ fields ∈ catalogue.map attributesOf, P fields) :
      ∀ doc ∈ catalogue, P (attributesOf doc) := fun doc hdoc => h _ (List.mem_map_of_mem hdoc)
  constructor
  · apply hrow fun fields => (Named.names fields).Nodup
    rw [hattributes]
    simp [Named.names]
  · apply hrow fun fields => ∀ name n, (name, Value.int n) ∈ fields → n.natAbs < Number.rangeEnd
    rw [hattributes]
    have hprice : (12 : Int).natAbs < Number.rangeEnd := by decide +kernel
    simpa using hprice
  · apply hrow fun fields => ∀ name x, (name, Value.float x) ∈ fields → Number.magnitude x ≠ .undefined
    rw [hattributes]
    have hprice : Number.magnitude 2.5 ≠ .undefined := by decide +kernel
    simpa using hprice

theorem catalogue_is_told_exactly : Regular catalogue ∧ (1 : Int) ≤ 1000 ∧
    ∃ found, ofDocuments catalogue 1000 = .sound found ∧ Statistics catalogue 1000 found ∧
      ∀ others, catalogue.Perm others → ∃ found', ofDocuments others 1000 = .sound found' ∧
        List.Forall₂ SameStatistics found found' :=
  ⟨catalogue_regular, by decide, statistics_are_exact catalogue catalogue_regular (by decide)⟩

end Discovery

end Folio
