-- What is found of an attribute that holds only null. Null has no type, yet an attribute of which no
-- type has been seen is found as a text, and what is found takes the place of what was known. So rows
-- with nothing but null under an attribute make a text of it, whatever it was.
import Folio.Proofs.KeyedStores
import Folio.Proofs.Retyping
import Folio.Proofs.SchemaFlags
import Folio.Session.Remember

namespace Folio

namespace Discovery

variable {name : String} {known : Named Evidence} {docs : List Fields}

/-! ## What is seen of an attribute -/

/-- No type of an attribute has been seen. -/
def Untyped (name : String) (known : Named Evidence) : Prop := ∀ e, (name, e) ∈ known → e.type = none

/-- A document has an attribute. -/
def Mentions (name : String) (doc : Fields) : Prop := Named.has (attributesOf doc) name = true

theorem Untyped.note (h : Untyped name known) {other : String} {v : Value}
    (hv : other = name → v = .null) : Untyped name (note known other v) := by
  intro e he
  rcases mem_put he with hnew | hold
  · obtain ⟨rfl, rfl⟩ := Prod.mk.inj hnew
    rw [hv rfl]
    cases hseen : known.get? name with
    | none => rfl
    | some seen => exact h seen (Named.mem_of_get? hseen)
  · exact h e hold

theorem Untyped.notes (h : Untyped name known) {fields : Fields}
    (hnull : ∀ v, (name, v) ∈ fields → v = .null) :
    Untyped name (fields.foldl (fun known field => Discovery.note known field.1 field.2) known) := by
  induction fields generalizing known with
  | nil => exact h
  | cons field rest ih =>
    refine ih (h.note fun hname => ?_) fun v hv => hnull v (List.mem_cons_of_mem _ hv)
    exact hnull field.2 (hname ▸ List.mem_cons_self)

/-- Nothing but null shows no type. -/
theorem untyped_evidence (h : ∀ doc ∈ docs, ∀ v, (name, v) ∈ attributesOf doc → v = .null) :
    Untyped name (evidence docs) := by
  have hrun (rest : List Fields) (hrest : ∀ doc ∈ rest, ∀ v, (name, v) ∈ attributesOf doc → v = .null)
      (known : Named Evidence) (hknown : Untyped name known) :
      Untyped name (rest.foldl (fun known doc =>
        (attributesOf doc).foldl (fun known field => Discovery.note known field.1 field.2) known) known) := by
    induction rest generalizing known with
    | nil => exact hknown
    | cons doc rest ih =>
      refine ih (fun other hother => hrest other (List.mem_cons_of_mem _ hother)) _ ?_
      exact hknown.notes (hrest doc List.mem_cons_self)
  exact hrun docs h [] fun e he => by cases he

theorem has_note (known : Named Evidence) (other name : String) (v : Value) :
    (note known other v).has name = (other == name || known.has name) := by
  unfold note
  rw [Named.has_eq_isSome, Named.has_eq_isSome]
  by_cases h : other = name
  · rw [h, Named.get?_put_self, beq_self_eq_true]
    rfl
  · rw [Named.get?_put_of_ne _ _ (Ne.symm h), beq_false_of_ne h, Bool.false_or]

theorem has_notes (fields : Fields) (known : Named Evidence) (name : String) :
    (fields.foldl (fun known field => note known field.1 field.2) known).has name =
      (Named.has fields name || known.has name) := by
  induction fields generalizing known with
  | nil => rfl
  | cons field rest ih =>
    rw [List.foldl_cons, ih, has_note, Named.has_cons, ← Bool.or_assoc, Bool.or_comm (Named.has rest name)]

/-- An attribute has been seen just if a document has it. -/
theorem has_evidence_iff (docs : List Fields) (name : String) :
    (evidence docs).has name = true ↔ ∃ doc ∈ docs, Mentions name doc := by
  have hrun (known : Named Evidence) : (docs.foldl (fun known doc =>
      (attributesOf doc).foldl (fun known field => note known field.1 field.2) known) known).has name =
        (docs.any (fun doc => Named.has (attributesOf doc) name) || known.has name) := by
    induction docs generalizing known with
    | nil => rfl
    | cons doc rest ih =>
      rw [List.foldl_cons, ih, has_notes, List.any_cons, ← Bool.or_assoc,
        Bool.or_comm (rest.any _)]
  have hall := hrun []
  change (evidence docs).has name = _ at hall
  rw [hall]
  exact (Bool.or_false _).symm ▸ List.any_eq_true

/-! ## What is found -/

/-- Each attribute is found with the type that was seen of it, and as a text if there was none. -/
theorem found_kinds {entries : Named Evidence} {total : Nat} {limit : Int} {found : List Attribute}
    (h : entries.foldr (fun (name, e) (rest : Checked (List Attribute)) =>
      (e.attribute name total limit).andThen fun a => rest.map (a :: ·)) (.sound []) = .sound found) :
    found.map (fun a => (a.name, a.type)) =
      entries.map fun entry => (entry.1, entry.2.type.getD "string") := by
  induction entries generalizing found with
  | nil =>
    cases h
    rfl
  | cons entry rest ih =>
    obtain ⟨name, e⟩ := entry
    rw [List.foldr_cons] at h
    dsimp only at h
    generalize rest.foldr _ _ = others at h ih
    unfold Evidence.attribute at h
    cases hrange : rangeOf e.numbers with
    | flawed flaws =>
      rw [hrange] at h
      cases h
    | sound range =>
      rw [hrange] at h
      cases others with
      | flawed flaws => cases h
      | sound more =>
        cases h
        rw [List.map_cons, List.map_cons, ih rfl]

variable {limit : Int} {found : List Attribute}

theorem found_iff (h : ofDocuments docs limit = .sound found) :
    (∃ a ∈ found, a.name = name) ↔ ∃ doc ∈ docs, Mentions name doc := by
  have hnames : found.map Attribute.name =
      (sortedBy (fun a b => decide (a.1 ≤ b.1)) (evidence docs)).map Prod.fst := by
    have hkinds := congrArg (List.map Prod.fst) (found_kinds h)
    rwa [List.map_map, List.map_map] at hkinds
  have hseen : (evidence docs).has name = true ↔ name ∈ (evidence docs).map Prod.fst := by
    simp only [Named.has, List.any_eq_true, List.mem_map, beq_iff_eq]
  rw [← has_evidence_iff, hseen, ← ((sortedBy_perm _ _).map Prod.fst).mem_iff, ← hnames, List.mem_map]

theorem found_type (h : ofDocuments docs limit = .sound found) (huntyped : Untyped name (evidence docs))
    {a : Attribute} (ha : a ∈ found) (hname : a.name = name) : a.type = "string" := by
  have hkinds := found_kinds h
  have hmem : (a.name, a.type) ∈ found.map fun a => (a.name, a.type) := List.mem_map_of_mem ha
  rw [hkinds] at hmem
  obtain ⟨⟨other, e⟩, hentry, heq⟩ := List.mem_map.mp hmem
  obtain ⟨hother, htype⟩ := Prod.mk.inj heq
  have hseen : (name, e) ∈ evidence docs := by
    rw [← hname, ← hother]
    exact (sortedBy_perm _ _).mem_iff.mp hentry
  dsimp only at htype
  rw [← htype, huntyped e hseen]
  rfl

end Discovery

/-! ## What becomes of the type -/

namespace Session

open Discovery (Mentions attributesOf)

variable {s : Session} {collection name type : String} {rows : List Fields}

/-- What is found in rows of a collection is merged. -/
def Merges (s : Session) (collection : String) (rows : List Fields) : Prop :=
  s.browser.collection = some collection ∧
    ∃ found, Discovery.ofDocuments rows s.browser.settings.sampleLimit = .sound found

theorem discover_eq (h : rows = [] ∨ ¬s.Merges collection rows) : s.discover collection rows = s := by
  unfold discover
  split
  · rfl
  · rename_i hgoes
    rw [Bool.or_eq_true, not_or, List.isEmpty_iff, bne_iff_ne, not_not] at hgoes
    split
    · rename_i found hfound
      exact absurd ⟨hgoes.2, found, hfound⟩ (h.resolve_left hgoes.1)
    · rfl

theorem discover_merges {found : List Attribute} (hrows : rows ≠ [])
    (hcollection : s.browser.collection = some collection)
    (hfound : Discovery.ofDocuments rows s.browser.settings.sampleLimit = .sound found) :
    (s.discover collection rows).browser.registry = s.browser.registry.merge found := by
  have hgoes : (rows.isEmpty || s.browser.collection != some collection) = false := by
    rw [hcollection, bne_self_eq_false, Bool.or_false]
    exact List.isEmpty_eq_false_iff.mpr hrows
  unfold discover
  rw [hgoes, hfound]
  rfl

/-- Where nothing is merged, or no row has an attribute, its type is not touched. -/
theorem typeOf?_discover_of_not (h : ¬(s.Merges collection rows ∧ ∃ row ∈ rows, Mentions name row)) :
    (s.discover collection rows).browser.registry.typeOf? name = s.browser.registry.typeOf? name := by
  by_cases hrows : rows = []
  · rw [discover_eq (.inl hrows)]
  by_cases hmerges : s.Merges collection rows
  · obtain ⟨hcollection, found, hfound⟩ := hmerges
    have hnone : ∀ a ∈ found, a.name ≠ name := by
      intro a ha hname
      exact h ⟨⟨hcollection, found, hfound⟩, (Discovery.found_iff hfound).mp ⟨a, ha, hname⟩⟩
    rw [discover_merges hrows hcollection hfound]
    exact congrArg (Option.map Attribute.type) (Registry.get?_merge_of_ne hnone)
  · rw [discover_eq (.inr hmerges)]

/-- Where some row has an attribute, and all that have it hold null, it becomes a text. -/
theorem typeOf?_discover_of_nulls (hmerges : s.Merges collection rows)
    (hmentions : ∃ row ∈ rows, Mentions name row)
    (hnull : ∀ row ∈ rows, ∀ v, (name, v) ∈ attributesOf row → v = .null) :
    (s.discover collection rows).browser.registry.typeOf? name = some "string" := by
  obtain ⟨hcollection, found, hfound⟩ := hmerges
  have hrows : rows ≠ [] := by
    rintro rfl
    obtain ⟨row, hrow, -⟩ := hmentions
    cases hrow
  have htypes : ∀ a ∈ found, a.name = name → a.type = "string" := fun a ha hname =>
    Discovery.found_type hfound (Discovery.untyped_evidence hnull) ha hname
  rw [discover_merges hrows hcollection hfound, Registry.typeOf?_merge htypes,
    if_pos ((Discovery.found_iff hfound).mpr hmentions)]

/-- Rows that show nothing but null of an attribute make a text of it, and leave its type only if it
was one, or if none of them has the attribute, or if nothing is merged. Filters are read by the new
type. -/
theorem nulls_keep_type_iff (hknown : s.browser.registry.typeOf? name = some type)
    (hnull : ∀ row ∈ rows, ∀ v, (name, v) ∈ attributesOf row → v = .null) :
    ((s.discover collection rows).browser.registry.typeOf? name = some type ↔
      type = "string" ∨ ¬(s.Merges collection rows ∧ ∃ row ∈ rows, Mentions name row)) ∧
    (s.Merges collection rows → (∃ row ∈ rows, Mentions name row) →
      (s.discover collection rows).browser.registry.typeOf? name = some "string" ∧
      ∀ id op given p, Predicate.build id name op given (s.discover collection rows).browser.registry =
        .ok p → p.attrType = "string") := by
  refine ⟨⟨fun hsame => ?_, ?_⟩, fun hmerges hmentions => ?_⟩
  · by_contra hno
    obtain ⟨htype, hboth⟩ := not_or.mp hno
    obtain ⟨hmerges, hmentions⟩ := not_not.mp hboth
    rw [typeOf?_discover_of_nulls hmerges hmentions hnull] at hsame
    exact htype (Option.some.inj hsame).symm
  · rintro (rfl | hnot)
    · by_cases hboth : s.Merges collection rows ∧ ∃ row ∈ rows, Mentions name row
      · exact typeOf?_discover_of_nulls hboth.1 hboth.2 hnull
      · rw [typeOf?_discover_of_not hboth, hknown]
    · rw [typeOf?_discover_of_not hnot, hknown]
  · have htype := typeOf?_discover_of_nulls hmerges hmentions hnull
    refine ⟨htype, fun id op given p hp => ?_⟩
    obtain ⟨operand, -, rfl⟩ := Predicate.build_ok hp
    rw [htype]
    rfl

/-! ## A price that is null -/

/-- A row that holds null for an attribute. -/
def nullUnder (name : String) : Fields := [("id", .int 1), (name, .null)]

theorem null_of_mem (h : attributesOf (nullUnder name) = [(name, .null)]) :
    ∀ row ∈ [nullUnder name], ∀ v, (name, v) ∈ attributesOf row → v = .null := by
  intro row hrow v hv
  rw [List.mem_singleton.mp hrow, h] at hv
  exact (Prod.mk.inj (List.mem_singleton.mp hv)).2

/-- The title of a document that has none is still a text. -/
theorem null_title_is_a_text :
    let s := knowing [.declared "title" "string" false] []
    (s.discover "docs" [nullUnder "title"]).browser.registry.typeOf? "title" = some "string" := by
  intro s
  have hknown : s.browser.registry.typeOf? "title" = some "string" := rfl
  exact (nulls_keep_type_iff hknown (null_of_mem rfl)).1.mpr (.inl rfl)

/-- A price that is null makes a text of a known number. -/
theorem null_price_becomes_a_text :
    let s := knowing [.declared "price" "int32" false] []
    s.browser.registry.typeOf? "price" = some "int32" ∧
      (∀ row ∈ [nullUnder "price"], ∀ v, ("price", v) ∈ attributesOf row → v = .null) ∧
      (s.discover "docs" [nullUnder "price"]).browser.registry.typeOf? "price" ≠ some "int32" := by
  refine ⟨rfl, null_of_mem rfl, ?_⟩
  decide +kernel

end Session

end Folio
