-- What a schema makes of the attributes that are known. Each attribute that it declares gets the
-- declared type and keeps what documents have told about it. But merging keeps full-text search on
-- where it was on, so that a schema which turns it off is not followed.
import Folio.Proofs.Answers
import Folio.Proofs.FieldOrder
import Folio.Proofs.Merging
import Folio.Session.Perform

namespace Folio

/-! ## What is declared -/

namespace Discovery

variable {name : String} {spec : Value} {fields : Fields} {declared : List Attribute}

theorem declaration_name {a : Attribute} (h : declaration name spec = .ok a) : a.name = name := by
  unfold declaration at h
  split at h
  · cases h
    rfl
  · split at h
    · cases h
      rfl
    · cases h

/-- Whether a field of a schema declares an attribute. -/
def declares (name : String) : Bool := !(name == "$dist" || name == "attributes")

theorem declarations_cons {rest : Fields} (h : declarations ((name, spec) :: rest) = .ok declared) :
    (declares name = false ∧ declarations rest = .ok declared) ∨
      ∃ first others, declares name = true ∧ declaration name spec = .ok first ∧
        declarations rest = .ok others ∧ declared = first :: others := by
  unfold declarations at h
  split at h
  · rename_i hname
    exact .inl ⟨by rw [declares, hname]; rfl, h⟩
  · rename_i hname
    have hdeclares : declares name = true := by
      rw [declares, Bool.eq_false_of_not_eq_true hname]
      rfl
    cases hspec : declaration name spec with
    | error f =>
      rw [hspec] at h
      cases h
    | ok first =>
      cases hrest : declarations rest with
      | error f =>
        rw [hspec, hrest] at h
        cases h
      | ok others =>
        rw [hspec, hrest] at h
        cases h
        exact .inr ⟨first, others, hdeclares, rfl, rfl, rfl⟩

theorem mem_declarations_iff (h : declarations fields = .ok declared) (a : Attribute) :
    a ∈ declared ↔ ∃ field ∈ fields, declares field.1 = true ∧ declaration field.1 field.2 = .ok a := by
  induction fields generalizing declared with
  | nil =>
    cases h
    simp
  | cons field rest ih =>
    simp only [List.mem_cons, exists_eq_or_imp]
    rcases declarations_cons h with ⟨hname, hrest⟩ | ⟨first, others, hname, hfirst, hrest, rfl⟩
    · rw [ih hrest, hname]
      simp
    · rw [List.mem_cons, ih hrest, hname, hfirst, Except.ok.injEq, eq_comm (a := a)]
      simp only [true_and]

theorem declared_names (h : declarations fields = .ok declared) :
    declared.map (·.name) = (Named.names fields).filter declares := by
  induction fields generalizing declared with
  | nil =>
    cases h
    rfl
  | cons field rest ih =>
    obtain ⟨name, spec⟩ := field
    change _ = (name :: Named.names rest).filter declares
    rcases declarations_cons h with ⟨hname, hrest⟩ | ⟨first, others, hname, hfirst, hrest, rfl⟩
    · rw [List.filter_cons_of_neg (Bool.eq_false_iff.mp hname), ih hrest]
    · rw [List.filter_cons_of_pos hname, List.map_cons, ih hrest, declaration_name hfirst]

/-- The attributes of a schema are those that its fields declare. -/
theorem mem_ofSchema_iff (h : ofSchema (.object fields) = .ok declared) (a : Attribute) :
    a ∈ declared ↔ ∃ field ∈ fields, declares field.1 = true ∧ declaration field.1 field.2 = .ok a := by
  have hsorted := sortedBy_perm (fun a b : String × Value => decide (a.1 ≤ b.1)) fields
  simp only [mem_declarations_iff h, hsorted.mem_iff]

/-- A schema of distinct names declares attributes of distinct names. -/
theorem nodup_ofSchema (h : ofSchema (.object fields) = .ok declared)
    (hfields : (Named.names fields).Nodup) : (declared.map (·.name)).Nodup := by
  have hsorted := sortedBy_perm (fun a b : String × Value => decide (a.1 ≤ b.1)) fields
  have hnames := (hsorted.map Prod.fst).nodup_iff.mpr hfields
  rw [declared_names h]
  exact hnames.filter _

end Discovery

/-! ## What becomes of what is known -/

/-- An attribute as it is declared, with what documents have told about the one that was known. -/
def Attribute.confirmed (a : Attribute) (known : Option Attribute) : Attribute :=
  match known with
  | some known =>
    { a with
      frequency := known.frequency
      total := known.total
      samples := known.samples
      range := known.range }
  | none => a

/-- All that is declared is known as it is declared, and the rest as it was. -/
structure Registry.Follows (before after : Registry) (declared : List Attribute) : Prop where
  named : ∀ a ∈ declared, after.get? a.name = some (a.confirmed (before.get? a.name))
  others : ∀ name, (∀ a ∈ declared, a.name ≠ name) → after.get? name = before.get? name

namespace Browser

variable {b : Browser} {declared : List Attribute}

theorem withEvidence_eq (b : Browser) (a : Attribute) :
    b.withEvidence a = a.confirmed (b.registry.get? a.name) := by
  unfold withEvidence Attribute.confirmed
  cases hknown : b.registry.get? a.name with
  | none => rfl
  | some known =>
    dsimp only
    rw [Registry.name_of_get? hknown]

theorem withEvidence_name (b : Browser) (a : Attribute) : (b.withEvidence a).name = a.name := by
  rw [withEvidence_eq]
  unfold Attribute.confirmed
  split <;> rfl

theorem confirmed_fullText (a : Attribute) (known : Option Attribute) :
    (a.confirmed known).fullText = a.fullText := by
  unfold Attribute.confirmed
  split <;> rfl

theorem get?_declare_of_mem (h : (declared.map (·.name)).Nodup) {a : Attribute} (ha : a ∈ declared)
    (key : String) (now : Float) : (b.declare key declared now).registry.get? a.name =
      some ((a.confirmed (b.registry.get? a.name)).over (b.registry.get? a.name)) := by
  have hnames : ((declared.map b.withEvidence).map fun c => c.name).Nodup := by
    rw [List.map_map]
    exact (List.map_congr_left fun c _ => b.withEvidence_name c) ▸ h
  have hmerged := Registry.get?_merge_of_mem (r := b.registry) hnames (List.mem_map_of_mem ha)
  rw [b.withEvidence_name a] at hmerged
  rw [← withEvidence_eq]
  exact hmerged

theorem get?_declare_of_ne {name : String} (h : ∀ a ∈ declared, a.name ≠ name) (key : String)
    (now : Float) : (b.declare key declared now).registry.get? name = b.registry.get? name := by
  refine Registry.get?_merge_of_ne (List.forall_mem_map.mpr fun a ha => ?_)
  rw [b.withEvidence_name a]
  exact h a ha

/-- What is declared is followed just if it turns full-text search on wherever it was on. -/
theorem follows_iff (h : (declared.map (·.name)).Nodup) (key : String) (now : Float) :
    b.registry.Follows (b.declare key declared now).registry declared ↔
      ∀ a ∈ declared, ∀ known, b.registry.get? a.name = some known → known.fullText = true →
        a.fullText = true := by
  constructor
  · intro hfollows a ha known hknown hflag
    have hboth := Option.some.inj
      ((get?_declare_of_mem h ha key now).symm.trans (hfollows.named a ha))
    have hflags := congrArg Attribute.fullText hboth
    change ((a.confirmed _).fullText || _) = _ at hflags
    rw [confirmed_fullText, hknown, Option.any_some, hflag, Bool.or_true] at hflags
    exact hflags.symm
  · intro hflags
    refine ⟨fun a ha => ?_, fun name hname => get?_declare_of_ne hname key now⟩
    rw [get?_declare_of_mem h ha]
    cases hknown : b.registry.get? a.name with
    | none =>
      unfold Attribute.over
      rw [Option.any_none, Bool.or_false]
    | some known =>
      unfold Attribute.over
      rw [Option.any_some]
      cases hflag : known.fullText with
      | false => rw [Bool.or_false]
      | true =>
        have hon := (confirmed_fullText a (some known)).trans (hflags a ha known hknown hflag)
        rw [Bool.or_true, ← hon]

end Browser

/-! ## Loading a schema -/

namespace Session

variable {s : Session} {query : SchemaQuery} {fields : Fields}

/-- A schema is shown as soon as it is asked for. -/
structure AsksAtOnce (s : Session) (query : SchemaQuery) : Prop where
  executor : s.browser.executor = some query.backend
  current : s.browser.current? = some query.collection
  key : query.key = s.browser.attributeKey query.collection
  shows : ∃ b, s.backend? query.backend = some b ∧ b.showsSchemas = true ∧ b.schemaHeld = false

theorem takeSchema_eq {schema : Value} {declared : List Attribute}
    (hshown : s.schemaShown? query = some schema) (hdeclared : Discovery.ofSchema schema = .ok declared) :
    s.takeSchema query = (s.update (·.declare query.key declared s.clock), .ok ()) := by
  unfold takeSchema
  rw [hshown]
  dsimp only
  rw [hdeclared]

theorem loadSchema_eq (h : s.AsksAtOnce query) :
    s.loadSchema true = (s.takeSchema query).1.orRaise (s.takeSchema query).2 fun _ =>
      ((s.takeSchema query).1, .done ()) := by
  obtain ⟨b, hb, hshows, hheld⟩ := h.shows
  have hquery : (⟨query.backend, query.collection, s.browser.attributeKey query.collection⟩ :
      SchemaQuery) = query := by rw [← h.key]
  unfold loadSchema
  rw [h.current, h.executor]
  simp only [if_true, hb, hshows, hheld, Bool.not_true, Bool.false_eq_true, if_false, hquery]

/-- When a schema has been loaded, whether anything was known before or not, each attribute that it
declares is known as declared, with what documents have told about it, but for full-text search, which
stays on where it was on. So the schema is followed just if it turns nothing off. -/
theorem schema_is_followed_iff (hshown : s.schemaShown? query = some (.object fields))
    (htyped : Discovery.WellTyped (.object fields)) (hnames : (Named.names fields).Nodup) :
    ∃ t declared, s.resume (.schema query .attributes) =
        (t, .done (.attributes t.browser.registry.attributes)) ∧
      (s.AsksAtOnce query → s.perform (.loadSchema true) =
        (t, .done (.attributes t.browser.registry.attributes))) ∧
      (∀ a, a ∈ declared ↔ ∃ field ∈ fields, Discovery.declares field.1 = true ∧
        Discovery.declaration field.1 field.2 = .ok a) ∧
      (∀ a ∈ declared, t.browser.registry.get? a.name =
        some ((a.confirmed (s.browser.registry.get? a.name)).over (s.browser.registry.get? a.name))) ∧
      (∀ name, (∀ a ∈ declared, a.name ≠ name) →
        t.browser.registry.get? name = s.browser.registry.get? name) ∧
      (s.browser.registry.Follows t.browser.registry declared ↔
        ∀ a ∈ declared, ∀ known, s.browser.registry.get? a.name = some known →
          known.fullText = true → a.fullText = true) := by
  obtain ⟨declared, hdeclared⟩ := Discovery.ofSchema_ok htyped
  have hdistinct := Discovery.nodup_ofSchema hdeclared hnames
  have htaken := takeSchema_eq hshown hdeclared
  refine ⟨s.update (·.declare query.key declared s.clock), declared, ?_, fun hasks => ?_,
    Discovery.mem_ofSchema_iff hdeclared, fun a ha => Browser.get?_declare_of_mem hdistinct ha _ _,
    fun name hname => Browser.get?_declare_of_ne hname _ _, Browser.follows_iff hdistinct _ _⟩
  · unfold resume resumeSchema
    rw [htaken]
    rfl
  · change andThen (s.loadSchema true) (.schema · .attributes)
      (fun s _ => s.withAttributes .attributes) = _
    rw [loadSchema_eq hasks, htaken]
    rfl

/-! ## A schema for one attribute -/

/-- A browser that knows some attributes of a collection with a schema. -/
def knowing (attributes : List Attribute) (schema : Fields) : Session :=
  let browser := Browser.start .default (some "main") (some "docs") (some 0) none
  .start { browser with registry := ⟨attributes⟩ }
    [.ofSource (.store ⟨[("docs", [])], [("docs", .object schema)]⟩ true)] none

/-- An attribute that documents have shown. -/
def shownPrice : Attribute := ⟨"price", "number", false, 3, 4, [.int 7], none⟩

/-- What documents have shown of an attribute stays known when a schema declares it. -/
theorem shown_price_is_declared :
    let s := knowing [shownPrice] [("price", .object [("type", .text "int32")])]
    ∃ t, s.perform (.loadSchema true) = (t, .done (.attributes t.browser.registry.attributes)) ∧
      t.browser.registry.get? "price" = some { shownPrice with type := "int32" } := by
  intro s
  have hasks : s.AsksAtOnce ⟨0, "docs", "main:docs"⟩ := ⟨rfl, rfl, rfl, _, rfl, rfl, rfl⟩
  have htyped : Discovery.WellTyped (.object [("price", .object [("type", .text "int32")])]) :=
    ⟨_, rfl, fun field hfield => by rw [List.mem_singleton.mp hfield]; exact ⟨_, rfl⟩⟩
  have hshown : s.schemaShown? ⟨0, "docs", "main:docs"⟩ =
      some (.object [("price", .object [("type", .text "int32")])]) := rfl
  obtain ⟨t, declared, -, hloaded, hdeclared, -, -, hfollows⟩ :=
    schema_is_followed_iff hshown htyped (by decide)
  have hprice : .declared "price" "int32" false ∈ declared :=
    (hdeclared _).mpr ⟨_, List.mem_cons_self, rfl, rfl⟩
  refine ⟨t, hloaded hasks, (hfollows.mpr fun a _ known hknown hflag => ?_).named _ hprice⟩
  rw [List.mem_singleton.mp (List.mem_of_find?_eq_some hknown)] at hflag
  cases hflag

/-- A schema that says nothing of full-text search does not turn it off. -/
theorem search_is_not_turned_off :
    let schema : Fields := [("body", .object [("type", .text "string")])]
    let s := knowing [.declared "body" "string" true] schema
    ∃ t declared, Discovery.ofSchema (.object schema) = .ok declared ∧
      s.perform (.loadSchema true) = (t, .done (.attributes t.browser.registry.attributes)) ∧
      ¬s.browser.registry.Follows t.browser.registry declared := by
  refine ⟨_, [.declared "body" "string" false], rfl, rfl, fun h => ?_⟩
  have hflag := congrArg (Option.map Attribute.fullText) (h.named _ List.mem_cons_self)
  cases hflag

end Session

end Folio
