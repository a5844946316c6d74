-- What is not known about attributes. A load gets to know the attributes of its collection if it
-- knows none, and makes the filters of the query anew. As long as it shows no documents, it finds
-- the query as it was the next time.
import Folio.Proofs.OneLoad
import Folio.Proofs.Retyping

namespace Folio

namespace Registry

/-! ## What is known stays -/

theorem put_ne_nil (r : Registry) (a : Attribute) : (r.put a).attributes ≠ [] := by
  unfold put
  split
  · rename_i hhas
    intro hnil
    unfold has get? at hhas
    rw [List.map_eq_nil_iff.mp hnil] at hhas
    cases hhas
  · simp

theorem learn_ne_nil (r : Registry) (a : Attribute) : (r.learn a).attributes ≠ [] := by
  unfold learn
  split <;> exact put_ne_nil _ _

theorem foldl_eq_nil {step : Registry → Attribute → Registry}
    (hstep : ∀ r a, (step r a).attributes ≠ []) {found : List Attribute} {r : Registry}
    (h : (found.foldl step r).attributes = []) : r.attributes = [] ∧ found = [] := by
  induction found generalizing r with
  | nil => exact ⟨h, rfl⟩
  | cons a rest ih => exact absurd (ih h).1 (hstep r a)

/-- Who knows no attribute after learning some has known none, and has learned none. -/
theorem merge_eq_nil {r : Registry} {found : List Attribute}
    (h : (r.merge found).attributes = []) : r.attributes = [] ∧ found = [] :=
  foldl_eq_nil learn_ne_nil h

theorem ofList_eq_nil {attributes : List Attribute} (h : (ofList attributes).attributes = []) :
    attributes = [] :=
  (foldl_eq_nil put_ne_nil h).2

end Registry

namespace Predicate

/-- A filter is made anew once. -/
theorem retype_retype (p : Predicate) (registry : Registry) :
    (p.retype registry).retype registry = p.retype registry := by
  by_cases h : (p.typeAssumed && registry.has p.attr) = true
  · cases hbuilt : build p.id p.attr p.operator p.operand.toValue registry with
    | error f =>
      have hsame : p.retype registry = p := by
        unfold retype
        rw [if_pos h, hbuilt]
      rw [hsame, hsame]
    | ok q =>
      have hmade : p.retype registry = q := by
        unfold retype
        rw [if_pos h, hbuilt]
      obtain ⟨operand, -, hq⟩ := build_ok hbuilt
      have hknown : q.typeAssumed = false := by
        rw [hq, isNone_typeOf?, (Bool.and_eq_true_iff.mp h).2]
        rfl
      rw [hmade]
      unfold retype
      rw [hknown]
      rfl
  · have hsame : p.retype registry = p := by
      unfold retype
      rw [if_neg h]
    rw [hsame, hsame]

end Predicate

namespace Session

variable {s t : Session} {collection : String} {docs : List Fields}

/-! ## Getting to know the attributes -/

/-- The backend shows a schema of a collection that declares some attributes. -/
def Declares (s : Session) (collection : String) (declared : List Attribute) : Prop :=
  ∃ executor b schema, s.browser.executor = some executor ∧ s.backend? executor = some b ∧
    b.showsSchemas = true ∧ b.schema collection = .ok schema ∧
    Discovery.ofSchema schema = .ok declared

/-- No attribute of a collection is declared. -/
def Undeclared (s : Session) (collection : String) : Prop :=
  ∀ declared, s.Declares collection declared → declared = []

theorem Declares.undeclared (h : s.Declares collection []) : s.Undeclared collection := by
  obtain ⟨executor, b, schema, hexecutor, hb, -, hschema, hdeclared⟩ := h
  rintro declared ⟨_, _, _, hexecutor', hb', -, hschema', hdeclared'⟩
  cases hexecutor.symm.trans hexecutor'
  cases hb.symm.trans hb'
  cases hschema.symm.trans hschema'
  exact Except.ok.inj (hdeclared'.symm.trans hdeclared)

/-- What a load does to get to know the attributes of a collection. -/
inductive Informs (s : Session) (collection : String) : Session → Prop where
  /-- Some are known. -/
  | known (some : s.browser.registry.attributes ≠ []) : Informs s collection s
  /-- They are remembered. -/
  | remembered {attributes : List Attribute} (none : s.browser.registry.attributes = [])
      (fresh : s.browser.knownAttributes? (s.browser.attributeKey collection) s.clock =
        .some attributes) :
      Informs s collection (s.update ({ · with registry := .ofList attributes }))
  /-- They are declared. -/
  | declared {declared : List Attribute} (none : s.browser.registry.attributes = [])
      (forgotten : s.browser.knownAttributes? (s.browser.attributeKey collection) s.clock = .none)
      (declares : s.Declares collection declared) :
      Informs s collection
        (s.update (·.declare (s.browser.attributeKey collection) declared s.clock))
  /-- There is nobody to tell. -/
  | untold (none : s.browser.registry.attributes = [])
      (forgotten : s.browser.knownAttributes? (s.browser.attributeKey collection) s.clock = .none)
      (undeclared : s.Undeclared collection) : Informs s collection s

theorem ensureAttributes_informs (hl : LooksAt s collection docs) :
    Informs s collection s.ensureAttributes.1 := by
  obtain ⟨number, b, hexec, hb, ha⟩ := hl.answering
  have hundeclared : (∀ schema declared, b.showsSchemas = true → b.schema collection = .ok schema →
      Discovery.ofSchema schema ≠ .ok declared) → s.Undeclared collection := by
    rintro hno declared ⟨_, _, schema, hexec', hb', hshows, hschema, hdeclared⟩
    cases hexec.symm.trans hexec'
    cases hb.symm.trans hb'
    exact absurd hdeclared (hno schema declared hshows hschema)
  unfold ensureAttributes
  split
  · rename_i hsize
    have hnone : s.browser.registry.attributes = [] := List.eq_nil_of_length_eq_zero (eq_of_beq hsize)
    unfold loadSchema
    simp only [hl.current, hexec, hb, Bool.false_eq_true, if_false]
    cases hknown : s.browser.knownAttributes? (s.browser.attributeKey collection) s.clock with
    | some attributes => exact .remembered hnone hknown
    | none =>
      dsimp only
      cases hshows : b.showsSchemas with
      | false =>
        refine .untold hnone hknown (hundeclared fun _ _ htrue => ?_)
        rw [hshows] at htrue
        cases htrue
      | true =>
        simp only [Bool.not_true, Bool.false_eq_true, if_false, ha.schemaUnheld, takeSchema,
          schemaShown?, hb, Option.bind_some]
        cases hschema : b.schema collection with
        | error f =>
          refine .untold hnone hknown (hundeclared fun _ _ _ hok => ?_)
          rw [hschema] at hok
          cases hok
        | ok schema =>
          simp only [Except.toOption]
          cases hdeclared : Discovery.ofSchema schema with
          | ok declared =>
            exact .declared hnone hknown ⟨number, b, schema, hexec, hb, hshows, hschema, hdeclared⟩
          | error f =>
            refine .untold hnone hknown (hundeclared fun other _ _ hok hother => ?_)
            cases hschema.symm.trans hok
            cases hdeclared.symm.trans hother
  · rename_i hsize
    refine .known fun hnone => hsize ?_
    unfold Registry.size
    rw [hnone]
    rfl

/-! ## What is remembered -/

/-- What is remembered of a collection still holds: it is remembered to have no attributes only if
none is declared. -/
def Candid (s : Session) (collection : String) : Prop :=
  ∀ record, s.browser.known.get? (s.browser.attributeKey collection) = some record →
    record.attributes = [] → s.Undeclared collection

theorem recordOf_knownAttributes? {b : Browser} {key : String} {now : Float}
    {attributes : List Attribute} (h : b.knownAttributes? key now = some attributes) :
    ∃ record, b.known.get? key = some record ∧ b.cache.isFresh record.learnedAt now = true ∧
      record.attributes = attributes := by
  unfold Browser.knownAttributes? at h
  obtain ⟨record, hrecord, rfl⟩ := Option.map_eq_some_iff.mp h
  obtain ⟨hfound, hfresh⟩ := Option.filter_eq_some_iff.mp hrecord
  exact ⟨record, hfound, hfresh, rfl⟩

/-- To learn no attributes when none are known is candid if none is declared. -/
theorem candid_learn {found : List Attribute}
    (hnone : s.browser.registry.attributes = [] → found = [] → s.Undeclared collection)
    (now : Float) :
    (s.update (·.learn (s.browser.attributeKey collection) found now)).Candid collection := by
  intro record hrecord hnil
  have hput : some ⟨(s.browser.registry.merge found).attributes, now⟩ = some record :=
    (Named.get?_put_self _ _ _).symm.trans hrecord
  cases hput
  obtain ⟨hempty, hfound⟩ := Registry.merge_eq_nil hnil
  exact hnone hempty hfound

/-- Once a load has got to know the attributes, there are none known only if none is declared. -/
theorem Informs.candid (hi : Informs s collection t) (h : s.Candid collection) :
    t.Candid collection ∧ (t.browser.registry.attributes = [] → t.Undeclared collection) := by
  cases hi with
  | known hsome => exact ⟨h, fun hnone => absurd hnone hsome⟩
  | remembered hnone hfresh =>
    obtain ⟨record, hrecord, -, rfl⟩ := recordOf_knownAttributes? hfresh
    exact ⟨h, fun hnil => h record hrecord (Registry.ofList_eq_nil hnil)⟩
  | @declared declared hnone hforgotten hdeclares =>
    have hundeclared : declared = [] → s.Undeclared collection := by
      rintro rfl
      exact hdeclares.undeclared
    refine ⟨candid_learn (fun _ hfound => hundeclared (List.map_eq_nil_iff.mp hfound)) s.clock,
      fun hnil => ?_⟩
    exact hundeclared (List.map_eq_nil_iff.mp (Registry.merge_eq_nil hnil).2)
  | untold hnone hforgotten hundeclared => exact ⟨h, fun _ => hundeclared⟩

theorem informed_candid (hl : LooksAt s collection docs) (h : s.Candid collection) :
    s.informed.Candid collection ∧
      (s.informed.browser.registry.attributes = [] → s.informed.Undeclared collection) :=
  (ensureAttributes_informs hl).candid h

theorem Candid.discover (h : s.Candid collection)
    (hnone : s.browser.registry.attributes = [] → s.Undeclared collection) (rows : List Fields) :
    (s.discover collection rows).Candid collection := by
  unfold Session.discover
  split
  · exact h
  · split
    · exact candid_learn (fun hempty _ => hnone hempty) s.clock
    · exact h

/-- A page is shown, in whose rows attributes are looked for. -/
theorem Candid.shown (h : s.Candid collection)
    (hnone : s.browser.registry.attributes = [] → s.Undeclared collection) {c : QueryConfig}
    {paging : Paging} {rows : List Fields} {total : Option Int} {cache : PageCache}
    (ht : Noted ((s.showing c paging rows total cache).discover collection rows) t) :
    t.Candid collection := by
  have hshown : ((s.showing c paging rows total cache).discover collection rows).Candid collection :=
    Candid.discover (s := s.showing c paging rows total cache) h hnone rows
  obtain ⟨_, _, _, _, rfl⟩ := ht
  exact hshown

/-! ## Queries that are found again -/

/-- Time goes on: what is too old at one time is too old at all later ones. -/
def Ages (lifetime : Float) (times : Nat → Float) : Prop :=
  ∀ i j learnedAt, i ≤ j → times j - learnedAt < lifetime → times i - learnedAt < lifetime

variable {times : Nat → Float} {i j : Nat}

/-- No attribute of a collection is known, and from some time on there is nobody to tell of any. -/
structure Blind (s : Session) (collection : String) (times : Nat → Float) (i : Nat) : Prop where
  unknown : s.browser.registry.attributes = []
  undeclared : s.Undeclared collection
  forgotten : ∀ record, s.browser.known.get? (s.browser.attributeKey collection) = some record →
    ∀ j, i ≤ j → times j - record.learnedAt < s.browser.cache.lifetime → record.attributes = []

/-- Where a load knows no attributes in the end, no later one gets to know any. -/
theorem Informs.blind (hi : Informs s collection t) (hcandid : s.Candid collection)
    (hages : Ages s.browser.cache.lifetime times) (hclock : s.clock = times i)
    (hnone : t.browser.registry.attributes = []) : t.Blind collection times i := by
  refine ⟨hnone, (hi.candid hcandid).2 hnone, fun record hrecord j hj hfresh => ?_⟩
  cases hi with
  | known hsome => exact absurd hnone hsome
  | remembered hempty hknown =>
    obtain ⟨other, hother, -, rfl⟩ := recordOf_knownAttributes? hknown
    cases hother.symm.trans hrecord
    exact Registry.ofList_eq_nil hnone
  | declared hempty hforgotten hdeclares =>
    have hput := (Named.get?_put_self _ _ _).symm.trans hrecord
    cases hput
    exact hnone
  | untold hempty hforgotten hundeclared =>
    -- What is remembered is too old now, and so it is at all later times.
    have hnow : s.browser.cache.isFresh record.learnedAt s.clock = true :=
      decide_eq_true (hclock ▸ hages i j record.learnedAt hj hfresh)
    unfold Browser.knownAttributes? at hforgotten
    rw [hrecord, Option.filter_some, if_pos hnow] at hforgotten
    cases hforgotten

theorem Blind.informs (h : s.Blind collection times i) (hclock : s.clock = times i)
    (hi : Informs s collection t) : t.browser.registry.attributes = [] := by
  cases hi with
  | known hsome => exact absurd h.unknown hsome
  | remembered hempty hknown =>
    obtain ⟨record, hrecord, hfresh, rfl⟩ := recordOf_knownAttributes? hknown
    have hnil := h.forgotten record hrecord i le_rfl (hclock ▸ of_decide_eq_true hfresh)
    show (Registry.ofList record.attributes).attributes = []
    rw [hnil]
    rfl
  | declared hempty hforgotten hdeclares =>
    cases h.undeclared _ hdeclares
    exact hempty
  | untold hempty hforgotten hundeclared => exact hempty

/-- The filters are made for what is known of the attributes, and from some time on nothing else
will be known as long as no documents are shown. -/
structure Endures (s : Session) (collection : String) (times : Nat → Float) (i : Nat) : Prop where
  candid : s.Candid collection
  made : s.browser.config.predicates.map (·.retype s.browser.registry) = s.browser.config.predicates
  lasting : s.browser.registry.attributes ≠ [] ∨ s.Blind collection times i

namespace Endures

theorem later (h : s.Endures collection times i) (hij : i ≤ j) : s.Endures collection times j where
  candid := h.candid
  made := h.made
  lasting := h.lasting.imp_right fun hblind => ⟨hblind.unknown, hblind.undeclared,
    fun record hrecord k hk => hblind.forgotten record hrecord k (hij.trans hk)⟩

theorem noted (h : s.Endures collection times i) (ht : Noted s t) :
    t.Endures collection times i := by
  obtain ⟨_, _, _, _, rfl⟩ := ht
  exact ⟨h.candid, h.made, h.lasting.imp_right fun hblind =>
    ⟨hblind.unknown, hblind.undeclared, hblind.forgotten⟩⟩

theorem showing (h : s.Endures collection times i) (c : QueryConfig) (paging : Paging)
    (rows : List Fields) (total : Option Int) (page : CachedPage) :
    (s.showing c paging rows total (s.browser.cache.put page)).Endures collection times i :=
  ⟨h.candid, h.made, h.lasting.imp_right fun hblind =>
    ⟨hblind.unknown, hblind.undeclared, hblind.forgotten⟩⟩

/-- The query is found as it is, and nothing is learned. -/
theorem informed_same (h : s.Endures collection times i) (hl : LooksAt s collection docs)
    (hclock : s.clock = times i) :
    s.informed.browser.config = s.browser.config ∧
      s.informed.browser.registry = s.browser.registry := by
  have hinforms := ensureAttributes_informs hl
  have hregistry : s.ensureAttributes.1.browser.registry = s.browser.registry := by
    rcases h.lasting with hsome | hblind
    · generalize s.ensureAttributes.1 = t at hinforms ⊢
      cases hinforms with
      | known => rfl
      | remembered hnone | declared hnone | untold hnone => exact absurd hnone hsome
    · exact congrArg Registry.mk ((hblind.informs hclock hinforms).trans hblind.unknown.symm)
  have hconfig : s.ensureAttributes.1.browser.config = s.browser.config := by
    obtain ⟨t, ht, _, _, _, _, _, _, rfl⟩ := ensureAttributes_learned hl
    rw [ht]
  refine ⟨?_, hregistry⟩
  unfold informed
  simp only [update, Browser.retype, hconfig, hregistry, h.made]

end Endures

/-- A load finds a query that endures. -/
theorem informed_endures (hl : LooksAt s collection docs) (hcandid : s.Candid collection)
    (hages : Ages s.browser.cache.lifetime times) (hclock : s.clock = times i) :
    s.informed.Endures collection times i := by
  have hinforms := ensureAttributes_informs hl
  have hblind := hinforms.blind hcandid hages hclock
  refine ⟨(hinforms.candid hcandid).1, ?_, ?_⟩
  · show (s.ensureAttributes.1.browser.config.predicates.map _).map _ = _
    rw [List.map_map]
    exact List.map_congr_left fun p _ => p.retype_retype _
  · by_cases hnone : s.ensureAttributes.1.browser.registry.attributes = []
    · exact .inr ⟨hnone, (hblind hnone).undeclared, (hblind hnone).forgotten⟩
    · exact .inl hnone

end Session

end Folio
