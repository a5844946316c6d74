-- Where attributes come from. A backend tells of the attributes of a collection by the schema that it
-- shows, and by the rows that it gives. All that a session has learned, is about to learn from pages
-- and remembers under names has been told of a place; most of what is done learns nothing.
import Folio.Proofs.KnownNumbers
import Folio.Proofs.Switches

namespace Folio

/-! ## Attributes that are put together -/

/-- What backends tell of an attribute: its name and its type. -/
def Attribute.kind (a : Attribute) : String × String := (a.name, a.type)

namespace Registry

theorem mem_put {r : Registry} {a b : Attribute} (h : b ∈ (r.put a).attributes) :
    b ∈ r.attributes ∨ b = a := by
  unfold put at h
  split at h
  · obtain ⟨c, hc, rfl⟩ := List.mem_map.mp h
    split
    · exact .inr rfl
    · exact .inl hc
  · exact (List.mem_append.mp h).imp_right List.mem_singleton.mp

theorem mem_learn {r : Registry} {a b : Attribute} (h : b ∈ (r.learn a).attributes) :
    b ∈ r.attributes ∨ b.kind = a.kind := by
  unfold learn at h
  split at h
  · refine (mem_put h).imp_right ?_
    rintro rfl
    split <;> rfl
  · exact (mem_put h).imp_right (congrArg Attribute.kind)

/-- What is found brings no other names and types. -/
theorem mem_merge {r : Registry} {found : List Attribute} {b : Attribute}
    (h : b ∈ (r.merge found).attributes) :
    b ∈ r.attributes ∨ ∃ a ∈ found, b.kind = a.kind := by
  induction found generalizing r with
  | nil => exact .inl h
  | cons a rest ih =>
    rcases ih h with hlearned | ⟨c, hc, hkind⟩
    · exact (mem_learn hlearned).imp_right fun hkind => ⟨a, List.mem_cons_self, hkind⟩
    · exact .inr ⟨c, List.mem_cons_of_mem _ hc, hkind⟩

theorem mem_ofList {attributes : List Attribute} {b : Attribute}
    (h : b ∈ (ofList attributes).attributes) : b ∈ attributes := by
  have hfold : ∀ (rest : List Attribute) (r : Registry), b ∈ (rest.foldl put r).attributes →
      b ∈ r.attributes ∨ b ∈ rest := by
    intro rest
    induction rest with
    | nil => exact fun r => .inl
    | cons a rest ih =>
      intro r hb
      rcases ih (r.put a) hb with hput | hrest
      · refine (mem_put hput).imp_right ?_
        rintro rfl
        exact List.mem_cons_self
      · exact .inr (List.mem_cons_of_mem _ hrest)
  exact (hfold attributes empty h).resolve_left List.not_mem_nil

end Registry

theorem Browser.withEvidence_kind (b : Browser) (a : Attribute) :
    (b.withEvidence a).kind = a.kind := by
  unfold withEvidence
  cases hknown : b.registry.get? a.name with
  | none => rfl
  | some known =>
    have hname : known.name = a.name := beq_iff_eq.mp (List.find?_some hknown :)
    exact congrArg (·, a.type) hname

/-- An answer leaves the schemas of a backend as they are. -/
theorem Backend.respond_schema (b : Backend) (collection : String) (request : Fields)
    (other : String) : (b.respond collection request).1.schema other = b.schema other := by
  obtain ⟨source, held, failure, schemaHeld, schemaFailure, deleteFailure⟩ := b
  cases source with
  | script answers => cases answers <;> rfl
  | store store shows => cases failure <;> rfl

/-! ## What has been told -/

/-- The name under which the attributes of a collection on a connection are remembered. -/
def placeKey (connection : Option String) (collection : String) : String :=
  connection.getD "None" ++ ":" ++ collection

/-- An attribute is told of a collection on a connection. -/
structure Disclosure where
  connection : Option String
  collection : String
  kind : String × String
  deriving DecidableEq

/-- What bears on the attributes that a session may know: the texts of pages that are met, and what
is told of places. -/
structure Testimony where
  texts : List UInt8 → Prop
  tells : Disclosure → Prop

namespace Testimony

/-- An attribute has been told of some place that goes by a name. -/
def Told (T : Testimony) (key : String) (a : Attribute) : Prop :=
  ∃ connection collection, placeKey connection collection = key ∧
    T.tells ⟨connection, collection, a.kind⟩

/-- All attributes that rows show have been told of a place. -/
def ToldRows (T : Testimony) (connection : Option String) (collection : String) (limit : Int)
    (rows : List Fields) : Prop :=
  ∀ found, Discovery.ofDocuments rows limit = .sound found →
    ∀ a ∈ found, T.tells ⟨connection, collection, a.kind⟩

end Testimony

/-- What the documents of an answer show. -/
def kindsShown (limit : Int) (response : Value) : List (String × String) :=
  match View.rowsIn response with
  | .error _ => []
  | .ok rows =>
    match Discovery.ofDocuments (rows.filterMap Value.fields?) limit with
    | .sound found => found.map Attribute.kind
    | .flawed _ => []

theorem kindsShown_rows {limit : Int} {response : Value} {rows : List Fields}
    {found : List Attribute} (hrows : View.rowsIn response = .ok (rows.map .object))
    (hfound : Discovery.ofDocuments rows limit = .sound found) :
    kindsShown limit response = found.map Attribute.kind := by
  have hdocs : (rows.map Value.object).filterMap Value.fields? = rows := by
    rw [List.filterMap_map]
    exact List.filterMap_some
  unfold kindsShown
  rw [hrows]
  dsimp only
  rw [hdocs, hfound]

/-- The collection and the rows that a job looks for attributes in. -/
def Job.discovery? : Job → Option (String × List Fields)
  | .discover collection rows => some (collection, rows)
  | _ => none

/-- The schema that an action waits for. -/
def Pause.query? : Pause → Option SchemaQuery
  | .load (.schema query _) _ | .schema query _ => some query
  | .web _ _ pause => pause.query?
  | _ => none

/-- What a browser knows of attributes, and what of. -/
structure Learning where
  settings : Settings
  collection : Option String
  registry : Registry
  known : Named KnownAttributes

def Browser.learning (b : Browser) : Learning := ⟨b.settings, b.collection, b.registry, b.known⟩

namespace Session

variable {s t u : Session} {load : Load} {plan : PagePlan} {T : Testimony}

/-- What is still to be looked through for attributes. -/
def discoveries (s : Session) : List (String × List Fields) := s.ready.filterMap Job.discovery?

/-- A page is kept under the digest of one of some texts, and all that its rows show has been told of
the collection that it was fetched for. -/
def Vouched (T : Testimony) (s : Session) (page : CachedPage) : Prop :=
  ∃ (collection : String) (config : QueryConfig) (number size : Int),
    T.texts (Cache.pageBytes s.browser.connection collection config number size) ∧
    page.fingerprint =
      Digest.sha256 (Cache.pageBytes s.browser.connection collection config number size) ∧
    T.ToldRows s.browser.connection collection s.browser.settings.sampleLimit page.rows

/-- A load was begun for the query as it is. -/
structure Meant (s : Session) (load : Load) : Prop where
  generation : s.browser.generation = load.generation
  collection : s.browser.collection = some load.collection
  executor : ∃ backend, s.browser.executor = some backend

/-- What is asked for is asked of the backend that is used, and its answer will be kept under the
fingerprint of its plan. -/
def Suits (s : Session) : LoadPause → Prop
  | .schema _ _ => True
  | .count _ load plan => s.Printed load plan
  | .page sent load plan _ => s.Printed load plan ∧ s.browser.executor = some sent.backend ∧
      sent.collection = load.collection

/-- A load that waits is out of date, or what it waits for is still of use. -/
def Awaits (s : Session) (p : LoadPause) : Prop :=
  p.load.generation < s.browser.generation ∨ s.Meant p.load ∧ s.Suits p

/-- All that is known of attributes has been told, and so has what is about to be learned. -/
structure Lore (T : Testimony) (s : Session) : Prop where
  registry : ∀ a ∈ s.browser.registry.attributes, ∃ collection,
    s.browser.collection = some collection ∧ T.Told (s.browser.attributeKey collection) a
  known : ∀ key known, s.browser.known.get? key = some known →
    ∀ a ∈ known.attributes, T.Told key a
  discoveries : ∀ found ∈ s.discoveries,
    T.ToldRows s.browser.connection found.1 s.browser.settings.sampleLimit found.2
  pages : ∀ page ∈ s.browser.cache.pages, Vouched T s page
  waits : ∀ p ∈ s.pauses, s.Awaits p
  single : s.Single

/-- What is known stays known on the same connection; what is about to be learned has been told. -/
theorem Lore.keep (hs : Lore T s) (connection : t.browser.connection = s.browser.connection)
    (learning : t.browser.learning = s.browser.learning) (actions : t.actions ⊆ s.actions)
    (discoveries : ∀ found ∈ t.discoveries, found ∈ s.discoveries ∨
      T.ToldRows s.browser.connection found.1 s.browser.settings.sampleLimit found.2)
    (pages : ∀ page ∈ t.browser.cache.pages, page ∈ s.browser.cache.pages ∨ Vouched T s page)
    (waits : ∀ p ∈ t.pauses, t.Awaits p) : Lore T t := by
  have hsettings : t.browser.settings = s.browser.settings := congrArg Learning.settings learning
  have hcollection : t.browser.collection = s.browser.collection :=
    congrArg Learning.collection learning
  refine ⟨fun a ha => ?_, ?_, fun found hfound => ?_, fun page hpage => ?_, waits,
    fun w hw => hs.single w (actions hw)⟩
  · have hregistry : t.browser.registry = s.browser.registry := congrArg Learning.registry learning
    rw [hregistry] at ha
    obtain ⟨selected, hselected, htold⟩ := hs.registry a ha
    refine ⟨selected, hcollection.trans hselected, ?_⟩
    unfold Browser.attributeKey at htold ⊢
    rwa [connection]
  · have hknown : t.browser.known = s.browser.known := congrArg Learning.known learning
    rw [hknown]
    exact hs.known
  · rw [connection, hsettings]
    exact (discoveries found hfound).elim (hs.discoveries found) id
  · unfold Vouched at pages ⊢
    rw [connection, hsettings]
    exact (pages page hpage).elim (hs.pages page) id

/-! ## What learns nothing -/

/-- Some of what is kept may be dropped, and nothing is learned. -/
structure Unlearned (s t : Session) : Prop where
  grown : Grown s t
  connection : t.browser.connection = s.browser.connection
  executor : t.browser.executor = s.browser.executor
  learning : t.browser.learning = s.browser.learning
  generation : s.browser.generation ≤ t.browser.generation
  pages : t.browser.cache.pages ⊆ s.browser.cache.pages
  actions : t.actions ⊆ s.actions
  discoveries : t.discoveries ⊆ s.discoveries
  pageSize : t.browser.paging.pageSize = s.browser.paging.pageSize ∨
    s.browser.generation < t.browser.generation

theorem Printed.keep (h : s.Printed load plan)
    (connection : t.browser.connection = s.browser.connection)
    (pageSize : t.browser.paging.pageSize = s.browser.paging.pageSize) : t.Printed load plan := by
  unfold Printed Footing.pageBytes footing at h ⊢
  dsimp only at h ⊢
  rwa [connection, pageSize]

theorem Meant.keep (h : s.Meant load) (generation : t.browser.generation = s.browser.generation)
    (collection : t.browser.collection = s.browser.collection)
    (executor : t.browser.executor = s.browser.executor) : t.Meant load where
  generation := generation.trans h.generation
  collection := collection.trans h.collection
  executor := executor ▸ h.executor

/-- A load that waits goes on to wait for something of use, unless it is out of date by now. -/
theorem Awaits.keep {p : LoadPause} (h : s.Awaits p)
    (connection : t.browser.connection = s.browser.connection)
    (executor : t.browser.executor = s.browser.executor)
    (collection : t.browser.collection = s.browser.collection)
    (generation : s.browser.generation ≤ t.browser.generation)
    (pageSize : t.browser.paging.pageSize = s.browser.paging.pageSize ∨
      s.browser.generation < t.browser.generation) : t.Awaits p := by
  rcases h with hstale | ⟨hmeant, hsuits⟩
  · exact .inl (Nat.lt_of_lt_of_le hstale generation)
  · rcases Nat.lt_or_eq_of_le generation with hlater | hsame
    · exact .inl (hmeant.generation ▸ hlater)
    -- The page size can only have changed with the generation.
    · have hsize := pageSize.resolve_right (Nat.not_lt.mpr (Nat.le_of_eq hsame.symm))
      refine .inr ⟨hmeant.keep hsame.symm collection executor, ?_⟩
      cases p with
      | schema query load => trivial
      | count sent load plan => exact Printed.keep hsuits connection hsize
      | page sent load plan total =>
        obtain ⟨hprinted, hexecutor, hcollection⟩ := hsuits
        exact ⟨hprinted.keep connection hsize, executor.trans hexecutor, hcollection⟩

namespace Unlearned

theorem settings (h : Unlearned s t) : t.browser.settings = s.browser.settings :=
  congrArg Learning.settings h.learning

theorem collection (h : Unlearned s t) : t.browser.collection = s.browser.collection :=
  congrArg Learning.collection h.learning

theorem trans (hst : Unlearned s t) (htu : Unlearned t u) : Unlearned s u where
  grown := hst.grown.trans htu.grown
  connection := htu.connection.trans hst.connection
  executor := htu.executor.trans hst.executor
  learning := htu.learning.trans hst.learning
  generation := Nat.le_trans hst.generation htu.generation
  pages := fun _ hpage => hst.pages (htu.pages hpage)
  actions := fun _ hw => hst.actions (htu.actions hw)
  discoveries := fun _ hfound => hst.discoveries (htu.discoveries hfound)
  pageSize := by
    rcases htu.pageSize with hsame | hlater
    · rw [hsame]
      exact hst.pageSize.imp_right fun h => Nat.lt_of_lt_of_le h htu.generation
    · exact .inr (Nat.lt_of_le_of_lt hst.generation hlater)

theorem lore (h : Unlearned s t) (hs : Lore T s) : Lore T t :=
  hs.keep h.connection h.learning h.actions (fun _ hfound => .inl (h.discoveries hfound))
    (fun _ hpage => .inl (h.pages hpage)) fun p hp =>
      (hs.waits p (mem_pauses_of_actions h.actions hp)).keep h.connection h.executor h.collection
        h.generation h.pageSize

theorem of_loosens (h : Loosens s t) (learning : t.browser.learning = s.browser.learning)
    (discoveries : t.discoveries ⊆ s.discoveries)
    (pageSize : t.browser.paging.pageSize = s.browser.paging.pageSize ∨
      s.browser.generation < t.browser.generation) : Unlearned s t :=
  ⟨⟨h.yielded, h.journal⟩, h.connection, h.executor, learning, h.generation, h.pages, h.actions,
    discoveries, pageSize⟩

theorem of_same (h : SamePages s t) (learning : t.browser.learning = s.browser.learning)
    (discoveries : t.discoveries ⊆ s.discoveries) : Unlearned s t :=
  .of_loosens h.loosens learning discoveries (.inl (congrArg Footing.pageSize h.footing))

end Unlearned

/-- The place that is looked at is the same, and so are the backend that is used and the schemas that
backends show. -/
structure SamePlace (s t : Session) : Prop where
  grown : Grown s t
  connection : t.browser.connection = s.browser.connection
  executor : t.browser.executor = s.browser.executor
  collection : t.browser.collection = s.browser.collection
  settings : t.browser.settings = s.browser.settings
  schemas : ∀ query, t.schemaShown? query = s.schemaShown? query

namespace SamePlace

theorem refl (s : Session) : SamePlace s s :=
  ⟨⟨List.prefix_rfl, List.prefix_rfl⟩, rfl, rfl, rfl, rfl, fun _ => rfl⟩

theorem trans (hst : SamePlace s t) (htu : SamePlace t u) : SamePlace s u where
  grown := hst.grown.trans htu.grown
  connection := htu.connection.trans hst.connection
  executor := htu.executor.trans hst.executor
  collection := htu.collection.trans hst.collection
  settings := htu.settings.trans hst.settings
  schemas := fun query => (htu.schemas query).trans (hst.schemas query)

end SamePlace

/-- Nothing is learned, and backends show the same schemas. -/
structure Untaught (s t : Session) : Prop extends Unlearned s t where
  schemas : ∀ query, t.schemaShown? query = s.schemaShown? query

namespace Untaught

theorem samePlace (h : Untaught s t) : SamePlace s t where
  grown := h.grown
  connection := h.connection
  executor := h.executor
  collection := h.collection
  settings := h.settings
  schemas := h.schemas

theorem trans (hst : Untaught s t) (htu : Untaught t u) : Untaught s u :=
  ⟨hst.toUnlearned.trans htu.toUnlearned, fun query => (htu.schemas query).trans (hst.schemas query)⟩

theorem of_same (h : SamePages s t) (learning : t.browser.learning = s.browser.learning)
    (discoveries : t.discoveries ⊆ s.discoveries) (backends : t.backends = s.backends) :
    Untaught s t := by
  refine ⟨.of_same h learning discoveries, fun query => ?_⟩
  unfold schemaShown? backend?
  rw [backends]

theorem refl (s : Session) : Untaught s s := .of_same (.refl s) rfl (fun _ => id) rfl

/-- A change of the browser that leaves attributes and pages alone. -/
theorem update {f : Browser → Browser} (footing : (s.update f).footing = s.footing)
    (cache : (f s.browser).cache = s.browser.cache)
    (unfiltered : (f s.browser).unfiltered = s.browser.unfiltered)
    (learning : (f s.browser).learning = s.browser.learning) : Untaught s (s.update f) :=
  .of_same (.update footing cache unfiltered) learning (fun _ => id) rfl

theorem note (s : Session) {e : LoadEvent} (h : e.leavesPages = true) : Untaught s (s.note e) :=
  .of_same (.note s h) rfl (fun _ => id) rfl

theorem spawn (s : Session) {j : Job} (h : j.action? = none) (hnone : j.discovery? = none) :
    Untaught s (s.spawn j) := by
  refine .of_same (.spawn s h) rfl (fun found hfound => ?_) rfl
  unfold discoveries Session.spawn at hfound
  rw [List.filterMap_append] at hfound
  simpa [hnone, discoveries] using hfound

/-- A load that waits may go on to wait for something else. -/
theorem awaits (h : Untaught s t) {p : LoadPause} (hp : s.Awaits p) : t.Awaits p :=
  hp.keep h.connection h.executor h.collection h.generation h.pageSize

end Untaught

theorem fail_untaught (s : Session) (f : Fault) : Untaught s (s.update (·.fail f)) :=
  .update rfl rfl rfl rfl

theorem send_untaught (s : Session) (backend : Nat) (collection : String) (request : Fields) :
    Untaught s (s.send backend collection request).1 :=
  .of_same (send_samePages s backend collection request) rfl (fun _ => id) rfl

theorem schemas_setBackend {number : Nat} {b c : Backend} (hb : s.backend? number = some b)
    (hc : ∀ collection, c.schema collection = b.schema collection) (query : SchemaQuery) :
    (s.setBackend number c).schemaShown? query = s.schemaShown? query := by
  have hlt := (List.getElem?_eq_some_iff.mp hb).1
  unfold schemaShown? setBackend
  by_cases hsame : query.backend = number
  · have hset : ({ s with backends := s.backends.set number c } : Session).backend? number = some c :=
      List.getElem?_set_self hlt
    rw [hsame, hset, hb, Option.bind_some, Option.bind_some, hc]
  · have hset : ({ s with backends := s.backends.set number c } : Session).backend? query.backend =
        s.backend? query.backend := List.getElem?_set_ne (Ne.symm hsame)
    rw [hset]

theorem respond_untaught (s : Session) (sent : Sent) : Untaught s (s.respond sent).1 := by
  have hsame := respond_samePages s sent
  have hbrowser : (s.respond sent).1.browser = s.browser := respond_browser (Prod.mk.eta).symm
  refine ⟨.of_same hsame (congrArg Browser.learning hbrowser) ?_, ?_⟩
  · rcases s.respond_cases sent with ⟨-, hnone⟩ | ⟨b, -, hsome⟩
    · rw [hnone]
      exact fun _ => id
    · rw [hsome]
      exact fun _ => id
  · rcases s.respond_cases sent with ⟨-, hnone⟩ | ⟨b, hb, hsome⟩
    · rw [hnone]
      exact fun _ => rfl
    · rw [hsome]
      exact schemas_setBackend hb fun other => b.respond_schema _ _ other

/-! ## What backends tell -/

/-- What the schema declares that the backend in use shows of a collection. -/
def declared (s : Session) (collection : String) : List (String × String) :=
  match s.browser.executor with
  | none => []
  | some backend =>
    match s.schemaShown? ⟨backend, collection, s.browser.attributeKey collection⟩ with
    | none => []
    | some schema =>
      match Discovery.ofSchema schema with
      | .ok declared => declared.map Attribute.kind
      | .error _ => []

/-- What rows show that the backend in use has given since for a collection. -/
def revealed (s t : Session) (collection : String) : List (String × String) :=
  (s.given t).flatMap fun
    | .answer sent response =>
      if t.browser.executor = some sent.backend ∧ sent.collection = collection then
        kindsShown t.browser.settings.sampleLimit response
      else []
    | .deleted _ _ => []

/-- All that is told of the place that is looked at, by its schema or by rows that have been given
since. -/
def disclosed (s t : Session) : List Disclosure :=
  match t.browser.collection with
  | none => []
  | some collection =>
    (t.declared collection ++ s.revealed t collection).map (⟨t.browser.connection, collection, ·⟩)

/-- All that is told is part of what is known to be told, and so are the texts of pages. -/
structure Heard (T : Testimony) (s t : Session) : Prop where
  texts : Covers T.texts s t
  tells : ∀ d ∈ s.disclosed t, T.tells d

theorem given_later (hst : s.yielded <+: t.yielded) : t.given u ⊆ s.given u := by
  unfold given
  exact (List.drop_sublist_drop_left _ hst.length_le).subset

theorem mem_disclosed {d : Disclosure} : d ∈ s.disclosed t ↔
    t.browser.connection = d.connection ∧ t.browser.collection = some d.collection ∧
      (d.kind ∈ t.declared d.collection ∨ d.kind ∈ s.revealed t d.collection) := by
  obtain ⟨connection, collection, kind⟩ := d
  unfold disclosed
  cases t.browser.collection with
  | none => simp
  | some selected =>
    simp only [List.mem_map, List.mem_append, Disclosure.mk.injEq, Option.some.injEq]
    constructor
    · rintro ⟨found, hfound, rfl, rfl, rfl⟩
      exact ⟨rfl, rfl, hfound⟩
    · rintro ⟨rfl, rfl, hfound⟩
      exact ⟨kind, hfound, rfl, rfl, rfl⟩

theorem SamePlace.declared (h : SamePlace s t) (collection : String) :
    t.declared collection = s.declared collection := by
  unfold Session.declared Browser.attributeKey
  rw [h.executor, h.connection]
  simp only [h.schemas]

theorem SamePlace.revealed_later (h : SamePlace t u) (collection : String) :
    s.revealed t collection ⊆ s.revealed u collection := by
  unfold Session.revealed
  rw [h.executor, h.settings]
  intro kind hkind
  rw [List.mem_flatMap] at hkind ⊢
  obtain ⟨y, hy, hshown⟩ := hkind
  exact ⟨y, given_mono h.grown.yielded hy, hshown⟩

namespace Heard

/-- What is told later is told. -/
theorem later (h : Heard T s u) (hst : Grown s t) (htu : t.journal <+: u.journal) :
    Heard T t u where
  texts := h.texts.later hst.journal htu
  tells := by
    intro d hd
    obtain ⟨hconnection, hcollection, hsource⟩ := mem_disclosed.mp hd
    refine h.tells d (mem_disclosed.mpr ⟨hconnection, hcollection, hsource.imp_right fun hkind => ?_⟩)
    unfold revealed at hkind ⊢
    rw [List.mem_flatMap] at hkind ⊢
    obtain ⟨y, hy, hshown⟩ := hkind
    exact ⟨y, given_later hst.yielded hy, hshown⟩

/-- What is told earlier at the same place is told. -/
theorem earlier (h : Heard T s u) (htu : SamePlace t u) (footing : u.footing = t.footing) :
    Heard T s t where
  texts := h.texts.earlier footing htu.grown.journal
  tells := by
    intro d hd
    obtain ⟨hconnection, hcollection, hsource⟩ := mem_disclosed.mp hd
    refine h.tells d (mem_disclosed.mpr ⟨htu.connection.trans hconnection,
      htu.collection.trans hcollection, hsource.imp (fun hkind => ?_) fun hkind => ?_⟩)
    · rwa [htu.declared]
    · exact htu.revealed_later _ hkind

end Heard

/-! ## What is learned -/

/-- What is found is put to what is known of the collection that is looked at. -/
theorem Lore.learn (hs : Lore T s) {collection : String}
    (hcollection : s.browser.collection = some collection) {found : List Attribute}
    (hfound : ∀ a ∈ found, T.tells ⟨s.browser.connection, collection, a.kind⟩) (now : Float) :
    Lore T (s.update (·.learn (s.browser.attributeKey collection) found now)) := by
  have htold : ∀ a ∈ (s.browser.registry.merge found).attributes,
      T.Told (s.browser.attributeKey collection) a := by
    intro a ha
    rcases Registry.mem_merge ha with hold | ⟨b, hb, hkind⟩
    · obtain ⟨other, hother, hknown⟩ := hs.registry a hold
      cases Option.some.inj (hother.symm.trans hcollection)
      exact hknown
    · exact ⟨s.browser.connection, collection, rfl, hkind ▸ hfound b hb⟩
  refine ⟨fun a ha => ⟨collection, hcollection, htold a ha⟩, fun key known hknown => ?_,
    hs.discoveries, hs.pages, fun p hp => (hs.waits p hp).keep rfl rfl rfl (Nat.le_refl _) (.inl rfl),
    hs.single⟩
  have hput : (s.browser.known.put (s.browser.attributeKey collection)
      ⟨(s.browser.registry.merge found).attributes, now⟩).get? key = some known := hknown
  by_cases hkey : key = s.browser.attributeKey collection
  · rw [hkey, Named.get?_put_self] at hput
    cases hput
    exact hkey ▸ htold
  · rw [Named.get?_put_of_ne _ _ hkey] at hput
    exact hs.known key known hput

/-- The same schema would be asked for now. -/
structure Wants (s : Session) (query : SchemaQuery) : Prop where
  collection : s.browser.current? = some query.collection
  executor : s.browser.executor = some query.backend
  key : query.key = s.browser.attributeKey query.collection

/-- What its schema declares is what is declared of the collection. -/
theorem Wants.declared {query : SchemaQuery} {schema : Value} {found : List Attribute}
    (h : s.Wants query) (hshown : s.schemaShown? query = some schema)
    (hfound : Discovery.ofSchema schema = .ok found) :
    s.declared query.collection = found.map Attribute.kind := by
  unfold Session.declared
  rw [h.executor, ← h.key]
  dsimp only
  rw [hshown]
  dsimp only
  rw [hfound]

theorem collection_of_current {collection : String} (h : s.browser.current? = some collection) :
    s.browser.collection = some collection := (Option.filter_eq_some_iff.mp h).1

/-- The schema of the collection that is looked at is taken over. -/
theorem Lore.takeSchema (hs : Lore T s) {query : SchemaQuery} (htimely : s.Wants query)
    (hheard : Heard T u t) (hst : SamePlace s t) : Lore T (s.takeSchema query).1 := by
  have hcollection := collection_of_current htimely.collection
  unfold Session.takeSchema
  cases hshown : s.schemaShown? query with
  | none => exact hs
  | some schema =>
    dsimp only
    cases hdeclared : Discovery.ofSchema schema with
    | error f => exact hs
    | ok declared =>
      dsimp only
      unfold Browser.declare
      rw [htimely.key]
      refine hs.learn hcollection (fun a ha => ?_) s.clock
      obtain ⟨b, hb, rfl⟩ := List.mem_map.mp ha
      have hkinds := htimely.declared hshown hdeclared
      refine hheard.tells _ (mem_disclosed.mpr ⟨hst.connection, hst.collection.trans hcollection,
        .inl ?_⟩)
      rw [hst.declared, hkinds, Browser.withEvidence_kind]
      exact List.mem_map_of_mem hb

theorem Apprised.samePlace {s t : Session} (h : Apprised s t) : SamePlace s t := by
  obtain ⟨registry, known, rfl⟩ := h
  exact ⟨⟨List.prefix_rfl, List.prefix_rfl⟩, rfl, rfl, rfl, rfl, fun _ => rfl⟩

/-- What is known of the collection under its name is taken up again. -/
theorem Lore.recall (hs : Lore T s) {collection : String}
    (hcollection : s.browser.collection = some collection) {attributes : List Attribute} {now : Float}
    (hknown : s.browser.knownAttributes? (s.browser.attributeKey collection) now = some attributes) :
    Lore T (s.update ({ · with registry := .ofList attributes })) := by
  refine ⟨fun a ha => ⟨collection, hcollection, ?_⟩, hs.known, hs.discoveries, hs.pages,
    fun p hp => (hs.waits p hp).keep rfl rfl rfl (Nat.le_refl _) (.inl rfl), hs.single⟩
  unfold Browser.knownAttributes? at hknown
  obtain ⟨known, hfresh, rfl⟩ := Option.map_eq_some_iff.mp hknown
  obtain ⟨hfound, -⟩ := Option.filter_eq_some_iff.mp hfresh
  exact hs.known _ known hfound a (Registry.mem_ofList ha)

/-- Attributes are learned from a schema at most, which has been told. -/
structure TakesSchema (T : Testimony) (s t : Session) : Prop where
  place : SamePlace s t
  lore : ∀ {u v}, Lore T s → Heard T u v → SamePlace t v → Lore T t

theorem TakesSchema.refl (s : Session) : TakesSchema T s s := ⟨.refl s, fun hs _ _ => hs⟩

theorem TakesSchema.trans (hst : TakesSchema T s t) (htu : TakesSchema T t u) : TakesSchema T s u :=
  ⟨hst.place.trans htu.place, fun hs hheard huv =>
    htu.lore (hst.lore hs hheard (htu.place.trans huv)) hheard huv⟩

theorem Untaught.takes (h : Untaught s t) : TakesSchema T s t :=
  ⟨h.samePlace, fun hs _ _ => h.lore hs⟩

theorem Wants.takes {query : SchemaQuery} (h : s.Wants query) :
    TakesSchema T s (s.takeSchema query).1 :=
  have hplace := (takeSchema_apprised s query).samePlace
  ⟨hplace, fun hs hheard htv => hs.takeSchema h hheard (hplace.trans htv)⟩

/-- Whoever gets to know the attributes asks for the schema of the place that is looked at. -/
theorem loadSchema_takes (s : Session) (forced : Bool) : TakesSchema T s (s.loadSchema forced).1 := by
  unfold loadSchema
  split
  · rename_i collection executor hcurrent hexecutor
    dsimp only
    split
    · rename_i attributes hattributes
      refine ⟨⟨⟨List.prefix_rfl, List.prefix_rfl⟩, rfl, rfl, rfl, rfl, fun _ => rfl⟩, ?_⟩
      intro u v hs _ _
      cases forced with
      | true => cases hattributes
      | false => exact hs.recall (collection_of_current hcurrent) hattributes
    · split
      · exact .refl s
      · split
        · exact .refl s
        · have hwants : s.Wants ⟨executor, collection, s.browser.attributeKey collection⟩ :=
            ⟨hcurrent, hexecutor, rfl⟩
          have htakes := hwants.takes (T := T)
          unfold Session.orRaise
          split <;> exact htakes
    · exact .refl s
  · exact .refl s

theorem ensureAttributes_takes (s : Session) : TakesSchema T s s.ensureAttributes.1 := by
  unfold ensureAttributes
  split
  · exact loadSchema_takes s false
  · exact .refl s

end Session

end Folio
