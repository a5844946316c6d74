-- What a collection in memory answers. A count gives the number of the matching documents, a page
-- gives the first of those behind its start, as they are ranked; and a schema can always be read.
import Folio.Backend.Basic
import Folio.Browser.View
import Folio.Proofs.Keys

namespace Folio

/-! ## The fields of a request -/

theorem Named.get?_filter_of_nodup {α : Type} {all : Named α} (keep : String × α → Bool)
    (name : String) (h : (Named.names all).Nodup) :
    Named.get? (all.filter keep) name = (Named.get? all name).filter (fun a => keep (name, a)) := by
  induction all with
  | nil => rfl
  | cons entry rest ih =>
    obtain ⟨other, a⟩ := entry
    obtain ⟨hnot, hrest⟩ := List.nodup_cons.mp h
    rw [Named.get?_cons, List.filter_cons]
    by_cases he : other = name
    · subst he
      have hgone : Named.get? rest other = none := by
        unfold Named.get?
        rw [Option.map_eq_none_iff, List.find?_eq_none]
        intro entry hin hother
        exact hnot (List.mem_map.mpr ⟨entry, hin, eq_of_beq hother⟩)
      cases hk : keep (other, a) with
      | true => simp [Named.get?_cons, Option.filter, hk]
      | false => simp [ih hrest, hgone, Option.filter, hk]
    · cases hk : keep (other, a) with
      | true => simp [Named.get?_cons, he, ih hrest]
      | false => simp [he, ih hrest]

/-- A field that is not sent reads as null. -/
theorem Request.get_toFields (r : Request) (name : String) :
    Fields.get r.toFields name = Fields.get r.fields name := by
  have hnames : (Named.names r.fields).Nodup := by
    simp [Request.fields, Named.names]
  unfold Fields.get Request.toFields
  rw [Named.get?_filter_of_nodup _ _ hnames]
  cases Named.get? r.fields name with
  | none => rfl
  | some v => cases v <;> rfl

section

variable (r : Request)

theorem Request.get_filters : Fields.get r.toFields "filters" = r.filters := by
  rw [get_toFields]
  rfl

theorem Request.get_rankBy : Fields.get r.toFields "rank_by" = r.rankBy := by
  rw [get_toFields]
  rfl

theorem Request.get_topK : Fields.get r.toFields "top_k" = .ofOption .int r.topK := by
  rw [get_toFields]
  rfl

theorem Request.get_aggregateBy : Fields.get r.toFields "aggregate_by" =
    .ofOption (fun aggregates => .object (aggregateFields aggregates)) r.aggregateBy := by
  rw [get_toFields]
  rfl

theorem Request.get_groupBy : Fields.get r.toFields "group_by" =
    .ofOption .texts r.groupBy := by
  rw [get_toFields]
  rfl

end

namespace Collection

variable {docs matching : List Fields}

/-! ## Counting -/

/-- Whether an aggregate counts a document. -/
def Count.counts (c : Count) (doc : Fields) : Bool :=
  match c.attr with
  | some attr => (attributeOf doc attr).toOption.any (!·.isNull)
  | none => true

theorem attributeOf_key (doc : Fields) {attr : Value} (h : attr.isKey = true) :
    ∃ v, attributeOf doc attr = .ok v := by
  cases attr with
  | null => exact ⟨_, rfl⟩
  | scalar s => cases s <;> exact ⟨_, rfl⟩
  | list items => cases h
  | object fields => cases h

theorem countPresent_key {attr : Value} (h : attr.isKey = true) (docs : List Fields) :
    countPresent attr docs = .ok (docs.countP (Count.counts ⟨"", some attr⟩)) := by
  induction docs with
  | nil => rfl
  | cons d rest ih =>
    obtain ⟨v, hv⟩ := attributeOf_key d h
    rw [countPresent, List.countP_cons]
    simp only [hv, ih, bind, Except.bind, pure, Except.pure, Count.counts, Except.toOption,
      Option.any_some]
    cases v.isNull <;> rfl

/-- A document under a key. -/
def hasKey (doc : Fields) : Bool := !(doc.get "id").isNull

theorem countPresent_hasKey (docs : List Fields) :
    countPresent (.text "id") docs = .ok (docs.countP hasKey) := countPresent_key rfl docs

theorem countP_hasKey (h : ∀ d ∈ docs, (d.get "id").isNull = false) :
    docs.countP hasKey = docs.length :=
  List.countP_eq_length.mpr fun d hd => by simp [hasKey, h d hd]

/-- The answer to a request for the number of documents. -/
def countAnswer (n : Nat) : Value :=
  .object [("rows", .list []), ("aggregations", .object [(Query.countLabel, .nat n)])]

/-- Of the documents that match, those under a key are counted. -/
theorem answer_count_hasKey {c : QueryConfig}
    (hm : select (Query.compileFilters c) docs = .ok matching) :
    answer docs (Query.compileCount c).toFields = .ok (countAnswer (matching.countP hasKey)) := by
  have hfilters :
      Fields.get (Query.compileCount c).toFields "filters" = Query.compileFilters c := by
    rw [Request.get_filters, Query.compileCount]
  have haggregates : Fields.get (Query.compileCount c).toFields "aggregate_by" =
      .object [(Query.countLabel, .list [.text "Count", .text "id"])] := Request.get_aggregateBy _
  have hgroups : Fields.get (Query.compileCount c).toFields "group_by" = .null :=
    Request.get_groupBy _
  unfold answer
  rw [hfilters, haggregates, hgroups, hm]
  have hcounts : readCounts [(Query.countLabel, .list [.text "Count", .text "id"])] =
    .ok [⟨Query.countLabel, some (.text "id")⟩] := rfl
  simp only [bind, Except.bind, Value.isTrue, List.isEmpty_cons, Bool.not_false, if_true, aggregate,
    hcounts, Bool.not_false, putCounts, Count.of, countPresent_hasKey, pure, Except.pure,
    countAnswer, Named.put, Named.has, List.any_nil, Bool.false_eq_true, if_false, List.nil_append]

theorem answer_count {c : QueryConfig} (hm : select (Query.compileFilters c) docs = .ok matching)
    (hid : ∀ d ∈ docs, (d.get "id").isNull = false) :
    answer docs (Query.compileCount c).toFields = .ok (countAnswer matching.length) := by
  rw [answer_count_hasKey hm, countP_hasKey fun d hd => hid d ((select_sublist hm).subset hd)]

theorem countIn_countAnswer (n : Nat) :
    View.countIn Query.countLabel (countAnswer n) = .ok (n : Int) := by
  have hc : View.partOf (countAnswer n) "aggregations" =
    .ok (.object [(Query.countLabel, .nat n)]) := rfl
  have hl : View.partOf (.object [(Query.countLabel, .nat n)]) Query.countLabel =
    .ok (.nat n) := rfl
  have htrue : (Value.object [(Query.countLabel, .nat n)]).isTrue = true := rfl
  simp only [View.countIn, hc, htrue, hl, bind, Except.bind, Bool.not_true, Bool.false_eq_true,
    if_false]
  rfl

/-! ## Pages -/

/-- The answer to a request for documents. -/
def rowsAnswer (rows : List Fields) : Value := .object [("rows", .list (rows.map .object))]

/-- The documents that are to be shown behind a key, or from the start, as they are ranked. -/
def ranked (docs : List Fields) (filter ranking : Value) (start : Option RowKey) :
    Except Failure (List Fields) := do
  rank (← select (Query.withCursor filter start) docs) ranking

theorem answer_page {c : QueryConfig} {page : PageRequest} {registry : Registry}
    {request : Request} {ranking : Value} {all : List Fields} (haggregates : c.aggregates = false)
    (hrank : Query.compileRank c registry = .ok ranking)
    (hrequest : Query.compilePage c page registry = .ok request)
    (hall : ranked docs (Query.compileFilters c) ranking
      (if page.page > 1 then page.cursor else none) = .ok all) :
    answer docs request.toFields = .ok (rowsAnswer (all.take page.pageSize.toNat)) := by
  unfold Query.compilePage at hrequest
  simp only [haggregates, Bool.false_eq_true, if_false, hrank, bind, Except.bind, pure, Except.pure,
    Except.ok.injEq] at hrequest
  subst hrequest
  unfold ranked at hall
  cases hs : select (Query.withCursor (Query.compileFilters c)
      (if page.page > 1 then page.cursor else none)) docs with
  | error e => simp [hs, bind, Except.bind] at hall
  | ok passing =>
    simp only [hs, bind, Except.bind] at hall
    unfold answer
    rw [Request.get_filters, Request.get_aggregateBy, Request.get_rankBy, Request.get_topK]
    simp only [Request.empty, Value.ofOption, hs, hall, bind, Except.bind, Value.isTrue,
      Bool.false_eq_true, if_false, firstOf, Value.isNull, wholeOf, pure, Except.pure, rowsAnswer]

theorem rowsIn_rowsAnswer (rows : List Fields) :
    View.rowsIn (rowsAnswer rows) = .ok (rows.map .object) := by
  have hp : View.partOf (rowsAnswer rows) "rows" = .ok (.list (rows.map .object)) := rfl
  cases rows with
  | nil => rfl
  | cons d rest =>
    simp only [View.rowsIn, hp, bind, Except.bind, List.map_cons, Value.isTrue, List.isEmpty_cons,
      Bool.not_false, if_true, elements]

theorem read_rows (rows : List Fields) :
    Reader.listOf Reader.fields (.list (rows.map .object)) = .sound rows := by
  induction rows with
  | nil => rfl
  | cons d rest ih =>
    have hcons : Reader.listOf Reader.fields (.list ((d :: rest).map .object)) =
      Checked.both ((Reader.fields (.object d)).map List.cons)
        (Reader.listOf Reader.fields (.list (rest.map .object))) := rfl
    rw [hcons, ih]
    rfl

/-- An answer with rows and nothing else is read as these rows. -/
theorem read_rowsAnswer (rows : List Fields) (total : Int) :
    View.read (rows.map .object) total false (rowsAnswer rows) =
      .sound (.ofRows rows (some total)) := by
  unfold View.read
  simp only [read_rows, Bool.false_eq_true, if_false]
  rfl

end Collection

/-! ## Schemas -/

theorem mem_insertBy {α : Type} {le : α → α → Bool} {a b : α} {items : List α}
    (h : b ∈ insertBy le a items) : b = a ∨ b ∈ items := by
  induction items with
  | nil => exact Or.inl (List.mem_singleton.mp h)
  | cons c rest ih =>
    unfold insertBy at h
    split at h
    · exact List.mem_cons.mp h
    · rcases List.mem_cons.mp h with rfl | h
      · exact Or.inr List.mem_cons_self
      · exact (ih h).imp id (List.mem_cons_of_mem c)

theorem mem_of_mem_sortedBy {α : Type} {le : α → α → Bool} {b : α} {items : List α}
    (h : b ∈ sortedBy le items) : b ∈ items := by
  induction items with
  | nil => exact h
  | cons c rest ih =>
    rcases mem_insertBy h with rfl | h
    · exact List.mem_cons_self
    · exact List.mem_cons_of_mem c (ih h)

namespace Discovery

/-- Schemas hold an object for each attribute. -/
def WellTyped (schema : Value) : Prop :=
  ∃ fields, schema = .object fields ∧ ∀ field ∈ fields, ∃ spec, field.2 = .object spec

theorem declarations_ok {fields : List (String × Value)}
    (h : ∀ field ∈ fields, ∃ spec, field.2 = .object spec) :
    ∃ declared, declarations fields = .ok declared := by
  induction fields with
  | nil => exact ⟨[], rfl⟩
  | cons field rest ih =>
    obtain ⟨name, spec⟩ := field
    obtain ⟨declared, hrest⟩ := ih (fun f hf => h f (List.mem_cons_of_mem _ hf))
    obtain ⟨parts, hspec⟩ := h (name, spec) List.mem_cons_self
    simp only at hspec
    subst hspec
    unfold declarations
    split
    · exact ⟨declared, hrest⟩
    · unfold declaration
      cases (Value.object parts).isTrue <;>
        simp [hrest, bind, Except.bind, pure, Except.pure]

/-- A schema that holds an object for each attribute can be read. -/
theorem ofSchema_ok {schema : Value} (h : WellTyped schema) :
    ∃ declared, ofSchema schema = .ok declared := by
  obtain ⟨fields, rfl, hfields⟩ := h
  exact declarations_ok fun field hin => hfields field (mem_of_mem_sortedBy hin)

theorem mem_put {α : Type} {all : Named α} {name : String} {a : α} {entry : String × α}
    (h : entry ∈ Named.put all name a) : entry = (name, a) ∨ entry ∈ all := by
  unfold Named.put at h
  split at h
  · obtain ⟨old, hold, hnew⟩ := List.mem_map.mp h
    split at hnew
    · exact Or.inl hnew.symm
    · exact Or.inr (hnew ▸ hold)
  · rcases List.mem_append.mp h with h | h
    · exact Or.inr h
    · exact Or.inl (List.mem_singleton.mp h)

/-- The schema that documents show holds an object for each attribute. -/
theorem wellTyped_schemaOf (docs : List Fields) : WellTyped (.object (schemaOf docs)) := by
  refine ⟨schemaOf docs, rfl, ?_⟩
  unfold schemaOf
  let Objects (schema : Fields) : Prop := ∀ field ∈ schema, ∃ spec, field.2 = .object spec
  refine foldl_keeps (P := Objects) docs _ ?_ (fun _ h => absurd h List.not_mem_nil)
  intro schema doc hschema
  refine foldl_keeps (P := Objects) doc _ ?_ hschema
  rintro schema ⟨name, v⟩ hschema field hin
  dsimp only at hin
  split at hin
  · split at hin
    · exact hschema field hin
    · rcases mem_put hin with rfl | hin
      · exact ⟨_, rfl⟩
      · exact hschema field hin
  · exact hschema field hin
where
  foldl_keeps {α β : Type} {P : β → Prop} (items : List α) (f : β → α → β)
      (step : ∀ b a, P b → P (f b a)) {b : β} (h : P b) : P (items.foldl f b) := by
    induction items generalizing b with
    | nil => exact h
    | cons a rest ih => exact ih (step b a h)

end Discovery

/-- The schemas declared in a store can be read. -/
def DocumentStore.SchemasTyped (s : DocumentStore) : Prop :=
  ∀ name schema, s.schemas.get? name = some schema → Discovery.WellTyped schema

/-- A store whose declared schemas can be read shows only schemas that can be read. -/
theorem DocumentStore.SchemasTyped.schema {s : DocumentStore} (h : s.SchemasTyped) {name : String}
    {schema : Value} (hs : s.schema name = .ok schema) : Discovery.WellTyped schema := by
  unfold DocumentStore.schema at hs
  split at hs
  · rename_i declared hdeclared
    cases hs
    exact h name _ hdeclared
  · cases hd : s.documents name with
    | error e => simp [hd, bind, Except.bind] at hs
    | ok docs =>
      simp only [hd, bind, Except.bind, pure, Except.pure, Except.ok.injEq] at hs
      subst hs
      exact Discovery.wellTyped_schemaOf _

/-- Behind a backend stands a store whose declared schemas can be read. -/
def Backend.InMemory (b : Backend) : Prop :=
  ∃ store shows, b.source = .store store shows ∧ store.SchemasTyped

theorem Backend.InMemory.schema {b : Backend} (h : b.InMemory) {collection : String} {schema : Value}
    (hs : b.schema collection = .ok schema) : Discovery.WellTyped schema := by
  obtain ⟨store, shows, hsource, htyped⟩ := h
  unfold Backend.schema at hs
  rw [hsource] at hs
  cases hf : b.schemaFailure with
  | some f =>
    rw [hf] at hs
    cases hs
  | none =>
    rw [hf] at hs
    dsimp only at hs
    cases hd : store.schema collection with
    | error f =>
      rw [hd] at hs
      cases hs
    | ok found =>
      rw [hd] at hs
      cases hs
      exact htyped.schema hd

end Folio
