-- Stores whose documents have keys. Writing keeps them so as long as every key that is written is
-- one; and whatever a load may ask of them, it can read the answer.
import Folio.Proofs.LearnedSessions
import Folio.Proofs.Ranking

namespace Folio

/-! ## Documents with keys -/

/-- The document has a text or a whole number for its key. -/
def HasKey (doc : Fields) : Prop := ∃ key : RowKey, doc.get "id" = key.toValue

/-- Where keys are given, they are texts or whole numbers. -/
def GivesKeys (fields : Fields) : Prop :=
  ∀ v, ("id", v) ∈ fields → ∃ key : RowKey, v = key.toValue

/-- Where rows give keys, they are texts or whole numbers. -/
def RowsGiveKeys (rows : Value) : Prop :=
  ∀ given, Collection.elements rows = .ok given → ∀ fields, .object fields ∈ given → GivesKeys fields

theorem HasKey.get_id {doc : Fields} (h : HasKey doc) :
    doc.get "id" = (Collection.rowKey doc).toValue := by
  obtain ⟨key, hkey⟩ := h
  unfold Collection.rowKey
  rw [hkey, RowKey.ofValue_toValue]

theorem Named.mem_of_get? {α : Type} {all : Named α} {name : String} {a : α}
    (h : all.get? name = some a) : (name, a) ∈ all := by
  unfold Named.get? at h
  obtain ⟨entry, hfound, rfl⟩ := Option.map_eq_some_iff.mp h
  have hname : entry.1 = name := by simpa using List.find?_some hfound
  exact hname ▸ List.mem_of_find?_eq_some hfound

theorem HasKey.put {doc : Fields} (h : HasKey doc) {name : String} {v : Value}
    (hv : name = "id" → ∃ key : RowKey, v = key.toValue) : HasKey (doc.put name v) := by
  unfold HasKey Fields.get
  by_cases hname : name = "id"
  · obtain ⟨key, rfl⟩ := hv hname
    subst hname
    exact ⟨key, by rw [Named.get?_put_self]; rfl⟩
  · obtain ⟨key, hkey⟩ := h
    exact ⟨key, by rw [Named.get?_put_of_ne _ _ (Ne.symm hname)]; exact hkey⟩

theorem HasKey.putAll {doc changes : Fields} (h : HasKey doc) (hc : GivesKeys changes) :
    HasKey (doc.putAll changes) := by
  induction changes generalizing doc with
  | nil => exact h
  | cons entry rest ih =>
    obtain ⟨name, v⟩ := entry
    refine ih (h.put fun hname => hc v ?_) fun v hv => hc v (List.mem_cons_of_mem _ hv)
    exact hname ▸ List.mem_cons_self

/-! ## Answers that can be read -/

/-- An answer that a load can read: rows with keys, and aggregations or groups of the right shape. -/
structure Readable (fields : Fields) (rows : List Fields) : Prop where
  listed : fields.get "rows" = .list (rows.map .object)
  keys : ∀ row ∈ rows, HasKey row
  aggregations : fields.get "aggregations" = .null ∨
    ∃ found : Fields, fields.get "aggregations" = .object found
  groups : fields.get "aggregation_groups" = .null ∨
    ∃ found : List Fields, fields.get "aggregation_groups" = .list (found.map .object)

namespace Readable

variable {fields : Fields} {rows : List Fields}

theorem rowsIn (h : Readable fields rows) :
    View.rowsIn (.object fields) = .ok (rows.map .object) := by
  unfold View.rowsIn View.partOf
  simp only [h.listed, bind, Except.bind]
  cases rows with
  | nil => rfl
  | cons row rest =>
    simp [Value.isTrue, Collection.elements]

theorem read (h : Readable fields rows) (total : Int) (aggregates : Bool) :
    ∃ view, View.read (rows.map .object) total aggregates (.object fields) = .sound view := by
  have haggregations : ∃ found, Reader.nullable Reader.fields
      (if aggregates then fields.get "aggregations" else .null) = .sound found := by
    cases aggregates with
    | false => exact ⟨none, rfl⟩
    | true =>
      rcases h.aggregations with hnull | ⟨found, hfound⟩
      · exact ⟨none, by rw [if_pos rfl, hnull]; rfl⟩
      · exact ⟨some found, by rw [if_pos rfl, hfound]; rfl⟩
  have hgroups : ∃ found, Reader.nullable (Reader.listOf Reader.fields)
      (if aggregates then fields.get "aggregation_groups" else .null) = .sound found := by
    cases aggregates with
    | false => exact ⟨none, rfl⟩
    | true =>
      rcases h.groups with hnull | ⟨found, hfound⟩
      · exact ⟨none, by rw [if_pos rfl, hnull]; rfl⟩
      · refine ⟨some found, ?_⟩
        have hread : Reader.nullable (Reader.listOf Reader.fields) (.list (found.map .object)) =
            (Reader.listOf Reader.fields (.list (found.map .object))).map some := rfl
        rw [if_pos rfl, hfound, hread, Collection.read_rows]
        rfl
  obtain ⟨aggregations, haggregations⟩ := haggregations
  obtain ⟨groups, hgroups⟩ := hgroups
  refine ⟨⟨rows, some total, aggregations, groups⟩, ?_⟩
  unfold View.read
  simp only [Collection.read_rows, Value.fields?, Option.getD_some, haggregations, hgroups]
  rfl

end Readable

namespace Collection

variable {docs : List Fields}

theorem firstOf_subset {limit : Value} {first : List Fields} (h : firstOf limit docs = .ok first) :
    ∀ d ∈ first, d ∈ docs := by
  unfold firstOf at h
  split at h
  · cases h
    exact fun d hd => hd
  · cases hn : wholeOf limit with
    | error f => simp [hn, bind, Except.bind] at h
    | ok n =>
      simp only [hn, bind, Except.bind, pure, Except.pure, Except.ok.injEq] at h
      exact h ▸ fun d hd => List.mem_of_mem_take hd

theorem describeGroup_eq {attrs : List Value} {counts : List Count} {g : Group} {v : Value}
    (h : describeGroup attrs counts g = .ok v) : ∃ fields, v = .object fields := by
  unfold describeGroup at h
  cases hs : sharedFields attrs (g.members.headD []) with
  | error f =>
    rw [hs] at h
    cases h
  | ok shared =>
    rw [hs] at h
    cases hp : putCounts g.members shared counts with
    | error f =>
      simp only [hp, bind, Except.bind] at h
      cases h
    | ok fields =>
      simp only [hp, bind, Except.bind, pure, Except.pure, Except.ok.injEq] at h
      exact ⟨fields, h.symm⟩

theorem mapM_describeGroup {attrs : List Value} {counts : List Count} {groups : List Group}
    {described : List Value} (h : groups.mapM (describeGroup attrs counts) = .ok described) :
    ∃ found : List Fields, described = found.map .object := by
  induction groups generalizing described with
  | nil =>
    cases h
    exact ⟨[], rfl⟩
  | cons g rest ih =>
    rw [List.mapM_cons] at h
    cases hg : describeGroup attrs counts g with
    | error f => simp [hg, bind, Except.bind] at h
    | ok first =>
      cases hr : rest.mapM (describeGroup attrs counts) with
      | error f => simp [hg, hr, bind, Except.bind] at h
      | ok others =>
        simp only [hg, hr, bind, Except.bind, pure, Except.pure, Except.ok.injEq] at h
        obtain ⟨fields, rfl⟩ := describeGroup_eq hg
        obtain ⟨found, rfl⟩ := ih hr
        exact ⟨fields :: found, h.symm⟩

theorem readable_aggregate {aggregates groupsBy response : Value}
    (h : aggregate docs aggregates groupsBy = .ok response) :
    ∃ fields, response = .object fields ∧ Readable fields [] := by
  have hnone : ∀ row ∈ ([] : List Fields), HasKey row := fun row hrow => by cases hrow
  unfold aggregate at h
  split at h
  · rename_i labelled
    simp only [bind, Except.bind] at h
    cases hc : readCounts labelled with
    | error f => simp [hc] at h
    | ok counts =>
      simp only [hc] at h
      split at h
      · cases hp : putCounts docs [] counts with
        | error f => simp [hp] at h
        | ok found =>
          simp only [hp, pure, Except.pure, Except.ok.injEq] at h
          exact ⟨_, h.symm, rfl, hnone, Or.inr ⟨found, rfl⟩, Or.inl rfl⟩
      · split at h
        · simp only [pure, Except.pure, Except.ok.injEq] at h
          exact ⟨_, h.symm, rfl, hnone, Or.inl rfl, Or.inr ⟨[], rfl⟩⟩
        · cases he : elements groupsBy with
          | error f => simp [he] at h
          | ok attrs =>
            cases hg : groupBy attrs [] docs with
            | error f => simp [he, hg] at h
            | ok groups =>
              cases hd : groups.mapM (describeGroup attrs counts) with
              | error f => simp [he, hg, hd] at h
              | ok described =>
                simp only [he, hg, hd, pure, Except.pure, Except.ok.injEq] at h
                obtain ⟨found, rfl⟩ := mapM_describeGroup hd
                exact ⟨_, h.symm, rfl, hnone, Or.inl rfl, Or.inr ⟨found, rfl⟩⟩
  · cases h

/-- Whatever is asked of documents with keys, the answer can be read. -/
theorem readable_answer (hkeys : ∀ d ∈ docs, HasKey d) {request : Fields} {response : Value}
    (h : answer docs request = .ok response) :
    ∃ fields rows, response = .object fields ∧ Readable fields rows := by
  unfold answer at h
  cases hs : select (request.get "filters") docs with
  | error f => simp [hs, bind, Except.bind] at h
  | ok passing =>
    simp only [hs, bind, Except.bind] at h
    split at h
    · obtain ⟨fields, hresponse, hreadable⟩ := readable_aggregate h
      exact ⟨fields, [], hresponse, hreadable⟩
    · cases hr : rank passing (request.get "rank_by") with
      | error f => simp [hr] at h
      | ok ranked =>
        cases hf : firstOf (request.get "top_k") ranked with
        | error f => simp [hr, hf] at h
        | ok first =>
          simp only [hr, hf, pure, Except.pure, Except.ok.injEq] at h
          refine ⟨_, first, h.symm, rfl, fun row hrow => ?_, Or.inl rfl, Or.inl rfl⟩
          have hranked := (rank_perm hr).mem_iff.mp (firstOf_subset hf row hrow)
          obtain ⟨doc, hdoc, rfl⟩ := List.mem_map.mp hranked
          obtain ⟨key, hkey⟩ := hkeys doc ((select_sublist hs).subset hdoc)
          exact ⟨key, by rw [noted_get_id]; exact hkey⟩

end Collection

/-! ## Writing -/

namespace Documents

variable {docs : Documents}

/-- All of the documents have keys. -/
def HaveKeys (docs : Documents) : Prop := ∀ d ∈ docs, HasKey d.fields

theorem HaveKeys.put (h : HaveKeys docs) (key : Value) {fields : Fields} (hf : HasKey fields) :
    HaveKeys (docs.put key fields) := by
  unfold Documents.put
  split
  · intro d hd
    obtain ⟨old, hold, rfl⟩ := List.mem_map.mp hd
    split
    · exact hf
    · exact h old hold
  · intro d hd
    rcases List.mem_append.mp hd with hmem | hmem
    · exact h d hmem
    · rw [List.mem_singleton.mp hmem]
      exact hf

theorem HaveKeys.change (h : HaveKeys docs) (key : Value) {f : Fields → Fields}
    (hf : ∀ fields, HasKey fields → HasKey (f fields)) : HaveKeys (docs.change key f) := by
  intro d hd
  obtain ⟨old, hold, rfl⟩ := List.mem_map.mp hd
  split
  · exact hf _ (h old hold)
  · exact h old hold

theorem HaveKeys.removeAll (h : HaveKeys docs) (removed : Nat) (keys : List Value) :
    HaveKeys (docs.removeAll removed keys).1 := by
  induction keys generalizing docs removed with
  | nil => exact h
  | cons key rest ih =>
    unfold Documents.removeAll
    split
    · exact ih (fun d hd => h d (List.mem_filter.mp hd).1) _
    · exact h

theorem keyOf_ok {row key : Value} {fields : Fields} (h : keyOf row = .ok (key, fields)) :
    row = .object fields ∧ ("id", key) ∈ fields ∧ fields.get "id" = key := by
  unfold keyOf at h
  cases row with
  | object given =>
    dsimp only at h
    cases hk : Named.get? given "id" with
    | none =>
      rw [hk] at h
      cases h
    | some found =>
      rw [hk] at h
      dsimp only at h
      split at h
      · cases h
      · cases h
        refine ⟨rfl, Named.mem_of_get? hk, ?_⟩
        unfold Fields.get
        rw [hk]
        rfl
  | _ => cases h

theorem newKeyOf_ok {row key : Value} {fields : Fields} (h : newKeyOf row = .ok (key, fields)) :
    keyOf row = .ok (key, fields) := by
  unfold newKeyOf at h
  cases hm : newKeyOf.memberOf (.text "id") row with
  | error f =>
    rw [hm] at h
    cases h
  | ok isMember =>
    rw [hm] at h
    cases isMember with
    | false => cases h
    | true => exact h

theorem HaveKeys.putRows (h : HaveKeys docs) {rows : List Value}
    (hrows : ∀ fields, .object fields ∈ rows → GivesKeys fields) :
    HaveKeys (docs.putRows rows).1 := by
  induction rows generalizing docs with
  | nil => exact h
  | cons row rest ih =>
    unfold Documents.putRows
    split
    · rename_i key fields hnew
      obtain ⟨rfl, hmem, hget⟩ := keyOf_ok (newKeyOf_ok hnew)
      obtain ⟨found, hfound⟩ := hrows fields List.mem_cons_self key hmem
      exact ih (h.put key ⟨found, hget.trans hfound⟩)
        fun other hother => hrows other (List.mem_cons_of_mem _ hother)
    · exact h

end Documents

namespace DocumentStore

variable {s : DocumentStore}

/-- All documents have keys, and the schemas that are declared can be read. -/
structure Keyed (s : DocumentStore) : Prop where
  keys : ∀ entry ∈ s.collections, Documents.HaveKeys entry.2
  schemas : s.SchemasTyped

theorem Keyed.get? (h : s.Keyed) {name : String} {docs : Documents} (hd : s.get? name = some docs) :
    docs.HaveKeys := h.keys _ (Named.mem_of_get? hd)

theorem Keyed.put (h : s.Keyed) (name : String) {docs : Documents} (hd : docs.HaveKeys) :
    (s.put name docs).Keyed := by
  refine ⟨fun entry hentry => ?_, h.schemas⟩
  rcases Discovery.mem_put hentry with rfl | hold
  · exact hd
  · exact h.keys entry hold

theorem Keyed.documents (h : s.Keyed) {name : String} {docs : Documents}
    (hd : s.documents name = .ok docs) : docs.HaveKeys := by
  unfold DocumentStore.documents at hd
  split at hd
  · rename_i found hfound
    cases hd
    exact h.get? hfound
  · cases hd

theorem Keyed.delete (h : s.Keyed) (name : String) (keys : Value) : (s.delete name keys).1.Keyed := by
  unfold DocumentStore.delete
  split
  · exact h
  · exact h
  · rename_i docs given hdocs hgiven
    exact h.put name ((h.documents hdocs).removeAll 0 given)

/-- What a change of a document comes to. -/
theorem update_ok {name : String} {key changes : Value} {t : DocumentStore}
    (ht : s.update name key changes = .ok t) : ∃ docs fields, s.documents name = .ok docs ∧
      changes = .object fields ∧ t = s.put name (docs.change key (·.putAll fields)) := by
  unfold DocumentStore.update at ht
  cases hd : s.documents name with
  | error f =>
    rw [hd] at ht
    cases ht
  | ok docs =>
    rw [hd] at ht
    cases hk : key.isKey with
    | false => simp [hk, bind, Except.bind, throw, throwThe, MonadExceptOf.throw] at ht
    | true =>
      cases hh : Documents.has docs key with
      | false => simp [hk, hh, bind, Except.bind, throw, throwThe, MonadExceptOf.throw] at ht
      | true =>
        simp only [hk, hh, bind, Except.bind, Bool.not_true, Bool.false_eq_true, if_false, pure,
          Except.pure] at ht
        cases changes with
        | object fields =>
          cases ht
          exact ⟨docs, fields, rfl, rfl, rfl⟩
        | _ => cases ht

theorem Keyed.update (h : s.Keyed) {name : String} {key changes : Value} {t : DocumentStore}
    (hchanges : ∀ fields, changes = .object fields → GivesKeys fields)
    (ht : s.update name key changes = .ok t) : t.Keyed := by
  obtain ⟨docs, fields, hdocs, hfields, rfl⟩ := update_ok ht
  exact h.put name ((h.documents hdocs).change key fun _ hf => hf.putAll (hchanges fields hfields))

theorem Keyed.upsert (h : s.Keyed) (name : String) {rows : Value} (hrows : RowsGiveKeys rows) :
    (s.upsert name rows).1.Keyed := by
  have hold : Documents.HaveKeys ((s.get? name).getD []) := by
    cases hd : s.get? name with
    | none => exact fun d hd => by cases hd
    | some docs => exact h.get? hd
  unfold DocumentStore.upsert
  dsimp only
  split
  · rename_i given hgiven
    have hput := hold.putRows (hrows given hgiven)
    split
    · rename_i hrest
      rw [hrest] at hput
      exact h.put name hput
    · rename_i hrest
      rw [hrest] at hput
      exact h.put name hput
  · exact h.put name hold

theorem Keyed.answer (h : s.Keyed) {name : String} {request : Fields} {response : Value}
    (ha : s.answer name request = .ok response) :
    ∃ fields rows, response = .object fields ∧ Readable fields rows := by
  obtain ⟨docs, hd, hanswer⟩ := answer_ok ha
  refine Collection.readable_answer (fun d hmem => ?_) hanswer
  obtain ⟨doc, hdoc, rfl⟩ := List.mem_map.mp hmem
  exact h.documents hd doc hdoc

end DocumentStore

/-! ## Backends -/

namespace Backend

variable {b : Backend}

/-- Behind the backend stands a store of documents with keys. -/
def Keyed (b : Backend) : Prop := ∃ store shows, b.source = .store store shows ∧ store.Keyed

theorem Keyed.backed (h : b.Keyed) : Backed DocumentStore.Keyed b := h

theorem Keyed.respond (h : b.Keyed) (collection : String) (request : Fields) :
    (b.respond collection request).1.Keyed := h.backed.respond collection request

theorem Keyed.answer (h : b.Keyed) {collection : String} {request : Fields} {response : Value}
    (ha : (b.respond collection request).2 = .ok response) :
    ∃ fields rows, response = .object fields ∧ Readable fields rows := by
  obtain ⟨store, -, -, hstore, hanswer⟩ := h.backed.answer ha
  exact hstore.answer hanswer

theorem Keyed.inMemory (h : b.Keyed) : b.InMemory := by
  obtain ⟨store, shows, hsource, hstore⟩ := h
  exact ⟨store, shows, hsource, hstore.schemas⟩

theorem Keyed.delete (h : b.Keyed) (collection : String) (keys : Value) :
    (b.delete collection keys).1.Keyed :=
  h.backed.delete fun _ hstore => hstore.delete collection keys

theorem Keyed.update (h : b.Keyed) (collection : String) (key : Value) {changes : Value}
    (hchanges : ∀ fields, changes = .object fields → GivesKeys fields) :
    (b.update collection key changes).1.Keyed :=
  h.backed.update fun _ _ hstore hchanged => hstore.update hchanges hchanged

theorem Keyed.upsert (h : b.Keyed) (collection : String) {rows : Value} (hrows : RowsGiveKeys rows) :
    (b.upsert collection rows).1.Keyed :=
  h.backed.write _ fun _ hstore => hstore.upsert collection hrows

end Backend

end Folio
