-- Stores whose documents are filed: each under a key that is the same as no other's, and with an id
-- of its own. However documents are written they stay filed, as long as every row that is written
-- carries an id; what is said to be deleted is what is missing then; and who asks for the number of
-- all documents is told how many are filed.
import Folio.Proofs.Answers
import Folio.Proofs.KeyedStores

namespace Folio

/-! ## Keys that are the same -/

theorem Number.Magnitude.same_of_same {a b c : Magnitude} (hac : a.same c = true)
    (hbc : b.same c = true) : a.same b = true := by
  cases a <;> cases b <;> cases c <;> simp_all [same]

theorem Scalar.same_text {a : Scalar} {s : String} (h : a.same (.text s) = true) : a = .text s := by
  cases a with
  | text t => simpa [same] using h
  | _ => simp [same, magnitude?] at h

/-- What is the same as a number is one. -/
theorem Scalar.same_number {a b : Scalar} {q : Number.Magnitude} (hb : b.magnitude? = some q) :
    a.same b = (a.magnitude?).any (·.same q) := by
  cases b with
  | text t => cases hb
  | _ =>
    cases hb
    cases a <;> rfl

theorem Scalar.same_of_same {a b c : Scalar} (hac : a.same c = true) (hbc : b.same c = true) :
    a.same b = true := by
  cases hc : c.magnitude? with
  | none =>
    obtain ⟨s, rfl⟩ : ∃ s, c = .text s := by
      cases c with
      | text s => exact ⟨s, rfl⟩
      | _ => cases hc
    rw [same_text hac, same_text hbc]
    simp [same]
  | some q =>
    rw [same_number hc] at hac hbc
    obtain ⟨p, hp, hpq⟩ := (Option.any_eq_true _ _).mp hac
    obtain ⟨r, hr, hrq⟩ := (Option.any_eq_true _ _).mp hbc
    rw [same_number hr, hp]
    exact Number.Magnitude.same_of_same hpq hrq

theorem Value.scalar_of_same {v : Value} {k : Scalar} (h : v.same (.scalar k) = true) :
    ∃ a, v = .scalar a ∧ a.same k = true := by
  cases v with
  | scalar a => exact ⟨a, rfl, by simpa [same] using h⟩
  | _ => simp [same] at h

/-- Values that are the same as one key are the same. -/
theorem Value.same_of_same {a b key : Value} (hkey : key.isKey = true) (ha : a.same key = true)
    (hb : b.same key = true) : a.same b = true := by
  cases key with
  | null => cases a <;> cases b <;> simp_all [same]
  | scalar k =>
    obtain ⟨x, rfl, hx⟩ := scalar_of_same ha
    obtain ⟨y, rfl, hy⟩ := scalar_of_same hb
    simpa [same] using Scalar.same_of_same hx hy
  | _ => cases hkey

/-! ## Documents with ids -/

/-- The document has an id that can be the key of one. -/
structure Identified (doc : Fields) : Prop where
  present : (doc.get "id").isNull = false
  isKey : (doc.get "id").isKey = true

/-- A row is a document with an id. -/
def CarriesId (row : Value) : Prop := ∃ doc, row = .object doc ∧ Identified doc

/-- Changes of fields other than the id. -/
def SparesId (changes : Fields) : Prop := "id" ∉ Named.names changes

theorem SparesId.get_putAll {doc changes : Fields} (h : SparesId changes) :
    Fields.get (Named.putAll doc changes) "id" = doc.get "id" := by
  induction changes generalizing doc with
  | nil => rfl
  | cons entry rest ih =>
    have hname : "id" ≠ entry.1 := List.ne_of_not_mem_cons h
    have hrest : SparesId rest := List.not_mem_of_not_mem_cons h
    have hput : Fields.get (Named.put doc entry.1 entry.2) "id" = doc.get "id" := by
      unfold Fields.get
      rw [Named.get?_put_of_ne _ _ hname]
    exact (ih hrest).trans hput

theorem Identified.of_get {doc other : Fields} (h : Identified doc)
    (hsame : other.get "id" = doc.get "id") : Identified other :=
  ⟨by rw [hsame]; exact h.present, by rw [hsame]; exact h.isKey⟩

namespace Documents

variable {docs : Documents}

/-- No two documents have the same key, and each has an id. -/
structure Filed (docs : Documents) : Prop where
  apart : docs.Pairwise fun a b => a.key.same b.key = false
  identified : ∀ d ∈ docs, Identified d.fields

theorem filed_nil : Filed [] := ⟨.nil, fun _ hd => by cases hd⟩

theorem Filed.sublist {left : Documents} (h : docs.Filed) (hs : left.Sublist docs) : left.Filed :=
  ⟨h.apart.sublist hs, fun d hd => h.identified d (hs.subset hd)⟩

/-- The keys stay, and so do the ids. -/
theorem Filed.map (h : docs.Filed) {f : Document → Document} (hkey : ∀ d, (f d).key = d.key)
    (hid : ∀ d ∈ docs, Identified (f d).fields) : Filed (docs.map f) := by
  refine ⟨List.pairwise_map.mpr (h.apart.imp fun hab => ?_), List.forall_mem_map.mpr hid⟩
  rwa [hkey, hkey]

theorem Filed.put (h : docs.Filed) (key : Value) {fields : Fields} (hf : Identified fields) :
    Filed (docs.put key fields) := by
  unfold Documents.put
  split
  · refine h.map (fun d => by split <;> rfl) fun d hd => ?_
    split
    · exact hf
    · exact h.identified d hd
  · rename_i hnew
    rw [Bool.not_eq_true] at hnew
    refine ⟨List.pairwise_append.mpr ⟨h.apart, List.pairwise_singleton _ _, ?_⟩, ?_⟩
    · intro d hd added hadded
      rw [List.mem_singleton.mp hadded]
      exact Bool.not_eq_true _ ▸ List.any_eq_false.mp hnew d hd
    · intro d hd
      rcases List.mem_append.mp hd with hold | hadded
      · exact h.identified d hold
      · rw [List.mem_singleton.mp hadded]
        exact hf

theorem Filed.change (h : docs.Filed) (key : Value) {changes : Fields} (hc : SparesId changes) :
    Filed (docs.change key (·.putAll changes)) := by
  refine h.map (fun d => by split <;> rfl) fun d hd => ?_
  split
  · exact (h.identified d hd).of_get hc.get_putAll
  · exact h.identified d hd

/-- At most one document has a key. -/
theorem length_remove (h : docs.Pairwise fun a b => a.key.same b.key = false) {key : Value}
    (hkey : key.isKey = true) :
    (docs.remove key).length + (if docs.has key then 1 else 0) = docs.length := by
  induction docs with
  | nil => rfl
  | cons d rest ih =>
    obtain ⟨hfirst, hrest⟩ := List.pairwise_cons.mp h
    have hih := ih hrest
    cases hsame : d.key.same key with
    | false =>
      have hhas : has (d :: rest) key = has rest key := by simp [has, hsame]
      have hremove : remove (d :: rest) key = d :: remove rest key := by simp [remove, hsame]
      rw [hhas, hremove, List.length_cons, List.length_cons]
      omega
    | true =>
      have hnone : has rest key = false := by
        refine List.any_eq_false.mpr fun other hother hagain => ?_
        have hboth := Value.same_of_same hkey hsame hagain
        rw [hfirst other hother] at hboth
        cases hboth
      have hhas : has (d :: rest) key = true := by simp [has, hsame]
      have hremove : remove (d :: rest) key = remove rest key := by simp [remove, hsame]
      rw [hnone, if_neg Bool.false_ne_true] at hih
      rw [hhas, hremove, if_pos rfl, List.length_cons]
      omega

/-- The documents with none of the given keys. -/
def without (docs : Documents) (keys : List Value) : Documents :=
  docs.filter (!·.key.occursIn keys)

theorem without_cons (docs : Documents) (key : Value) (rest : List Value) :
    docs.without (key :: rest) = (docs.remove key).without rest := by
  unfold without remove
  rw [List.filter_filter]
  refine List.filter_congr fun d _ => ?_
  simp [Value.occursIn, Bool.and_comm]

/-- The documents with the given keys are removed, and what is said to be removed is what is missing
then. -/
theorem removeAll_eq (h : docs.Pairwise fun a b => a.key.same b.key = false) (removed : Nat)
    {keys : List Value} (hkeys : ∀ key ∈ keys, key.isKey = true) :
    ∃ n, docs.removeAll removed keys = (docs.without keys, .ok n) ∧
      (docs.without keys).length + n = docs.length + removed := by
  induction keys generalizing docs removed with
  | nil =>
    have hall : docs.without [] = docs := List.filter_eq_self.mpr fun d _ => rfl
    rw [hall]
    exact ⟨removed, rfl, rfl⟩
  | cons key rest ih =>
    have hkey := hkeys key List.mem_cons_self
    obtain ⟨n, hremoved, hlength⟩ := ih (h.sublist (List.filter_sublist (p := (!·.key.same key))))
      (if docs.has key then removed + 1 else removed)
      fun k hk => hkeys k (List.mem_cons_of_mem _ hk)
    rw [without_cons]
    refine ⟨n, ?_, ?_⟩
    · unfold removeAll
      rw [if_pos hkey]
      exact hremoved
    · have hone := length_remove h hkey
      change ((docs.remove key).without rest).length + n = (docs.remove key).length + _ at hlength
      split at hlength <;> rename_i hhas
      · rw [if_pos hhas] at hone
        omega
      · rw [if_neg hhas] at hone
        omega

theorem Filed.removeAll (h : docs.Filed) (removed : Nat) {keys : List Value}
    (hkeys : ∀ key ∈ keys, key.isKey = true) :
    ∃ left n, docs.removeAll removed keys = (left, .ok n) ∧
      left.Filed ∧ left.length + n = docs.length + removed := by
  obtain ⟨n, hremoved, hlength⟩ := removeAll_eq h.apart removed hkeys
  exact ⟨docs.without keys, n, hremoved, h.sublist List.filter_sublist, hlength⟩

theorem keyOf_identified {fields : Fields} (h : Identified fields) :
    keyOf (.object fields) = .ok (fields.get "id", fields) := by
  unfold keyOf
  cases hk : Named.get? fields "id" with
  | none =>
    have hnull := h.present
    unfold Fields.get at hnull
    rw [hk] at hnull
    cases hnull
  | some key =>
    have hget : fields.get "id" = key := by
      unfold Fields.get
      rw [hk]
      rfl
    have hkey := h.isKey
    rw [hget] at hkey ⊢
    simp only [hk, hkey, Bool.not_true, Bool.false_eq_true, if_false, pure, Except.pure, bind,
      Except.bind]

theorem newKeyOf_identified {fields : Fields} (h : Identified fields) :
    newKeyOf (.object fields) = .ok (fields.get "id", fields) := by
  have hsome : (Named.get? fields "id").isSome = true := by
    cases hk : Named.get? fields "id" with
    | some key => rfl
    | none =>
      have hnull := h.present
      unfold Fields.get at hnull
      rw [hk] at hnull
      cases hnull
  have htrue : (Value.object fields).isTrue = true := by
    cases fields with
    | nil => cases hsome
    | cons entry rest => rfl
  have hmember : newKeyOf.memberOf (.text "id") (.object fields) = .ok true := by
    unfold newKeyOf.memberOf Collection.memberOf
    simp only [htrue, Bool.not_true, Bool.false_eq_true, if_false, Named.has_eq_isSome, hsome]
  unfold newKeyOf
  rw [hmember]
  exact keyOf_identified h

/-- Rows that carry ids are all stored. -/
theorem Filed.putRows (h : docs.Filed) {rows : List Value} (hrows : ∀ row ∈ rows, CarriesId row) :
    (docs.putRows rows).2 = none ∧ Filed (docs.putRows rows).1 := by
  induction rows generalizing docs with
  | nil => exact ⟨rfl, h⟩
  | cons row rest ih =>
    obtain ⟨fields, rfl, hf⟩ := hrows row List.mem_cons_self
    unfold Documents.putRows
    rw [newKeyOf_identified hf]
    exact ih (h.put _ hf) fun other hother => hrows other (List.mem_cons_of_mem _ hother)

/-- Documents that are given from the start with ids are filed. -/
theorem Filed.ofRows (h : docs.Filed) {rows : List Value} (hrows : ∀ row ∈ rows, CarriesId row) :
    ∃ filed, docs.ofRows rows = .ok filed ∧ filed.Filed := by
  induction rows generalizing docs with
  | nil => exact ⟨docs, rfl, h⟩
  | cons row rest ih =>
    obtain ⟨fields, rfl, hf⟩ := hrows row List.mem_cons_self
    unfold Documents.ofRows
    rw [keyOf_identified hf]
    exact ih (h.put _ hf) fun other hother => hrows other (List.mem_cons_of_mem _ hother)

end Documents

/-! ## Answers about documents with ids -/

namespace Collection

variable {docs : List Fields}

/-- A query that browses all has no filter. -/
theorem compileFilters_browsesAll {c : QueryConfig} (h : c.browsesAll = true) :
    Query.compileFilters c = .null := by
  unfold QueryConfig.browsesAll QueryConfig.isFiltered at h
  rw [Bool.and_eq_true, Bool.not_eq_true', Bool.or_eq_false_iff] at h
  obtain ⟨-, hpredicates, hsearch⟩ := h
  have hnone : c.predicates = [] := by simpa using hpredicates
  unfold Query.compileFilters Query.filtersOf
  rw [hsearch, hnone]
  rfl

/-- Who asks for the number of all documents is told how many there are. -/
theorem answer_all (hdocs : ∀ d ∈ docs, Identified d) {c : QueryConfig}
    (h : c.browsesAll = true) :
    answer docs (Query.compileCount c).toFields = .ok (countAnswer docs.length) := by
  refine answer_count ?_ fun d hd => (hdocs d hd).present
  rw [compileFilters_browsesAll h]
  exact select_null docs

/-- The rows of an answer have the ids of documents. -/
theorem rowsIn_answer (hdocs : ∀ d ∈ docs, Identified d) {request : Fields} {response : Value}
    {rows : List Value} (h : answer docs request = .ok response)
    (hrows : View.rowsIn response = .ok rows) : ∀ row ∈ rows, CarriesId row := by
  unfold answer at h
  cases hs : select (request.get "filters") docs with
  | error f => simp [hs, bind, Except.bind] at h
  | ok passing =>
    simp only [hs, bind, Except.bind] at h
    split at h
    · obtain ⟨fields, rfl, hreadable⟩ := readable_aggregate h
      rw [hreadable.rowsIn] at hrows
      cases hrows
      exact fun row hrow => by cases hrow
    · cases hr : rank passing (request.get "rank_by") with
      | error f => simp [hr] at h
      | ok ranked =>
        cases hf : firstOf (request.get "top_k") ranked with
        | error f => simp [hr, hf] at h
        | ok first =>
          simp only [hr, hf, pure, Except.pure, Except.ok.injEq] at h
          have hlisted : View.rowsIn (rowsAnswer first) = .ok (first.map .object) :=
            rowsIn_rowsAnswer first
          rw [← h] at hrows
          rw [hlisted.symm.trans hrows |> Except.ok.inj |>.symm]
          refine List.forall_mem_map.mpr fun row hrow => ⟨row, rfl, ?_⟩
          have hranked := (rank_perm hr).mem_iff.mp (firstOf_subset hf row hrow)
          obtain ⟨doc, hdoc, rfl⟩ := List.mem_map.mp hranked
          exact (hdocs doc ((select_sublist hs).subset hdoc)).of_get (noted_get_id _ doc)

end Collection

/-! ## Stores -/

namespace DocumentStore

variable {s t : DocumentStore} {name : String}

/-- The documents of every collection are filed. -/
def Filed (s : DocumentStore) : Prop := ∀ entry ∈ s.collections, Documents.Filed entry.2

/-- How many documents there are in a collection. -/
def number (s : DocumentStore) (name : String) : Nat := ((s.get? name).getD []).length

theorem Filed.getD (h : s.Filed) (name : String) : Documents.Filed ((s.get? name).getD []) := by
  cases hd : s.get? name with
  | none => exact Documents.filed_nil
  | some docs => exact h _ (Named.mem_of_get? hd)

theorem Filed.put (h : s.Filed) (name : String) {docs : Documents} (hd : docs.Filed) :
    (s.put name docs).Filed := by
  intro entry hentry
  rcases Discovery.mem_put hentry with rfl | hold
  · exact hd
  · exact h entry hold

theorem number_put_self (s : DocumentStore) (name : String) (docs : Documents) :
    (s.put name docs).number name = docs.length := by
  unfold number DocumentStore.put DocumentStore.get?
  rw [Named.get?_put_self]
  rfl

theorem number_put_of_ne (s : DocumentStore) {name other : String} (h : other ≠ name)
    (docs : Documents) : (s.put name docs).number other = s.number other := by
  unfold number DocumentStore.put DocumentStore.get?
  rw [Named.get?_put_of_ne _ _ h]

/-- A collection that gets as many documents as it has leaves all numbers as they are. -/
theorem number_put (s : DocumentStore) {name : String} {docs : Documents}
    (h : docs.length = s.number name) (other : String) :
    (s.put name docs).number other = s.number other := by
  by_cases hother : other = name
  · rw [hother, number_put_self, h]
  · exact number_put_of_ne s hother docs

theorem documents_ok {docs : Documents} (h : s.documents name = .ok docs) :
    s.get? name = some docs := by
  unfold DocumentStore.documents at h
  split at h
  · rename_i found hfound
    cases h
    exact hfound
  · cases h

theorem number_of_documents {docs : Documents} (h : s.documents name = .ok docs) :
    s.number name = docs.length := by
  unfold number
  rw [documents_ok h]
  rfl

theorem Filed.documents (h : s.Filed) {docs : Documents} (hd : s.documents name = .ok docs) :
    docs.Filed := h _ (Named.mem_of_get? (documents_ok hd))

/-- Deleting by keys takes as many documents away as it says, or changes nothing. -/
theorem Filed.delete (h : s.Filed) (name : String) {given : Value}
    (hkeys : ∀ keys, Collection.elements given = .ok keys → ∀ key ∈ keys, key.isKey = true) :
    (∃ f, s.delete name given = (s, .error f)) ∨
      ∃ t n, s.delete name given = (t, .ok n) ∧ t.Filed ∧ t.number name + n = s.number name ∧
        ∀ other, other ≠ name → t.number other = s.number other := by
  unfold DocumentStore.delete
  split
  · exact .inl ⟨_, rfl⟩
  · exact .inl ⟨_, rfl⟩
  · rename_i docs keys hdocs helements
    obtain ⟨left, n, hremoved, hleft, hlength⟩ :=
      (h.documents hdocs).removeAll 0 (hkeys keys helements)
    rw [hremoved]
    refine .inr ⟨s.put name left, n, rfl, h.put name hleft, ?_, fun other hother => ?_⟩
    · rw [number_put_self, number_of_documents hdocs]
      exact hlength
    · exact number_put_of_ne s hother left

/-- Changing fields other than the id leaves all numbers as they are. -/
theorem Filed.update (h : s.Filed) {name : String} {key changes : Value}
    (hchanges : ∀ fields, changes = .object fields → SparesId fields)
    (ht : s.update name key changes = .ok t) :
    t.Filed ∧ ∀ other, t.number other = s.number other := by
  obtain ⟨docs, fields, hdocs, hfields, rfl⟩ := update_ok ht
  have hfiled := (h.documents hdocs).change key (hchanges fields hfields)
  refine ⟨h.put name hfiled, number_put s ?_⟩
  rw [number_of_documents hdocs]
  exact List.length_map _

/-- Rows that carry ids are stored; what is no list of rows leaves all numbers as they are. -/
theorem Filed.upsert (h : s.Filed) (name : String) {rows : Value}
    (hrows : ∀ given, Collection.elements rows = .ok given → ∀ row ∈ given, CarriesId row) :
    (s.upsert name rows).1.Filed ∧ ∀ f, (s.upsert name rows).2 = .error f →
      ∀ other, (s.upsert name rows).1.number other = s.number other := by
  have hold := h.getD name
  unfold DocumentStore.upsert
  dsimp only
  split
  · rename_i given hgiven
    obtain ⟨hnone, hfiled⟩ := hold.putRows (hrows given hgiven)
    cases hput : Documents.putRows ((s.get? name).getD []) given with
    | mk docs fault =>
      rw [hput] at hnone hfiled
      cases hnone
      exact ⟨h.put name hfiled, fun f hf => by cases hf⟩
  · exact ⟨h.put name hold, fun f _ => number_put s rfl⟩

/-- Collections of rows that carry ids can be given from the start. -/
theorem filed_ofCollections {collections : Named (List Value)} (schemas : Fields)
    (hrows : ∀ entry ∈ collections, ∀ row ∈ entry.2, CarriesId row) :
    ∃ filled, ofCollections collections schemas = .ok ⟨filled, schemas⟩ ∧
      ∀ entry ∈ filled, Documents.Filed entry.2 := by
  induction collections with
  | nil => exact ⟨[], rfl, fun entry hentry => by cases hentry⟩
  | cons entry rest ih =>
    obtain ⟨name, rows⟩ := entry
    obtain ⟨filled, hrest, hothers⟩ := ih fun e he => hrows e (List.mem_cons_of_mem _ he)
    obtain ⟨docs, hdocs, hfiled⟩ :=
      Documents.filed_nil.ofRows (hrows (name, rows) List.mem_cons_self)
    refine ⟨(name, docs) :: filled, ?_, List.forall_mem_cons.mpr ⟨hfiled, hothers⟩⟩
    unfold ofCollections at hrest ⊢
    rw [List.mapM_cons]
    dsimp only
    rw [hdocs]
    simp only [bind, Except.bind, pure, Except.pure] at hrest ⊢
    split at hrest
    · cases hrest
    · cases hrest
      rfl

end DocumentStore

/-! ## Backends -/

namespace Backend

variable {b : Backend}

/-- Behind the backend stands a store of filed documents. -/
def Filed (b : Backend) : Prop := ∃ store shows, b.source = .store store shows ∧ store.Filed

/-- How many documents a backend has in a collection. -/
def number (b : Backend) (name : String) : Nat :=
  match b.source with
  | .store store _ => store.number name
  | .script _ => 0

theorem Filed.backed (h : b.Filed) : Backed DocumentStore.Filed b := h

/-- The answer to a request is that of the documents, if there is one. -/
theorem Filed.respond_ok (h : b.Filed) {collection : String} {request : Fields} {response : Value}
    (ha : (b.respond collection request).2 = .ok response) :
    ∃ docs : Documents, docs.Filed ∧ docs.length = b.number collection ∧
      Collection.answer docs.rows request = .ok response := by
  obtain ⟨store, shows, hsource, hstore, hanswer⟩ := h.backed.answer ha
  obtain ⟨docs, hd, hanswered⟩ := DocumentStore.answer_ok hanswer
  refine ⟨docs, hstore.documents hd, ?_, hanswered⟩
  unfold number
  rw [hsource]
  exact (DocumentStore.number_of_documents hd).symm

/-- What comes of writing: the documents stay filed, nothing is held back by it, and what fails leaves
all numbers as they are. -/
structure Writes {α : Type} (b : Backend) (r : Backend × Except Fault α) : Prop where
  filed : r.1.Filed
  held : r.1.held = b.held
  schemaHeld : r.1.schemaHeld = b.schemaHeld
  fails : ∀ f, r.2 = .error f → ∀ name, r.1.number name = b.number name

theorem number_store {store : DocumentStore} {shows : Bool} (hsource : b.source = .store store shows)
    (name : String) : b.number name = store.number name := by
  unfold number
  rw [hsource]

theorem Filed.write {α : Type} (h : b.Filed) (operation : String)
    {f : DocumentStore → DocumentStore × Except Failure α}
    (hf : ∀ store, store.Filed → (f store).1.Filed ∧
      ∀ failure, (f store).2 = .error failure → ∀ name, (f store).1.number name = store.number name) :
    b.Writes (b.write operation f) := by
  obtain ⟨store, shows, hsource, hstore⟩ := h
  obtain ⟨hfiled, hfails⟩ := hf store hstore
  rw [write_store hsource]
  refine ⟨⟨_, shows, rfl, hfiled⟩, rfl, rfl, fun fault hfault name => ?_⟩
  dsimp only at hfault
  cases hr : (f store).2 with
  | ok a =>
    rw [hr] at hfault
    cases hfault
  | error failure => exact (hfails failure hr name).trans (number_store hsource name).symm

/-- Deleting takes as many documents away as it says. -/
theorem Filed.delete (h : b.Filed) (collection : String) {given : Value}
    (hkeys : ∀ keys, Collection.elements given = .ok keys → ∀ key ∈ keys, key.isKey = true) :
    b.Writes (b.delete collection given) ∧ ∀ n, (b.delete collection given).2 = .ok n →
      (b.delete collection given).1.number collection + n = b.number collection ∧
      ∀ other, other ≠ collection → (b.delete collection given).1.number other = b.number other := by
  rcases b.delete_cases collection given with ⟨f, hd⟩ | hd
  · rw [hd]
    exact ⟨⟨h, rfl, rfl, fun _ _ _ => rfl⟩, fun n hn => by cases hn⟩
  rw [hd]
  refine ⟨h.write _ fun store hstore => ?_, fun n hn => ?_⟩
  · rcases hstore.delete collection hkeys with ⟨f, hd⟩ | ⟨t, m, hd, hfiled, -, -⟩
    · rw [hd]
      exact ⟨hstore, fun _ _ _ => rfl⟩
    · rw [hd]
      exact ⟨hfiled, fun f hf => by cases hf⟩
  · obtain ⟨store, shows, hsource, hstore⟩ := h
    rw [write_store hsource] at hn ⊢
    rw [number_store hsource]
    rcases hstore.delete collection hkeys with ⟨f, hd⟩ | ⟨t, m, hd, -, hless, hothers⟩
    · rw [hd] at hn
      cases hn
    · rw [hd] at hn ⊢
      cases hn
      exact ⟨hless, fun other hother => (hothers other hother).trans (number_store hsource _).symm⟩

/-- Changing fields other than the id leaves all numbers as they are. -/
theorem Filed.update (h : b.Filed) (collection : String) {key changes : Value}
    (hchanges : ∀ fields, changes = .object fields → SparesId fields) :
    b.Writes (b.update collection key changes) ∧
      ∀ name, (b.update collection key changes).1.number name = b.number name := by
  unfold Backend.update
  refine ⟨h.write _ fun store hstore => ?_, fun name => ?_⟩
  · cases hd : store.update collection key changes with
    | ok changed => exact ⟨(hstore.update hchanges hd).1, fun _ hf => by cases hf⟩
    | error failure => exact ⟨hstore, fun _ _ _ => rfl⟩
  · obtain ⟨store, shows, hsource, hstore⟩ := h
    rw [write_store hsource, number_store hsource]
    cases hd : store.update collection key changes with
    | ok changed => exact (hstore.update hchanges hd).2 name
    | error failure => rfl

/-- Rows that carry ids are stored. -/
theorem Filed.upsert (h : b.Filed) (collection : String) {rows : Value}
    (hrows : ∀ given, Collection.elements rows = .ok given → ∀ row ∈ given, CarriesId row) :
    b.Writes (b.upsert collection rows) := h.write _ fun _ hstore => hstore.upsert collection hrows

end Backend

end Folio
