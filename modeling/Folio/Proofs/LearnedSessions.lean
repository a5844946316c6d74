-- Sessions that look at a collection in memory, which answers at once. To get to know its attributes
-- and to ask for its documents leaves such a session as it is, apart from what it learns and takes
-- note of.
import Folio.Proofs.Answers
import Folio.Proofs.Backends
import Folio.Session.Load

namespace Folio

/-! ## Committing a page -/

/-- Some rows end in one with a key, or in one without any; or there are none. -/
def EndsIn (rows : List Value) (last : Option RowKey) : Prop :=
  match rows.getLast? with
  | none => last = none
  | some row => ∃ fields, row = .object fields ∧
      Fields.get fields "id" = .ofOption RowKey.toValue last

theorem RowKey.read_ofOption (last : Option RowKey) :
    Reader.nullable RowKey.read (.ofOption RowKey.toValue last) = .sound last := by
  cases last with
  | none => rfl
  | some key => exact read_toValue key

theorem Paging.commit_of_endsIn {p : Paging} {move : PageMove} {rows : List Value}
    {last : Option RowKey} {keys : List RowKey} (hends : EndsIn rows last)
    (hentered : p.entered move = .sound keys) :
    p.commit move rows = .ok ⟨move.page, p.pageSize, last, keys⟩ := by
  unfold Paging.commit
  unfold EndsIn at hends
  rw [hentered]
  cases hl : rows.getLast? with
  | none =>
    simp only [hl] at hends
    subst hends
    rfl
  | some row =>
    simp only [hl] at hends
    obtain ⟨fields, rfl, hid⟩ := hends
    simp only [keyOfRow, hid, Except.mapError, bind, Except.bind, RowKey.read_ofOption]
    rfl

/-- Where a walk stands once a page has been fetched. -/
def Paging.advance (p : Paging) (move : PageMove) (rows : List Fields) : Paging where
  page := move.page
  pageSize := p.pageSize
  next := rows.getLast?.map Collection.rowKey
  previous := if move.page ≤ 1 then []
    else p.previous.take (move.page - 2).toNat ++ move.cursor.toList

/-- A page of documents with keys is committed, if it is the first or is entered behind a key. -/
theorem Paging.commit_eq {p : Paging} {move : PageMove} {rows : List Fields}
    (hid : ∀ d ∈ rows, d.get "id" = (Collection.rowKey d).toValue)
    (hentry : move.page ≤ 1 ∨ move.cursor.isSome) :
    p.commit move (rows.map .object) = .ok (p.advance move rows) := by
  have hends : EndsIn (rows.map .object) (rows.getLast?.map Collection.rowKey) := by
    unfold EndsIn
    rw [List.getLast?_map]
    cases hl : rows.getLast? with
    | none => rfl
    | some d => exact ⟨d, rfl, hid d (List.mem_of_getLast? hl)⟩
  have hentered : p.entered move = .sound (p.advance move rows).previous := by
    unfold Paging.entered Paging.advance
    by_cases hm : move.page ≤ 1
    · simp only [hm, if_true]
    · obtain ⟨key, hkey⟩ := Option.isSome_iff_exists.mp (hentry.resolve_left hm)
      simp only [hm, if_false, hkey, Option.toList_some]
  exact commit_of_endsIn hends hentered

namespace Session

/-! ## Sessions that have learned -/

/-- The second session is like the first, but for the records of what was sent, given, answered and
loaded. -/
def Noted (s t : Session) : Prop :=
  ∃ sent yielded answered journal,
    t = { s with sent := sent, yielded := yielded, answered := answered, journal := journal }

theorem Noted.trans {s t u : Session} (hst : Noted s t) (htu : Noted t u) : Noted s u := by
  obtain ⟨_, _, _, _, rfl⟩ := hst
  obtain ⟨sent, yielded, answered, journal, rfl⟩ := htu
  exact ⟨sent, yielded, answered, journal, rfl⟩

/-- The second session is like the first, but for what is known about attributes and for the
records of what was sent, given, answered and loaded. -/
def Learned (s t : Session) : Prop :=
  ∃ registry known sent yielded answered journal,
    t = { s with
      browser := { s.browser with registry := registry, known := known }
      sent := sent
      yielded := yielded
      answered := answered
      journal := journal }

theorem Learned.refl (s : Session) : Learned s s := ⟨_, _, _, _, _, _, rfl⟩

theorem Learned.trans {s t u : Session} (hst : Learned s t) (htu : Learned t u) : Learned s u := by
  obtain ⟨_, _, _, _, _, _, rfl⟩ := hst
  obtain ⟨r, k, sent, yielded, answered, journal, rfl⟩ := htu
  exact ⟨r, k, sent, yielded, answered, journal, rfl⟩

theorem Noted.learned {s t : Session} (h : Noted s t) : Learned s t := by
  obtain ⟨sent, yielded, answered, journal, rfl⟩ := h
  exact ⟨_, _, sent, yielded, answered, journal, rfl⟩

/-! ## A collection that answers at once -/

/-- A backend that holds the documents of a collection in memory, and answers at once. -/
structure Answering (b : Backend) (collection : String) (docs : List Fields) : Prop where
  holds : ∃ store shows documents, b.source = .store store shows ∧ store.SchemasTyped ∧
    store.get? collection = some documents ∧ documents.rows = docs
  unheld : b.held = false
  schemaUnheld : b.schemaHeld = false
  sound : b.failure = none

theorem Answering.inMemory {b : Backend} {collection : String} {docs : List Fields}
    (ha : Answering b collection docs) : b.InMemory := by
  obtain ⟨store, shows, -, hsource, htyped, -⟩ := ha.holds
  exact ⟨store, shows, hsource, htyped⟩

/-- The browser looks at a collection whose documents are held in memory. -/
structure LooksAt (s : Session) (collection : String) (docs : List Fields) : Prop where
  current : s.browser.current? = some collection
  answering : ∃ number b, s.browser.executor = some number ∧ s.backend? number = some b ∧
    Answering b collection docs

variable {s t : Session} {collection : String} {docs : List Fields}

theorem setBackend_self {number : Nat} {b : Backend} (h : s.backend? number = some b) :
    s.setBackend number b = s := by
  have hset : s.backends.set number b = s.backends := by
    obtain ⟨hlt, rfl⟩ := List.getElem?_eq_some_iff.mp h
    exact List.set_getElem_self hlt
  unfold setBackend
  rw [hset]

/-- A request is answered by the collection, and leaves the session as it is but for the record of
the answer. -/
theorem respond_eq {number : Nat} {b : Backend} (hb : s.backend? number = some b)
    (ha : Answering b collection docs) (request : Fields) :
    ∃ yielded, s.respond ⟨number, collection, request⟩ =
      ({ s with yielded := yielded }, (Collection.answer docs request).mapError .failure) := by
  obtain ⟨store, shows, documents, hsource, -, hget, rfl⟩ := ha.holds
  have hanswer : b.respond collection request =
      (b, (Collection.answer documents.rows request).mapError .failure) := by
    rw [Backend.respond_store hsource ha.sound]
    simp only [DocumentStore.answer, DocumentStore.documents, hget, bind, Except.bind]
  unfold respond onBackend
  simp only [hb, hanswer, setBackend_self hb]
  exact ⟨_, rfl⟩

/-! ## Attributes -/

/-- A schema of a store in memory can be taken over. -/
theorem takeSchema_learned (query : SchemaQuery)
    (h : ∀ b, s.backend? query.backend = some b → b.InMemory) :
    ∃ t, s.takeSchema query = (t, .ok ()) ∧ Learned s t := by
  unfold takeSchema
  cases hs : s.schemaShown? query with
  | none => exact ⟨s, rfl, .refl s⟩
  | some schema =>
    obtain ⟨b, hb, hshown⟩ := Option.bind_eq_some_iff.mp hs
    have hschema : b.schema query.collection = .ok schema := by
      cases hr : b.schema query.collection with
      | error f =>
        rw [hr] at hshown
        cases hshown
      | ok found =>
        rw [hr] at hshown
        cases hshown
        rfl
    obtain ⟨declared, hdeclared⟩ := Discovery.ofSchema_ok ((h b hb).schema hschema)
    simp only [hdeclared]
    exact ⟨_, rfl, _, _, _, _, _, _, rfl⟩

/-- Getting to know the attributes comes to an end, and changes nothing else. -/
theorem loadSchema_learned (h : LooksAt s collection docs) (forced : Bool) :
    ∃ t, s.loadSchema forced = (t, .done ()) ∧ Learned s t := by
  obtain ⟨number, b, hexec, hb, ha⟩ := h.answering
  unfold loadSchema
  simp only [h.current, hexec]
  split
  · exact ⟨_, rfl, _, _, _, _, _, _, rfl⟩
  · split
    · exact ⟨s, rfl, .refl s⟩
    · rename_i hbackend _
      obtain rfl := Option.some.inj (hb.symm.trans hbackend)
      simp only [ha.schemaUnheld, Bool.false_eq_true, if_false]
      obtain ⟨t, ht, hlearned⟩ := takeSchema_learned (s := s)
        ⟨number, collection, s.browser.attributeKey collection⟩ fun c hc => by
          cases hb.symm.trans hc
          exact ha.inMemory
      simp only [ht, orRaise]
      exact ⟨t, rfl, hlearned⟩
  · exact ⟨s, rfl, .refl s⟩

theorem ensureAttributes_learned (h : LooksAt s collection docs) :
    ∃ t, s.ensureAttributes = (t, .done ()) ∧ Learned s t := by
  unfold ensureAttributes
  split
  · exact loadSchema_learned h false
  · exact ⟨s, rfl, .refl s⟩

end Session

end Folio
