-- What backends do, said once. A backend answers, writes and deletes in few ways. What is to hold of
-- it all the while is proved for the store that stands behind it, and for who has to wait.
import Folio.Backend.Basic

namespace Folio

/-- A store answers out of one of its collections. -/
theorem DocumentStore.answer_ok {store : DocumentStore} {name : String} {request : Fields}
    {response : Value} (h : store.answer name request = .ok response) :
    ∃ docs, store.documents name = .ok docs ∧ Collection.answer docs.rows request = .ok response := by
  unfold answer at h
  cases hdocs : store.documents name with
  | error f =>
    rw [hdocs] at h
    cases h
  | ok docs =>
    rw [hdocs] at h
    exact ⟨docs, rfl, h⟩

namespace Backend

variable {α : Type} {b : Backend} {collection : String} {request : Fields}
  {P : DocumentStore → Prop}

/-! ## Answering -/

/-- What comes of a request: a script goes on, a failure that was ordered is used up, and a store
answers and stays as it is. -/
inductive Responds (b : Backend) (collection : String) (request : Fields) :
    Backend × Except Fault Value → Prop where
  | exhausted (source : b.source = .script []) :
      Responds b collection request (b, .ok (.object []))
  | scripted {answer : Except Fault Value} {rest : List (Except Fault Value)}
      (source : b.source = .script (answer :: rest)) :
      Responds b collection request ({ b with source := .script rest }, answer)
  | fails {store : DocumentStore} {shows : Bool} {f : Fault} (source : b.source = .store store shows)
      (ordered : b.failure = some f) :
      Responds b collection request ({ b with failure := none }, .error f)
  | answers {store : DocumentStore} {shows : Bool} (source : b.source = .store store shows)
      (sound : b.failure = none) :
      Responds b collection request (b, (store.answer collection request).mapError .failure)

theorem responds (b : Backend) (collection : String) (request : Fields) :
    Responds b collection request (b.respond collection request) := by
  unfold respond
  split
  · exact .exhausted ‹_›
  · exact .scripted ‹_›
  · rename_i hsource
    split
    · exact .fails hsource ‹_›
    · exact .answers hsource ‹_›

theorem respond_store {store : DocumentStore} {shows : Bool} (hsource : b.source = .store store shows)
    (hsound : b.failure = none) (collection : String) (request : Fields) :
    b.respond collection request = (b, (store.answer collection request).mapError .failure) := by
  unfold respond
  rw [hsource]
  dsimp only
  rw [hsound]

/-! ## Writing -/

/-- What comes of a write: a store is changed, and a script cannot be. -/
inductive Stores (b : Backend) (f : DocumentStore → DocumentStore × Except Failure α) :
    Backend × Except Fault α → Prop where
  | changed {store : DocumentStore} {shows : Bool} (source : b.source = .store store shows) :
      Stores b f ({ b with source := .store (f store).1 shows }, (f store).2.mapError .failure)
  | readOnly {answers : List (Except Fault Value)} (source : b.source = .script answers)
      (failure : Failure) : Stores b f (b, .error (.failure failure))

theorem stores (b : Backend) (operation : String)
    (f : DocumentStore → DocumentStore × Except Failure α) :
    Stores b f (b.write operation f) := by
  unfold write
  split
  · exact .changed ‹_›
  · exact .readOnly ‹_› _

theorem write_store {store : DocumentStore} {shows : Bool} (hsource : b.source = .store store shows)
    (operation : String) (f : DocumentStore → DocumentStore × Except Failure α) :
    b.write operation f =
      ({ b with source := .store (f store).1 shows }, (f store).2.mapError .failure) := by
  unfold write
  rw [hsource]

/-- Deleting fails as it was ordered to, or is a write. -/
theorem delete_cases (b : Backend) (collection : String) (keys : Value) :
    (∃ f, b.delete collection keys = (b, .error f)) ∨
      b.delete collection keys = b.write "delete_documents" (·.delete collection keys) := by
  unfold delete
  split
  · exact .inl ⟨_, rfl⟩
  · exact .inr rfl

/-! ## Who has to wait -/

/-- Who has to wait. -/
def holds (b : Backend) : Bool × Bool := (b.held, b.schemaHeld)

theorem respond_holds (b : Backend) (collection : String) (request : Fields) :
    (b.respond collection request).1.holds = b.holds := by
  have hresponds := b.responds collection request
  generalize b.respond collection request = r at hresponds
  cases hresponds <;> rfl

theorem write_holds (b : Backend) (operation : String)
    (f : DocumentStore → DocumentStore × Except Failure α) :
    (b.write operation f).1.holds = b.holds := by
  have hstores := b.stores operation f
  generalize b.write operation f = r at hstores
  cases hstores <;> rfl

theorem delete_holds (b : Backend) (collection : String) (keys : Value) :
    (b.delete collection keys).1.holds = b.holds := by
  rcases b.delete_cases collection keys with ⟨f, h⟩ | h
  · rw [h]
  · rw [h]
    exact write_holds ..

/-! ## The store behind a backend -/

/-- Behind a backend stands a store of which something holds. -/
def Backed (P : DocumentStore → Prop) (b : Backend) : Prop :=
  ∃ store shows, b.source = .store store shows ∧ P store

namespace Backed

theorem of_source {c : Backend} (h : Backed P b) (hsource : c.source = b.source) : Backed P c := by
  unfold Backed
  rwa [hsource]

/-- A store answers without changing. -/
theorem respond_source (h : Backed P b) (collection : String) (request : Fields) :
    (b.respond collection request).1.source = b.source := by
  obtain ⟨store, shows, hsource, -⟩ := h
  have hresponds := b.responds collection request
  generalize b.respond collection request = r at hresponds
  cases hresponds with
  | scripted hscript =>
    rw [hsource] at hscript
    cases hscript
  | _ => rfl

theorem respond (h : Backed P b) (collection : String) (request : Fields) :
    Backed P (b.respond collection request).1 := h.of_source (h.respond_source collection request)

/-- What is answered is an answer of the store. -/
theorem answer (h : Backed P b) {response : Value}
    (ha : (b.respond collection request).2 = .ok response) :
    ∃ store shows, b.source = .store store shows ∧ P store ∧
      store.answer collection request = .ok response := by
  obtain ⟨store, shows, hsource, hstore⟩ := h
  refine ⟨store, shows, hsource, hstore, ?_⟩
  have hresponds := b.responds collection request
  generalize b.respond collection request = r at hresponds ha
  cases hresponds with
  | exhausted hscript | scripted hscript =>
    rw [hsource] at hscript
    cases hscript
  | fails => cases ha
  | answers hsame =>
    rw [hsource] at hsame
    cases hsame
    dsimp only at ha
    cases hanswer : store.answer collection request with
    | error f =>
      rw [hanswer] at ha
      cases ha
    | ok found =>
      rw [hanswer] at ha
      cases ha
      rfl

theorem write (h : Backed P b) (operation : String)
    {f : DocumentStore → DocumentStore × Except Failure α} (hf : ∀ store, P store → P (f store).1) :
    Backed P (b.write operation f).1 := by
  obtain ⟨store, shows, hsource, hstore⟩ := h
  rw [write_store hsource]
  exact ⟨_, shows, rfl, hf store hstore⟩

theorem delete (h : Backed P b) {collection : String} {keys : Value}
    (hf : ∀ store, P store → P (store.delete collection keys).1) :
    Backed P (b.delete collection keys).1 := by
  rcases b.delete_cases collection keys with ⟨f, hd⟩ | hd
  · rw [hd]
    exact h
  · rw [hd]
    exact h.write _ hf

theorem update (h : Backed P b) {collection : String} {key changes : Value}
    (hf : ∀ store changed, P store → store.update collection key changes = .ok changed → P changed) :
    Backed P (b.update collection key changes).1 := by
  refine h.write _ fun store hstore => ?_
  split
  · exact hf store _ hstore ‹_›
  · exact hstore

end Backed

end Backend

end Folio
