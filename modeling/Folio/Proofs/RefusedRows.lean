-- Rows that are refused. Rows are stored one after another up to the first that cannot be stored, and
-- those before it stay stored, in a collection that is there from then on. So storing rows that ends
-- with a refusal changes nothing just if the collection was there with those rows in it, and the
-- browser, which takes it that nothing has changed, may show what is out of date.
import Folio.Proofs.Deletions

namespace Folio

variable {rows : List Value} {f : Failure}

namespace Documents

variable {docs : Documents} {entries : List (Value × Fields)}

/-! ## The rows before the first that is refused -/

/-- The rows before the first that cannot be stored, under their keys. -/
def accepted : List Value → List (Value × Fields)
  | [] => []
  | row :: rest =>
    match newKeyOf row with
    | .ok entry => entry :: accepted rest
    | .error _ => []

/-- Why the first row that cannot be stored is refused. -/
def refusal? : List Value → Option Failure
  | [] => none
  | row :: rest =>
    match newKeyOf row with
    | .ok _ => refusal? rest
    | .error f => some f

/-- Stores documents under keys, one after another. -/
def putEach (docs : Documents) (entries : List (Value × Fields)) : Documents :=
  entries.foldl (fun docs entry => docs.put entry.1 entry.2) docs

theorem putRows_eq (docs : Documents) (rows : List Value) :
    docs.putRows rows = (docs.putEach (accepted rows), refusal? rows) := by
  induction rows generalizing docs with
  | nil => rfl
  | cons row rest ih =>
    unfold putRows accepted refusal?
    cases newKeyOf row with
    | ok entry => exact ih (docs.put entry.1 entry.2)
    | error f => rfl

/-- The rows before a refusal are all that were accepted. -/
theorem refusal?_split (h : refusal? rows = some f) : ∃ before refused later,
    rows = before ++ refused :: later ∧ before.mapM newKeyOf = .ok (accepted rows) ∧
      newKeyOf refused = .error f := by
  induction rows with
  | nil => cases h
  | cons row rest ih =>
    unfold refusal? at h
    cases hk : newKeyOf row with
    | error g =>
      rw [hk] at h
      cases h
      have hnone : accepted (row :: rest) = [] := by
        unfold accepted
        rw [hk]
      exact ⟨[], row, rest, rfl, hnone ▸ rfl, hk⟩
    | ok entry =>
      rw [hk] at h
      obtain ⟨before, refused, later, hrows, hbefore, hrefused⟩ := ih h
      have hmore : accepted (row :: rest) = entry :: accepted rest := by
        conv => lhs; unfold accepted
        rw [hk]
      refine ⟨row :: before, refused, later, by rw [hrows, List.cons_append], ?_, hrefused⟩
      rw [List.mapM_cons, hk, hbefore, hmore]
      rfl

/-! ## When putting documents changes nothing -/

/-- The document that is put under a key last. -/
def lastUnder (entries : List (Value × Fields)) (key : Value) : Option Fields :=
  (entries.reverse.find? (key.same ·.1)).map (·.2)

/-- The documents that are put under keys are there already. -/
structure Holds (docs : Documents) (entries : List (Value × Fields)) : Prop where
  keys : ∀ entry ∈ entries, docs.has entry.1 = true
  fields : ∀ d ∈ docs, ∀ fields, lastUnder entries d.key = some fields → d.fields = fields

theorem lastUnder_cons (entry : Value × Fields) (entries : List (Value × Fields)) (key : Value) :
    lastUnder (entry :: entries) key =
      (lastUnder entries key).or (if key.same entry.1 then some entry.2 else none) := by
  unfold lastUnder
  rw [List.reverse_cons, List.find?_append, Option.map_or, List.find?_singleton]
  cases key.same entry.1 <;> rfl

theorem has_put (h : docs.has key = true) (fields : Fields) (other : Value) :
    (docs.put key fields).has other = docs.has other := by
  unfold put
  rw [if_pos h]
  unfold has
  rw [List.any_map]
  refine congrArg docs.any (funext fun d => ?_)
  dsimp only [Function.comp]
  split <;> rfl

theorem length_put (docs : Documents) (key : Value) (fields : Fields) :
    (docs.put key fields).length = if docs.has key then docs.length else docs.length + 1 := by
  unfold put
  split
  · exact List.length_map _
  · exact List.length_append

theorem length_le_putEach (docs : Documents) (entries : List (Value × Fields)) :
    docs.length ≤ (docs.putEach entries).length := by
  induction entries generalizing docs with
  | nil => exact Nat.le_refl _
  | cons entry rest ih =>
    have hput := length_put docs entry.1 entry.2
    have hrest := ih (docs.put entry.1 entry.2)
    change _ ≤ ((docs.put entry.1 entry.2).putEach rest).length
    split at hput <;> omega

/-- There are as many documents as before just if all of the keys were there. -/
theorem length_putEach_iff : (docs.putEach entries).length = docs.length ↔
    ∀ entry ∈ entries, docs.has entry.1 = true := by
  induction entries generalizing docs with
  | nil => exact ⟨fun _ _ h => absurd h List.not_mem_nil, fun _ => rfl⟩
  | cons entry rest ih =>
    rw [List.forall_mem_cons]
    change ((docs.put entry.1 entry.2).putEach rest).length = _ ↔ _
    have hput := length_put docs entry.1 entry.2
    cases hhas : docs.has entry.1 with
    | false =>
      rw [hhas, if_neg Bool.false_ne_true] at hput
      have hle := length_le_putEach (docs.put entry.1 entry.2) rest
      exact ⟨fun h => by omega, fun h => by cases h.1⟩
    | true =>
      rw [hhas, if_pos rfl] at hput
      rw [← hput, ih]
      simp only [has_put hhas, true_and]

/-- Documents that are put in the places of others. -/
theorem putEach_of_has (h : ∀ entry ∈ entries, docs.has entry.1 = true) :
    docs.putEach entries =
      docs.map fun d => { d with fields := (lastUnder entries d.key).getD d.fields } := by
  induction entries generalizing docs with
  | nil => exact (List.map_id docs).symm
  | cons entry rest ih =>
    obtain ⟨hfirst, hrest⟩ := List.forall_mem_cons.mp h
    change (docs.put entry.1 entry.2).putEach rest = _
    rw [ih fun other hother => (has_put hfirst _ _).trans (hrest other hother)]
    unfold put
    rw [if_pos hfirst, List.map_map]
    refine List.map_congr_left fun d _ => ?_
    dsimp only [Function.comp]
    rw [lastUnder_cons]
    cases hsame : d.key.same entry.1 with
    | true =>
      simp only [if_true]
      cases lastUnder rest d.key <;> rfl
    | false =>
      simp only [Bool.false_eq_true, if_false]
      cases lastUnder rest d.key <;> rfl

/-- Putting documents changes nothing just if they are there already. -/
theorem putEach_eq_self_iff : docs.putEach entries = docs ↔ docs.Holds entries := by
  have hmap (hkeys : ∀ entry ∈ entries, docs.has entry.1 = true) : docs.putEach entries = docs ↔
      ∀ d ∈ docs, ∀ fields, lastUnder entries d.key = some fields → d.fields = fields := by
    rw [putEach_of_has hkeys]
    constructor
    · intro h d hd fields hlast
      have hsame := List.map_inj_left.mp (h.trans (List.map_id docs).symm) d hd
      rw [hlast] at hsame
      exact (congrArg Document.fields hsame).symm
    · intro h
      refine (List.map_congr_left fun d hd => ?_).trans (List.map_id docs)
      cases hlast : lastUnder entries d.key with
      | none => rfl
      | some fields => rw [← h d hd fields hlast]; rfl
  constructor
  · intro h
    have hkeys := length_putEach_iff.mp (congrArg List.length h)
    exact ⟨hkeys, (hmap hkeys).mp h⟩
  · exact fun h => (hmap h.keys).mpr h.fields

end Documents

/-! ## Stores -/

namespace DocumentStore

variable {store : DocumentStore} {name : String} {given : Value}

/-- The rows of a list before the first that cannot be stored, under their keys. -/
def accepted (given : Value) : List (Value × Fields) :=
  match Collection.elements given with
  | .ok rows => Documents.accepted rows
  | .error _ => []

/-- Why rows are not stored: they are no list, or one of them cannot be stored after all before it
have been. -/
inductive Refuses (given : Value) (f : Failure) : Prop where
  | list (elements : Collection.elements given = .error f)
  | row {before later : List Value} {refused : Value}
    (elements : Collection.elements given = .ok (before ++ refused :: later))
    (accepts : before.mapM Documents.newKeyOf = .ok (accepted given))
    (refuses : Documents.newKeyOf refused = .error f)

theorem refuses_of_upsert (h : (store.upsert name given).2 = .error f) : Refuses given f := by
  unfold upsert at h
  dsimp only at h
  split at h
  · rename_i rows hrows
    rw [Documents.putRows_eq] at h
    cases hr : Documents.refusal? rows with
    | none =>
      rw [hr] at h
      cases h
    | some g =>
      rw [hr] at h
      cases h
      obtain ⟨before, refused, later, hsplit, hbefore, hrefused⟩ := Documents.refusal?_split hr
      have haccepted : accepted given = Documents.accepted rows := by
        unfold accepted
        rw [hrows]
      exact .row (hsplit ▸ hrows) (haccepted ▸ hbefore) hrefused
  · rename_i g hrows
    cases h
    exact .list hrows

/-- Whether or not a row is refused, the rows before it are stored. -/
theorem upsert_store (store : DocumentStore) (name : String) (given : Value) :
    (store.upsert name given).1 =
      store.put name (((store.get? name).getD []).putEach (accepted given)) := by
  unfold upsert accepted
  dsimp only
  cases Collection.elements given with
  | error f => rfl
  | ok rows =>
    dsimp only
    rw [Documents.putRows_eq]
    cases Documents.refusal? rows <;> rfl

theorem get?_put_iff {docs : Documents} :
    (∀ other, (store.put name docs).get? other = store.get? other) ↔ store.get? name = some docs := by
  constructor
  · exact fun h => (h name).symm.trans (Named.get?_put_self _ _ _)
  · intro h other
    by_cases hother : other = name
    · rw [hother, h]
      exact Named.get?_put_self _ _ _
    · exact Named.get?_put_of_ne _ _ hother

/-- What has become of a store when rows were refused. -/
structure Refused (before after : DocumentStore) (name : String) (given : Value) : Prop where
  /-- The rows before the one that is refused are stored, in a new collection if there was none. -/
  stored : after.get? name = some (((before.get? name).getD []).putEach (accepted given))
  others : ∀ other, other ≠ name → after.get? other = before.get? other
  schemas : after.schemas = before.schemas
  /-- Nothing has changed just if the collection was there and had these rows in it. -/
  unchanged_iff : (∀ other, after.get? other = before.get? other) ↔
    ∃ docs, before.get? name = some docs ∧ docs.Holds (accepted given)
  /-- Then every request is answered as it was. -/
  answers : (∀ other, after.get? other = before.get? other) →
    ∀ other request, after.answer other request = before.answer other request
  /-- There are as many documents as before just if all of these rows had taken the place of one. -/
  number_iff : after.number name = before.number name ↔
    ∀ entry ∈ accepted given, Documents.has ((before.get? name).getD []) entry.1 = true

theorem refused_upsert (store : DocumentStore) (name : String) (given : Value) :
    Refused store (store.upsert name given).1 name given := by
  rw [upsert_store]
  refine ⟨Named.get?_put_self _ _ _, fun other hother => Named.get?_put_of_ne _ _ hother, rfl, ?_,
    fun h other request => ?_, ?_⟩
  · rw [get?_put_iff]
    constructor
    · intro h
      have hsame : (store.get? name).getD [] =
          ((store.get? name).getD []).putEach (accepted given) := congrArg (·.getD []) h
      rw [← hsame] at h
      exact ⟨_, h, Documents.putEach_eq_self_iff.mp hsame.symm⟩
    · rintro ⟨docs, hdocs, hholds⟩
      rw [hdocs, Option.getD_some, Documents.putEach_eq_self_iff.mpr hholds]
  · unfold answer documents
    rw [h other]
  · rw [number_put_self]
    exact Documents.length_putEach_iff

end DocumentStore

/-! ## The browser -/

namespace Session

variable {s t : Session} {store : DocumentStore} {name : String} {given : Value}

/-- What the browser writes goes to a collection of a store. -/
def WritesTo (s : Session) (store : DocumentStore) (name : String) : Prop :=
  ∃ backend b shows, s.browser.executor = some backend ∧ s.browser.current? = some name ∧
    s.backend? backend = some b ∧ b.source = .store store shows

/-- A refusal is shown, but nothing that was known or kept is forgotten. -/
theorem upsert_refused (h : (store.upsert name given).2 = .error f) (hs : s.WritesTo store name) :
    ∃ t, s.upsert given = (t, .raised (.browser (classify (.failure f)))) ∧
      s.browser.Unchanged t.browser ∧ t.WritesTo (store.upsert name given).1 name := by
  obtain ⟨backend, b, shows, hexecutor, hcurrent, hb, hsource⟩ := hs
  have hwritten : b.upsert name given =
      ({ b with source := .store (store.upsert name given).1 shows }, .error (.failure f)) := by
    unfold Backend.upsert
    rw [Backend.write_store hsource, h]
    rfl
  refine ⟨(s.setBackend backend (b.upsert name given).1).trouble (.browser (classify (.failure f))),
    ?_, Browser.fail_unchanged _ _, backend, (b.upsert name given).1, shows, hexecutor, hcurrent, ?_, ?_⟩
  · unfold upsert write onBackend
    rw [hexecutor, hcurrent]
    dsimp only
    rw [hb]
    dsimp only
    rw [hwritten]
  · exact List.getElem?_set_self (List.getElem?_eq_some_iff.mp hb).1
  · rw [hwritten]

/-- Rows that are stored up to one that is refused have changed nothing just if they were there
before, in a collection that was there. The browser goes by what it knew, so its number of all
documents stays right just if none of these rows is new. -/
theorem refused_rows_change_nothing_iff (h : (store.upsert name given).2 = .error f) :
    DocumentStore.Refuses given f ∧
      DocumentStore.Refused store (store.upsert name given).1 name given ∧
      ∀ s : Session, s.WritesTo store name → ∃ t,
        s.upsert given = (t, .raised (.browser (classify (.failure f)))) ∧
        s.browser.Unchanged t.browser ∧ t.WritesTo (store.upsert name given).1 name ∧
        (s.browser.unfiltered = some (store.number name : Int) →
          (t.browser.unfiltered = some ((store.upsert name given).1.number name : Int) ↔
            ∀ entry ∈ DocumentStore.accepted given,
              Documents.has ((store.get? name).getD []) entry.1 = true)) := by
  have hrefused := store.refused_upsert name given
  refine ⟨DocumentStore.refuses_of_upsert h, hrefused, fun s hs => ?_⟩
  obtain ⟨t, hraised, hsame, ht⟩ := upsert_refused h hs
  refine ⟨t, hraised, hsame, ht, fun hknown => ?_⟩
  have hkept : t.browser.unfiltered = some (store.number name : Int) :=
    (congrArg Outlook.unfiltered hsame.outlook).trans hknown
  rw [hkept, ← hrefused.number_iff, Option.some.injEq, Int.natCast_inj, eq_comm]

/-! ## A row without a key behind another one -/

/-- A store of one document. -/
def onlyFirst : DocumentStore := ⟨[("docs", [⟨.int 1, [("id", .int 1)]⟩])], []⟩

/-- A document, and behind it one without a key. -/
def thenKeyless (doc : Fields) : Value := .list [.object doc, .object [("title", .text "a")]]

/-- Nothing changes if the document is stored already. -/
theorem stored_row_changes_nothing :
    (onlyFirst.upsert "docs" (thenKeyless [("id", .int 1)])).2 = .error .documentWithoutKey ∧
      ∀ other, (onlyFirst.upsert "docs" (thenKeyless [("id", .int 1)])).1.get? other =
        onlyFirst.get? other := by
  have hrefused : (onlyFirst.upsert "docs" (thenKeyless [("id", .int 1)])).2 =
      .error .documentWithoutKey := rfl
  have haccepted : DocumentStore.accepted (thenKeyless [("id", .int 1)]) =
      [(.int 1, [("id", .int 1)])] := rfl
  refine ⟨hrefused, ?_⟩
  refine (refused_rows_change_nothing_iff hrefused).2.1.unchanged_iff.mpr ⟨_, rfl, ?_⟩
  rw [haccepted]
  exact Documents.putEach_eq_self_iff.mp rfl

/-- A document that is not stored yet is stored, although all of the rows are refused. -/
theorem new_row_stays_stored :
    (onlyFirst.upsert "docs" (thenKeyless [("id", .int 2)])).2 = .error .documentWithoutKey ∧
      ¬∀ other, (onlyFirst.upsert "docs" (thenKeyless [("id", .int 2)])).1.get? other =
        onlyFirst.get? other := by
  refine ⟨rfl, fun h => ?_⟩
  have hlength : some 2 = some 1 := congrArg (Option.map List.length) (h "docs")
  cases hlength

/-- Rows that are refused bring a collection into being. -/
example : (onlyFirst.upsert "other" (.list [.object []])).1.get? "other" = some [] := rfl

end Session

end Folio
