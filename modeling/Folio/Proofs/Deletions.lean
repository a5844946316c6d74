-- What deleting documents makes of the numbers that are known. The number of all documents goes down
-- by the documents that are gone, but the number of those that match goes down by the rows that are
-- taken off the page only: each matching document that is deleted from another page stays counted.
import Folio.Proofs.ExactActions

namespace Folio

variable {docs : Documents} {matching : List Fields}

/-! ## The documents that are left -/

namespace Documents

/-- Each document stands under the id that it carries. -/
def UnderIds (docs : Documents) : Prop := ∀ d ∈ docs, d.fields.get "id" = d.key

/-- Of the documents that match those are left that are not deleted. -/
theorem select_without {filter : Value}
    (h : Collection.select filter docs.rows = .ok matching) (keys : List Value) :
    ∃ matched : Documents, matched.Sublist docs ∧ matched.rows = matching ∧
      Collection.select filter (docs.without keys).rows = .ok (matched.without keys).rows := by
  have hanswers := List.forall_mem_map.mp (Collection.passes_of_select h)
  have hleft : Collection.select filter (docs.without keys).rows =
      .ok ((docs.without keys).rows.filter (Collection.admits filter)) :=
    Collection.select_eq_filter <| List.forall_mem_map.mpr fun d hd =>
      hanswers d (List.mem_of_mem_filter hd)
  refine ⟨docs.filter (Collection.admits filter ·.fields), List.filter_sublist, ?_, ?_⟩
  · rw [Collection.eq_filter_of_select h]
    unfold rows
    rw [List.filter_map]
    rfl
  · rw [hleft]
    unfold rows without
    rw [List.filter_map, List.filter_filter, List.filter_filter]
    refine congrArg (fun docs : Documents => Except.ok (docs.map (·.fields))) ?_
    exact List.filter_congr fun d _ => Bool.and_comm _ _

end Documents

/-- A store that is told to delete is left without the documents, and tells how many there were. -/
theorem Backend.delete_eq {b : Backend} {store : DocumentStore} {shows : Bool} {name : String}
    {given : Value} {keys : List Value} {n : Nat}
    (hdocs : docs.Pairwise fun a b => a.key.same b.key = false) (hsource : b.source = .store store shows)
    (hfound : store.get? name = some docs) (hgiven : Collection.elements given = .ok keys)
    (hkeys : ∀ key ∈ keys, key.isKey = true) (h : (b.delete name given).2 = .ok n) :
    (b.delete name given).1.source = .store (store.put name (docs.without keys)) shows ∧
      n + (docs.without keys).length = docs.length := by
  obtain ⟨m, hremoved, hlength⟩ := Documents.removeAll_eq hdocs 0 hkeys
  have hstore : store.delete name given = (store.put name (docs.without keys), .ok m) := by
    unfold DocumentStore.delete DocumentStore.documents
    rw [hfound, hgiven]
    dsimp only
    rw [hremoved]
  rcases b.delete_cases name given with ⟨f, hd⟩ | hd
  · rw [hd] at h
    cases h
  · rw [hd, Backend.write_store hsource, hstore] at h ⊢
    cases h
    exact ⟨rfl, by omega⟩

namespace Session

variable {s t : Session} {given : Value} {keys : List Value}

/-- The documents that the browser looks at: those of its collection in the store behind its
backend. -/
def stored? (s : Session) : Option Documents :=
  match s.browser.executor.bind s.backend?, s.browser.current? with
  | some b, some collection => match b.source with
    | .store store _ => store.get? collection
    | .script _ => none
  | _, _ => none

/-! ## A deletion that succeeds -/

/-- What has been written when a write is over. -/
theorem write_done {α : Type} {f : Backend → String → Backend × Except Fault α}
    {next : Session → α → Session × Outcome Pause Reply} {reply : Reply}
    (h : s.write f next = (t, .done reply)) :
    ∃ backend collection b a, s.browser.executor = some backend ∧
      s.browser.current? = some collection ∧ s.backend? backend = some b ∧
      (f b collection).2 = .ok a ∧
      next (s.afterWrite backend (f b collection).1) a = (t, .done reply) := by
  unfold write at h
  split at h
  · rename_i backend collection hexecutor hcurrent
    unfold onBackend at h
    cases hb : s.backend? backend with
    | none =>
      rw [hb] at h
      cases h
    | some b =>
      rw [hb] at h
      dsimp only at h
      cases hr : (f b collection).2 with
      | ok a =>
        rw [hr] at h
        exact ⟨backend, collection, b, a, hexecutor, hcurrent, hb, hr, h⟩
      | error fault =>
        rw [hr] at h
        cases fault <;> cases h
  · cases h

theorem orRaise_done {α : Type} {result : Except Fault α}
    {next : α → Session × Outcome Pause Reply} {reply : Reply}
    (h : s.orRaise result next = (t, .done reply)) :
    ∃ a, result = .ok a ∧ next a = (t, .done reply) := by
  cases result with
  | ok a => exact ⟨a, rfl, h⟩
  | error f => cases h

/-- The rows that are kept are those with other ids. -/
theorem rowsWithout_eq {rows kept : List Fields} (h : rowsWithout keys rows = .ok kept) :
    kept = rows.filter (fun row => !(row.get "id").occursIn keys) := by
  induction rows generalizing kept with
  | nil =>
    cases h
    rfl
  | cons row rest ih =>
    unfold rowsWithout at h
    dsimp only at h
    cases hc : checkKeys [row.get "id"] with
    | error f =>
      rw [hc] at h
      cases h
    | ok _ =>
      cases hr : rowsWithout keys rest with
      | error f =>
        rw [hc, hr] at h
        cases h
      | ok others =>
        rw [hc, hr] at h
        cases h
        rw [List.filter_cons, ih hr]
        cases (row.get "id").occursIn keys <;> rfl

/-- What is told about documents, `matching` of which matched, when those with some keys have been
deleted and `still` match. -/
structure Deleted (s t : Session) (docs : Documents) (matching : List Fields) (n : Nat)
    (keys : List Value) (still : List Fields) : Prop where
  stored : t.stored? = some (docs.without keys)
  /-- So many documents are gone. -/
  number : n + (docs.without keys).length = docs.length
  passing : Collection.select (Query.compileFilters t.browser.config) (docs.without keys).rows =
    .ok still
  browsing : s.browser.config.browsesAll = true → still = (docs.without keys).rows
  rows : t.browser.view.rows =
    s.browser.view.rows.filter (fun row => !(row.get "id").occursIn keys)
  /-- The number of all documents goes down by the documents that are gone. -/
  unfiltered : s.browser.unfiltered = some (docs.length : Int) →
    t.browser.unfiltered = some ((docs.without keys).length : Int)
  /-- The number of matching documents goes down by the rows that are taken away. -/
  total : t.browser.view.total = some (max 0 ((matching.length : Int) -
    s.browser.view.rows.countP (fun row => (row.get "id").occursIn keys)))
  /-- If the rows are those of matching documents and the others that match are hidden on other
  pages, the hidden documents that are deleted stay counted. So the number is right just when there
  is none of them. -/
  hidden : ∀ hidden : List Value, docs.UnderIds →
    (s.browser.view.rows.map (·.get "id") ++ hidden).Perm (matching.map (·.get "id")) →
    t.browser.view.total = some ((still.length + hidden.countP (·.occursIn keys) : Nat) : Int) ∧
      (t.browser.view.total = some (still.length : Int) ↔
        ∀ id ∈ hidden, id.occursIn keys = false)

theorem delete_done {reply : Reply} (h : s.delete given = (t, .done reply)) :
    ∃ keys backend collection b, ∃ n : Nat, reply = .number n ∧
      Collection.elements given = .ok keys ∧
      (∀ key ∈ keys, key.isKey = true) ∧ s.browser.executor = some backend ∧
      s.browser.current? = some collection ∧ s.backend? backend = some b ∧
      (b.delete collection given).2 = .ok n ∧
      t = (s.afterWrite backend (b.delete collection given).1).lessen
        (s.browser.view.rows.filter (fun row => !(row.get "id").occursIn keys)) n := by
  obtain ⟨keys, hkeys, h⟩ := orRaise_done h
  obtain ⟨_, hchecked, h⟩ := orRaise_done h
  obtain ⟨backend, collection, b, a, hexecutor, hcurrent, hb, hdeleted, h⟩ := write_done h
  obtain ⟨kept, hkept, h⟩ := orRaise_done h
  have helements : Collection.elements given = .ok keys := by
    cases he : Collection.elements given with
    | ok found =>
      rw [he] at hkeys
      cases hkeys
      rfl
    | error f =>
      rw [he] at hkeys
      cases hkeys
  have hrows := rowsWithout_eq hkept
  cases h
  refine ⟨keys, backend, collection, b, a, rfl, helements, checkKeys_ok hchecked, hexecutor,
    hcurrent, hb, hdeleted, ?_⟩
  rw [hrows]
  rfl

theorem stored_cases {docs : Documents} (h : s.stored? = some docs) :
    ∃ backend collection b store shows, s.browser.executor = some backend ∧
      s.browser.current? = some collection ∧ s.backend? backend = some b ∧
      b.source = .store store shows ∧ store.get? collection = some docs := by
  unfold stored? at h
  split at h
  · rename_i b collection hb hcurrent
    obtain ⟨backend, hexecutor, hbackend⟩ := Option.bind_eq_some_iff.mp hb
    split at h
    · rename_i store shows hsource
      exact ⟨backend, collection, b, store, shows, hexecutor, hcurrent, hbackend, hsource, h⟩
    · cases h
  · cases h

theorem stored_afterWrite {backend : Nat} {collection : String} {b c : Backend}
    {store : DocumentStore} {shows : Bool} (hexecutor : s.browser.executor = some backend)
    (hcurrent : s.browser.current? = some collection) (hb : s.backend? backend = some b)
    (hsource : c.source = .store (store.put collection docs) shows) :
    (s.afterWrite backend c).stored? = some docs := by
  have hlt := (List.getElem?_eq_some_iff.mp hb).1
  have hc : (s.afterWrite backend c).backend? backend = some c := List.getElem?_set_self hlt
  have hthere : (s.afterWrite backend c).browser.executor.bind (s.afterWrite backend c).backend? =
      some c := by
    have hsame : (s.afterWrite backend c).browser.executor = some backend := hexecutor
    rw [hsame]
    exact hc
  have hplace : (s.afterWrite backend c).browser.current? = some collection := hcurrent
  unfold stored?
  rw [hthere, hplace]
  dsimp only
  rw [hsource]
  exact Named.get?_put_self ..

/-- The rows that are taken away, and the deleted documents that were not among the rows, are the
matching documents that are deleted. -/
theorem countP_deleted (keys : List Value) {matched : Documents} {rows : List Fields} {hidden : List Value}
    (hids : ∀ d ∈ matched, d.fields.get "id" = d.key)
    (hpage : (rows.map (·.get "id") ++ hidden).Perm (matched.rows.map (·.get "id"))) :
    rows.countP (fun row => (row.get "id").occursIn keys) + hidden.countP (·.occursIn keys) +
      (matched.without keys).rows.length = matched.rows.length := by
  have hkeys : matched.rows.map (·.get "id") = matched.map (·.key) := by
    unfold Documents.rows
    rw [List.map_map]
    exact List.map_congr_left hids
  have hdeleted := hpage.countP_eq (·.occursIn keys)
  rw [hkeys, List.countP_append, List.countP_map, List.countP_map] at hdeleted
  have hparts := List.length_eq_length_filter_add (l := matched) (·.key.occursIn keys)
  rw [← List.countP_eq_length_filter] at hparts
  have hleft : (matched.without keys).rows.length =
      (matched.filter (!·.key.occursIn keys)).length := List.length_map _
  have hall : matched.rows.length = matched.length := List.length_map _
  rw [hleft, hall, hparts]
  exact congrArg (· + _) hdeleted

/-! ## The law -/

/-- Where the number of matching documents is known, a deletion that succeeds leaves no row with one
of the keys, and takes off that number what it takes off the page. -/
theorem deletion_counts_rows_taken_away {docs : Documents} {n : Nat}
    (hdocs : docs.Pairwise fun a b => a.key.same b.key = false) (hstored : s.stored? = some docs)
    (hpassing : Collection.select (Query.compileFilters s.browser.config) docs.rows = .ok matching)
    (htotal : s.browser.view.total = some (matching.length : Int))
    (hdelete : s.delete given = (t, .done (.number n))) :
    ∃ keys still, Collection.elements given = .ok keys ∧
      Deleted s t docs matching n keys still := by
  obtain ⟨keys, backend, collection, b, m, hreply, hgiven, hkeys, hexecutor, hcurrent, hb, hdeleted,
    rfl⟩ := delete_done hdelete
  cases hreply
  obtain ⟨other, place, c, store, shows, hother, hplace, hc, hsource, hfound⟩ :=
    stored_cases hstored
  cases Option.some.inj (hother.symm.trans hexecutor)
  cases Option.some.inj (hplace.symm.trans hcurrent)
  cases Option.some.inj (hc.symm.trans hb)
  obtain ⟨hleft, hnumber⟩ := Backend.delete_eq hdocs hsource hfound hgiven hkeys hdeleted
  obtain ⟨matched, hsub, hrows, hstill⟩ := docs.select_without hpassing keys
  have htaken : s.browser.view.rows.length = s.browser.view.rows.countP
      (fun row => (row.get "id").occursIn keys) +
        (s.browser.view.rows.filter (fun row => !(row.get "id").occursIn keys)).length := by
    rw [List.countP_eq_length_filter]
    exact List.length_eq_length_filter_add _
  have htold : ((s.afterWrite backend (b.delete collection given).1).lessen
      (s.browser.view.rows.filter (fun row => !(row.get "id").occursIn keys)) n).browser.view.total =
      some (max 0 ((matching.length : Int) -
        s.browser.view.rows.countP (fun row => (row.get "id").occursIn keys))) := by
    change s.browser.view.total.map (fun total : Int => max 0 (total -
      ((s.browser.view.rows.length : Int) -
        (s.browser.view.rows.filter (fun row => !(row.get "id").occursIn keys)).length))) = _
    rw [htotal, Option.map_some]
    congr 2
    omega
  refine ⟨keys, (matched.without keys).rows, hgiven, ?_⟩
  refine ⟨stored_afterWrite hexecutor hcurrent hb hleft, hnumber, hstill, ?_, rfl, ?_, htold, ?_⟩
  · intro hall
    rw [Collection.compileFilters_browsesAll hall, Collection.select_null] at hstill
    exact (Except.ok.inj hstill).symm
  · intro hknown
    change s.browser.unfiltered.map _ = _
    rw [hknown, Option.map_some]
    congr 1
    omega
  · intro hidden hids hpage
    subst hrows
    have hsame : ∀ d ∈ matched, d.fields.get "id" = d.key := fun d hd => hids d (hsub.subset hd)
    have hcounted := countP_deleted keys hsame hpage
    have hstays : max 0 ((matched.rows.length : Int) -
        s.browser.view.rows.countP (fun row => (row.get "id").occursIn keys)) =
        (((matched.without keys).rows.length + hidden.countP (·.occursIn keys) : Nat) : Int) := by
      omega
    rw [htold, hstays]
    refine ⟨rfl, ?_⟩
    rw [Option.some.injEq, Int.natCast_inj, Nat.add_eq_left, List.countP_eq_zero]
    simp only [Bool.not_eq_true]

/-! ## One document on a page -/

/-- A browser that shows one document on a page, of a store with two. -/
def oneOfTwo : Session :=
  .start (.start { Settings.default with pageSize := 1 } (some "main") (some "docs") (some 0) none)
    [.ofSource (.store ⟨[("docs", [⟨.int 1, [("id", .int 1)]⟩, ⟨.int 2, [("id", .int 2)]⟩])], []⟩
      false)] none

/-- The first page has been loaded. -/
def firstOfTwo : Session := oneOfTwo.after [.ask 1 (.load .null false)]

/-- How many of the documents match. -/
def matchingNumber? (s : Session) : Option Nat :=
  s.stored?.bind fun docs =>
    (Collection.select (Query.compileFilters s.browser.config) docs.rows).toOption.map List.length

/-- When the document on the other page is deleted, it stays counted among those that match. -/
theorem hidden_deletion_stays_counted :
    let s := firstOfTwo
    let t := (s.delete (.list [.int 2])).1
    s.browser.state = .success ∧ s.browser.config.aggregates = false ∧
      s.browser.view.total = s.matchingNumber?.map Nat.cast ∧
      (∃ n, (s.delete (.list [.int 2])).2 = .done (.number n)) ∧
      t.matchingNumber? = some 1 ∧ t.browser.unfiltered = some 1 ∧
      t.browser.view.total = some 2 := by
  refine ⟨?_, ?_, ?_, ⟨1, rfl⟩, ?_, ?_, ?_⟩ <;> decide +kernel

/-- When the document on the page is deleted, the number is right. -/
theorem shown_deletion_is_counted :
    let s := firstOfTwo
    let t := (s.delete (.list [.int 1])).1
    ∃ keys still, Collection.elements (.list [.int 1]) = .ok keys ∧
      Deleted s t [⟨.int 1, [("id", .int 1)]⟩, ⟨.int 2, [("id", .int 2)]⟩]
        [[("id", .int 1)], [("id", .int 2)]] 1 keys still ∧
      t.browser.view.total = some (still.length : Int) := by
  obtain ⟨keys, still, hgiven, hdeleted⟩ :
      ∃ keys still, Collection.elements (.list [.int 1]) = .ok keys ∧
        Deleted firstOfTwo (firstOfTwo.delete (.list [.int 1])).1
          [⟨.int 1, [("id", .int 1)]⟩, ⟨.int 2, [("id", .int 2)]⟩]
          [[("id", .int 1)], [("id", .int 2)]] 1 keys still :=
    deletion_counts_rows_taken_away (by decide) rfl rfl (by decide +kernel) rfl
  refine ⟨keys, still, hgiven, hdeleted, ?_⟩
  cases hgiven
  refine (hdeleted.hidden [.int 2] ?_ ?_).2.mpr (by decide)
  · intro d hd
    simp only [List.mem_cons, List.not_mem_nil, or_false] at hd
    rcases hd with rfl | rfl <;> rfl
  · exact .refl _

end Session

end Folio
