-- Counting in groups. Documents are put into groups by the texts of their values, each document into
-- the one group of its texts, and the groups come in the order in which their texts first came. So
-- what is counted group by group adds up to what is counted over all documents.
import Folio.Proofs.Answers
import Mathlib.Algebra.GroupWithZero.Nat
import Mathlib.Data.List.Induction
import Mathlib.Data.List.Nodup

namespace Folio.Collection

/-! ## One group for each key -/

section

variable (key : Fields → List String) (docs : List Fields)

/-- The documents with a key. -/
def groupAt (k : List String) : Group := ⟨k, docs.filter (key · == k)⟩

/-- The documents group by group, in the order in which the keys first come. -/
def groupsOf : List Group := (docs.map key).eraseDups.map (groupAt key docs)

variable {key docs}

theorem groupAt_append_self (doc : Fields) :
    groupAt key (docs ++ [doc]) (key doc) =
      ⟨key doc, (groupAt key docs (key doc)).members ++ [doc]⟩ := by
  simp [groupAt]

theorem groupAt_append_of_ne {k : List String} {doc : Fields} (h : k ≠ key doc) :
    groupAt key (docs ++ [doc]) k = groupAt key docs k := by
  simp [groupAt, Ne.symm h]

/-- A document goes into the group of its key, and behind all others if there is none. -/
theorem addToGroup_groupAt (doc : Fields) {ks : List (List String)} (hnodup : ks.Nodup) :
    addToGroup (key doc) doc (ks.map (groupAt key docs)) =
      if key doc ∈ ks then ks.map (groupAt key (docs ++ [doc]))
      else ks.map (groupAt key (docs ++ [doc])) ++ [⟨key doc, [doc]⟩] := by
  induction ks with
  | nil => simp [addToGroup]
  | cons k rest ih =>
    obtain ⟨hnot, hrest⟩ := List.nodup_cons.mp hnodup
    rw [List.map_cons, addToGroup]
    by_cases hk : k = key doc
    · subst hk
      have hsame : rest.map (groupAt key docs) = rest.map (groupAt key (docs ++ [doc])) := by
        apply List.map_congr_left
        intro other hin
        have hother : other ≠ key doc := fun h => hnot (h ▸ hin)
        exact (groupAt_append_of_ne hother).symm
      simp [groupAt_append_self, hsame]
      simp [groupAt]
    · have hother : (groupAt key docs k).key ≠ key doc := hk
      rw [ih hrest, List.map_cons, groupAt_append_of_ne hk]
      by_cases hin : key doc ∈ rest <;> simp [hother, hin, Ne.symm hk]

/-- What comes once more changes nothing, and what is new comes last. -/
theorem eraseDups_concat {α : Type} [BEq α] [LawfulBEq α] (all : List α) (a : α) :
    (all ++ [a]).eraseDups = if a ∈ all then all.eraseDups else all.eraseDups ++ [a] := by
  rw [List.eraseDups_append]
  by_cases h : a ∈ all <;> simp [List.removeAll, h, List.eraseDups_cons]

theorem nodup_eraseDups {α : Type} [BEq α] [LawfulBEq α] (all : List α) : all.eraseDups.Nodup := by
  induction all using List.reverseRecOn with
  | nil => simp
  | append_singleton all a ih =>
    rw [eraseDups_concat]
    by_cases h : a ∈ all
    · simpa [h] using ih
    · simp only [h, if_false, List.nodup_append, ih, List.mem_eraseDups]
      refine ⟨trivial, by simp, ?_⟩
      intro b hb c hc hbc
      rw [List.mem_singleton.mp hc] at hbc
      exact h (hbc ▸ hb)

/-- One more document leaves one group for each key. -/
theorem addToGroup_groupsOf (doc : Fields) :
    addToGroup (key doc) doc (groupsOf key docs) = groupsOf key (docs ++ [doc]) := by
  unfold groupsOf
  rw [addToGroup_groupAt doc (nodup_eraseDups _), List.map_append, List.map_singleton,
    eraseDups_concat]
  by_cases h : key doc ∈ docs.map key
  · rw [if_pos (List.mem_eraseDups.mpr h), if_pos h]
  · have hnone : docs.filter (key · == key doc) = [] := by
      apply List.filter_eq_nil_iff.mpr
      intro d hd hkey
      exact h (eq_of_beq hkey ▸ List.mem_map_of_mem hd)
    rw [if_neg fun hin => h (List.mem_eraseDups.mp hin), if_neg h, List.map_append]
    simp [groupAt, hnone]

/-! ## Nothing is lost in groups -/

theorem keys_groupsOf : (groupsOf key docs).map (·.key) = (docs.map key).eraseDups := by
  unfold groupsOf
  rw [List.map_map]
  exact List.map_id _

theorem members_of_mem {g : Group} (hg : g ∈ groupsOf key docs) :
    g.members = docs.filter (key · == g.key) := by
  obtain ⟨k, -, rfl⟩ := List.mem_map.mp hg
  rfl

theorem members_ne_nil {g : Group} (hg : g ∈ groupsOf key docs) : g.members ≠ [] := by
  obtain ⟨k, hk, rfl⟩ := List.mem_map.mp hg
  obtain ⟨d, hd, rfl⟩ := List.mem_map.mp (List.mem_eraseDups.mp hk)
  exact List.ne_nil_of_mem (List.mem_filter.mpr ⟨hd, beq_self_eq_true _⟩)

/-- The groups of some keys hold the documents with these keys. -/
theorem flatMap_groupAt_perm {ks : List (List String)} (hnodup : ks.Nodup) :
    (ks.flatMap fun k => (groupAt key docs k).members).Perm (docs.filter fun d => ks.contains (key d)) := by
  induction ks with
  | nil => simp
  | cons k rest ih =>
    obtain ⟨hnot, hrest⟩ := List.nodup_cons.mp hnodup
    have hsplit := List.filter_append_perm (key · == k)
      (docs.filter fun d => (k :: rest).contains (key d))
    have hfirst : (docs.filter fun d => (k :: rest).contains (key d)).filter (key · == k) =
        (groupAt key docs k).members := by
      rw [List.filter_filter]
      apply List.filter_congr
      intro d _
      by_cases hk : key d = k <;> simp [hk]
    have hothers : (docs.filter fun d => (k :: rest).contains (key d)).filter (fun d => !key d == k) =
        docs.filter fun d => rest.contains (key d) := by
      rw [List.filter_filter]
      apply List.filter_congr
      intro d _
      by_cases hk : key d = k <;> simp [hk, hnot]
    rw [hfirst, hothers] at hsplit
    rw [List.flatMap_cons]
    exact ((ih hrest).append_left _).trans hsplit

/-- Every document is in one group, as often as it was there. -/
theorem flatMap_groupsOf_perm : ((groupsOf key docs).flatMap (·.members)).Perm docs := by
  have hall : (docs.filter fun d => ((docs.map key).eraseDups).contains (key d)) = docs := by
    apply List.filter_eq_self.mpr
    intro d hd
    exact List.contains_iff_mem.mpr (List.mem_eraseDups.mpr (List.mem_map_of_mem hd))
  have hperm : ((docs.map key).eraseDups.flatMap fun k => (groupAt key docs k).members).Perm
      (docs.filter fun d => (docs.map key).eraseDups.contains (key d)) :=
    flatMap_groupAt_perm (nodup_eraseDups (docs.map key))
  rw [hall] at hperm
  unfold groupsOf
  rwa [List.flatMap_map]

/-- What is counted group by group adds up to what is counted over all. -/
theorem sum_countP_groupsOf (p : Fields → Bool) :
    ((groupsOf key docs).map (·.members.countP p)).sum = docs.countP p := by
  rw [← flatMap_groupsOf_perm.countP_eq p, List.countP_flatMap]
  rfl

end

/-! ## What is asked for -/

/-- The texts of the values under some attributes, by which documents are grouped. -/
def groupKey (attrs : List String) (doc : Fields) : List String :=
  attrs.map fun attr => (doc.get attr).quoted

section

variable {docs : List Fields} {attrs : List String}

theorem valuesOf_texts (doc : Fields) (attrs : List String) :
    valuesOf doc (attrs.map .text) = .ok (attrs.map doc.get) := by
  induction attrs with
  | nil => rfl
  | cons attr rest ih => simp [valuesOf, attributeOf, ih, bind, Except.bind, pure, Except.pure]

theorem groupBy_texts (done rest : List Fields) :
    groupBy (attrs.map .text) (groupsOf (groupKey attrs) done) rest =
      .ok (groupsOf (groupKey attrs) (done ++ rest)) := by
  induction rest generalizing done with
  | nil => rw [List.append_nil]; rfl
  | cons doc rest ih =>
    have hkey : (attrs.map doc.get).map Value.quoted = groupKey attrs doc := List.map_map
    rw [groupBy, valuesOf_texts]
    simp only [bind, Except.bind]
    rw [hkey, addToGroup_groupsOf, ih, List.append_assoc]
    rfl

/-- The same texts, each once. -/
theorem withoutRepeats_texts (attrs : List String) : ∃ distinct : List String,
    withoutRepeats (attrs.map .text) = distinct.map .text ∧ ∀ attr, attr ∈ distinct ↔ attr ∈ attrs := by
  induction attrs with
  | nil => exact ⟨[], rfl, fun _ => Iff.rfl⟩
  | cons attr rest ih =>
    obtain ⟨distinct, heq, hmem⟩ := ih
    refine ⟨attr :: distinct.filter (attr != ·), ?_, ?_⟩
    · have hsame : ((fun v => !(Value.text attr).same v) ∘ Value.text) = (attr != ·) := rfl
      rw [List.map_cons, withoutRepeats, heq, List.filter_map, hsame, List.map_cons]
    · intro other
      by_cases h : other = attr
      · simp [h]
      · simp [h, hmem, Ne.symm h]

theorem get?_putAll_map {α : Type} (f : String → α) (all : Named α) (names : List String)
    (name : String) : (Named.putAll all (names.map fun n => (n, f n))).get? name =
      if name ∈ names then some (f name) else all.get? name := by
  induction names generalizing all with
  | nil => simp [Named.putAll]
  | cons n rest ih =>
    have hrest := ih (all.put n (f n))
    rw [Named.putAll] at hrest ⊢
    rw [List.map_cons, List.foldl_cons, hrest]
    by_cases hin : name ∈ rest
    · simp [hin]
    · by_cases hn : name = n
      · simp [hn]
      · simp [hin, hn, Named.get?_put_of_ne]

/-- A group is told with the values of its first document. -/
theorem sharedFields_texts (attrs : List String) (doc : Fields) : ∃ shared,
    sharedFields (attrs.map .text) doc = .ok shared ∧ ∀ attr ∈ attrs, shared.get attr = doc.get attr := by
  obtain ⟨distinct, heq, hmem⟩ := withoutRepeats_texts attrs
  have hshown : (distinct.map Value.text).map Value.shown = distinct := by
    rw [List.map_map]
    exact List.map_id _
  refine ⟨Named.ofList (distinct.map fun attr => (attr, doc.get attr)), ?_, ?_⟩
  · have hzip : distinct.zip (distinct.map doc.get) = distinct.map fun attr => (attr, doc.get attr) := by
      have hmap := List.zip_map' (f := id) (g := doc.get) (l := distinct)
      simpa using hmap
    unfold sharedFields
    simp only [heq, hshown, valuesOf_texts, hzip, bind, Except.bind, pure, Except.pure]
  · intro attr hattr
    unfold Fields.get Named.ofList
    rw [get?_putAll_map, if_pos ((hmem attr).mpr hattr)]
    rfl

end

/-! ## Numbers under labels -/

/-- Something that asks for a count, of the documents with an attribute or of all. -/
def AsksForCount (parts : Value) : Prop :=
  ∃ rest, parts = .list (.text "Count" :: rest) ∧ ∀ attr ∈ rest.head?, attr.isKey = true

/-- An aggregate that can count any document. -/
def Count.Sound (c : Count) : Prop := ∀ attr ∈ c.attr, attr.isKey = true

/-- Puts the number of the counted documents under each label. -/
def tally (counts : List Count) (docs : List Fields) (fields : Fields) : Fields :=
  counts.foldl (fun fields c => fields.put c.label (.nat (docs.countP c.counts))) fields

section

variable {docs : List Fields} {counts : List Count}

/-- An aggregate gives the number of the documents that it counts. -/
theorem Count.of_eq {c : Count} (h : c.Sound) (docs : List Fields) :
    c.of docs = .ok (docs.countP c.counts) := by
  obtain ⟨label, attr⟩ := c
  cases attr with
  | none => exact congrArg Except.ok (congrFun List.countP_true docs).symm
  | some attr => exact countPresent_key (h attr rfl) docs

theorem putCounts_eq (h : ∀ c ∈ counts, c.Sound) (fields : Fields) :
    putCounts docs fields counts = .ok (tally counts docs fields) := by
  induction counts generalizing fields with
  | nil => rfl
  | cons c rest ih =>
    obtain ⟨hc, hrest⟩ := List.forall_mem_cons.mp h
    rw [putCounts, Count.of_eq hc]
    exact ih hrest _

theorem readCounts_ok {aggregates : Fields} (h : ∀ entry ∈ aggregates, AsksForCount entry.2) :
    ∃ counts, readCounts aggregates = .ok counts ∧ counts.map (·.label) = aggregates.names ∧
      ∀ c ∈ counts, c.Sound := by
  induction aggregates with
  | nil => exact ⟨[], rfl, rfl, by simp⟩
  | cons entry rest ih =>
    obtain ⟨label, parts⟩ := entry
    obtain ⟨hfirst, hrest⟩ := List.forall_mem_cons.mp h
    obtain ⟨more, rfl, hkey⟩ := hfirst
    obtain ⟨counts, hread, hlabels, hsound⟩ := ih hrest
    refine ⟨⟨label, more.head?⟩ :: counts, ?_, ?_, ?_⟩
    · rw [readCounts, hread]
      rfl
    · rw [List.map_cons, hlabels]
      rfl
    · exact List.forall_mem_cons.mpr ⟨hkey, hsound⟩

/-- Under a label stands what one of its aggregates counts, whatever the documents are. -/
theorem get_tally_label {label : String} (h : label ∈ counts.map (·.label)) : ∃ c ∈ counts,
    ∀ docs fields, (tally counts docs fields).get label = .nat (docs.countP c.counts) := by
  induction counts using List.reverseRecOn with
  | nil => simp at h
  | append_singleton counts c ih =>
    by_cases hc : label = c.label
    · refine ⟨c, by simp, ?_⟩
      intro docs fields
      simp [tally, hc, Fields.get]
    · obtain ⟨found, hfound, hget⟩ := ih (by simpa [hc] using h)
      refine ⟨found, by simp [hfound], ?_⟩
      intro docs fields
      rw [← hget docs fields]
      simp [tally, Fields.get, Named.get?_put_of_ne _ _ hc]

/-- Other names are left alone. -/
theorem get_tally_of_not_label {name : String} (h : name ∉ counts.map (·.label)) (fields : Fields) :
    (tally counts docs fields).get name = fields.get name := by
  induction counts generalizing fields with
  | nil => rfl
  | cons c rest ih =>
    simp only [List.map_cons, List.mem_cons, not_or] at h
    have hrest := ih h.2 (fields.put c.label (.nat (docs.countP c.counts)))
    rw [tally] at hrest ⊢
    rw [List.foldl_cons, hrest]
    simp [Fields.get, Named.get?_put_of_ne _ _ h.1]

end

/-! ## Groups refine the whole -/

/-- Documents group by group. -/
structure Grouped (attrs : List String) (docs : List Fields) (groups : List Group) : Prop where
  /-- The groups come in the order in which the texts of their values first come. -/
  inOrder : groups.map (·.key) = (docs.map (groupKey attrs)).eraseDups
  /-- No two groups have the same texts. -/
  apart : (groups.map (·.key)).Nodup
  members : ∀ g ∈ groups, g.members = docs.filter (groupKey attrs · == g.key)
  filled : ∀ g ∈ groups, g.members ≠ []
  /-- Each document is in one group, as often as it was there. -/
  complete : (groups.flatMap (·.members)).Perm docs

/-- What is told about groups. -/
structure TellsGroups (attrs : List String) (aggregates totals : Fields) (groups : List Group)
    (told : Group → Fields) : Prop where
  /-- The numbers of the groups under a label add up to the number of all documents. -/
  adds : ∀ label ∈ aggregates.names, ∃ parts : Group → Nat,
    (∀ g, (told g).get label = .nat (parts g)) ∧ totals.get label = .nat (groups.map parts).sum
  /-- Under all other names stand the values of the first member. -/
  values : ∀ g, ∀ attr ∈ attrs, attr ∉ aggregates.names →
    (told g).get attr = (g.members.headD []).get attr

section

variable {docs : List Fields} {attrs : List String}

theorem grouped_groupsOf (attrs : List String) (docs : List Fields) :
    Grouped attrs docs (groupsOf (groupKey attrs) docs) where
  inOrder := keys_groupsOf
  apart := keys_groupsOf ▸ nodup_eraseDups _
  members := fun _ hg => members_of_mem hg
  filled := fun _ hg => members_ne_nil hg
  complete := flatMap_groupsOf_perm

theorem describeGroup_texts (attrs : List String) {counts : List Count} (h : ∀ c ∈ counts, c.Sound)
    (g : Group) : ∃ shared, describeGroup (attrs.map .text) counts g =
      .ok (.object (tally counts g.members shared)) ∧
      ∀ attr ∈ attrs, shared.get attr = (g.members.headD []).get attr := by
  obtain ⟨shared, hshared, hvalues⟩ := sharedFields_texts attrs (g.members.headD [])
  refine ⟨shared, ?_, hvalues⟩
  unfold describeGroup
  simp only [hshared, putCounts_eq h, bind, Except.bind, pure, Except.pure]

theorem mapM_ok {α β : Type} {f : α → Except Failure β} {g : α → β} (all : List α)
    (h : ∀ a, f a = .ok (g a)) : all.mapM f = .ok (all.map g) := by
  induction all with
  | nil => rfl
  | cons a rest ih => simp [h, ih, bind, Except.bind, pure, Except.pure]

/-- The answer for groups of texts. -/
theorem aggregate_texts {aggregates : Fields} {counts : List Count} {tell : Group → Value}
    (hread : readCounts aggregates = .ok counts) (hattrs : attrs ≠ [])
    (htell : ∀ g, describeGroup (attrs.map .text) counts g = .ok (tell g)) :
    aggregate docs (.object aggregates) (.texts attrs) = .ok (.object [("rows", .list []),
      ("aggregation_groups", .list ((groupsOf (groupKey attrs) docs).map tell))]) := by
  have htrue : (Value.texts attrs).isTrue = true := by simpa [Value.texts, Value.isTrue] using hattrs
  have helements : elements (.texts attrs) = .ok (attrs.map .text) := rfl
  have hgroups : groupBy (attrs.map .text) [] docs = .ok (groupsOf (groupKey attrs) docs) :=
    groupBy_texts [] docs
  unfold aggregate
  simp only [hread, htrue, helements, hgroups, mapM_ok _ htell, bind, Except.bind, pure, Except.pure,
    Bool.not_true, Bool.false_eq_true, if_false]
  cases docs with
  | nil => rfl
  | cons doc rest => rfl

/-- Documents that are counted group by group, for whatever attributes and labels: each document is in
just one group, and under every label the groups add up to what is counted without them. -/
theorem grouped_counts_add_up (docs : List Fields) {aggregates : Fields} {attrs : List String}
    (hcounts : ∀ entry ∈ aggregates, AsksForCount entry.2) (hattrs : attrs ≠ []) :
    ∃ groups told totals,
      aggregate docs (.object aggregates) (.texts attrs) = .ok (.object [("rows", .list []),
        ("aggregation_groups", .list (groups.map fun g => .object (told g)))]) ∧
      aggregate docs (.object aggregates) .null = .ok (.object [("rows", .list []),
        ("aggregations", .object totals)]) ∧
      Grouped attrs docs groups ∧ TellsGroups attrs aggregates totals groups told := by
  obtain ⟨counts, hread, hlabels, hsound⟩ := readCounts_ok hcounts
  choose shared hdescribe hvalues using describeGroup_texts attrs hsound
  refine ⟨groupsOf (groupKey attrs) docs, fun g => tally counts g.members (shared g),
    tally counts docs [], aggregate_texts hread hattrs hdescribe, ?_, grouped_groupsOf attrs docs, ?_, ?_⟩
  · unfold aggregate
    simp only [hread, putCounts_eq hsound, Value.isTrue, bind, Except.bind, pure, Except.pure,
      Bool.not_false, if_true]
  · intro label hlabel
    obtain ⟨c, -, hget⟩ := get_tally_label (hlabels ▸ hlabel)
    refine ⟨fun g => g.members.countP c.counts, fun g => hget g.members (shared g), ?_⟩
    rw [hget, sum_countP_groupsOf]
  · intro g attr hattr hnot
    rw [get_tally_of_not_label (hlabels ▸ hnot)]
    exact hvalues g attr hattr

/-- Documents of two kinds, and one of none. -/
def volumes : List Fields :=
  [[("id", .int 1), ("kind", .text "atlas"), ("price", .int 30)], [("id", .int 2), ("price", .null)],
    [("id", .int 3), ("kind", .text "atlas")], [("id", .int 4), ("kind", .text "score")]]

/-- All documents of a kind, and those with a price, under the name of the kind itself. -/
def volumeCounts : Fields :=
  [("all", .list [.text "Count"]), ("kind", .list [.text "Count", .text "price"])]

theorem volumes_are_counted_by_kind : (∀ entry ∈ volumeCounts, AsksForCount entry.2) ∧ ["kind"] ≠ [] ∧
    ∃ groups told totals,
      aggregate volumes (.object volumeCounts) (.texts ["kind"]) = .ok (.object [("rows", .list []),
        ("aggregation_groups", .list (groups.map fun g => .object (told g)))]) ∧
      aggregate volumes (.object volumeCounts) .null = .ok (.object [("rows", .list []),
        ("aggregations", .object totals)]) ∧
      Grouped ["kind"] volumes groups ∧ TellsGroups ["kind"] volumeCounts totals groups told := by
  have hcounts : ∀ entry ∈ volumeCounts, AsksForCount entry.2 := by
    intro entry hentry
    simp only [volumeCounts, List.mem_cons, List.not_mem_nil, or_false] at hentry
    rcases hentry with rfl | rfl
    · exact ⟨[], rfl, by simp⟩
    · exact ⟨[.text "price"], rfl, by simp [Value.isKey]⟩
  have hattrs : ["kind"] ≠ [] := by decide
  exact ⟨hcounts, hattrs, grouped_counts_add_up volumes hcounts hattrs⟩

end

end Folio.Collection
