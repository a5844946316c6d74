-- The sets of filters used of late. What is seen of them is the newest that the archive keeps, each
-- set once: a set that was pushed out may be noted again, and then the archive keeps it twice, but
-- never twice among those that are seen.
import Folio.Proofs.HistoryRuns
import Folio.Proofs.PageTexts

namespace Folio

/-! ## Sets that are the same -/

/-- Two sets with the same search text and, in order, the same attributes, operators and values. -/
def RecentFilter.SameSet (e f : RecentFilter) : Prop :=
  e.searchText = f.searchText ∧
    e.predicates.map Predicate.tripleValue = f.predicates.map Predicate.tripleValue

theorem RecentFilter.SameSet.symm {e f : RecentFilter} (h : e.SameSet f) : f.SameSet e :=
  ⟨h.1.symm, h.2.symm⟩

/-- A set that asks for nothing. -/
def RecentFilter.IsEmpty (e : RecentFilter) : Prop := e.searchText = "" ∧ e.predicates = []

theorem Predicate.tripleValue_iff (p q : Predicate) :
    p.tripleValue = q.tripleValue ↔ p.triple = q.triple := by
  simp only [tripleValue, Value.list.injEq, List.cons.injEq, Value.scalar.injEq, Scalar.text.injEq,
    and_true, triple, Prod.mk.injEq]
  constructor
  · rintro ⟨hattr, hoperator, hoperand⟩
    exact ⟨hattr, operator_name_injective hoperator, operand_injective hoperand⟩
  · rintro ⟨hattr, hoperator, hoperand⟩
    exact ⟨hattr, congrArg Operator.name hoperator, congrArg Operand.toValue hoperand⟩

/-- Whether a set is there is asked by search text, attributes, operators and values. -/
theorem RecentFilter.holds_iff (e f : RecentFilter) :
    e.holds f.searchText f.predicates ↔ e.SameSet f := by
  rw [holds, SameSet, Bool.and_eq_true, beq_iff_eq, beq_iff_eq]
  rw [map_eq_map_iff e.predicates (fun p _ q => (Predicate.tripleValue_iff p q).symm)]

/-- A set is noted if it is not empty and not among those that are seen. -/
theorem FilterLists.notes_iff (l : FilterLists) (entry : RecentFilter) :
    l.notes entry ↔ ¬ entry.IsEmpty ∧ ∀ e ∈ l.recent, ¬ e.SameSet entry := by
  have hempty : (entry.searchText == "" && entry.predicates.isEmpty) = true ↔ entry.IsEmpty := by
    simp [RecentFilter.IsEmpty]
  have hthere : l.recent.any (·.holds entry.searchText entry.predicates) = true ↔
      ∃ e ∈ l.recent, e.SameSet entry := by
    simp [← RecentFilter.holds_iff]
  rw [notes, Bool.and_eq_true, Bool.not_eq_true', Bool.not_eq_true', ← Bool.not_eq_true,
    ← Bool.not_eq_true, hempty, hthere]
  push Not
  rfl

/-! ## What the tasks keep -/

/-- The sets that are seen are the newest of those kept, none is empty and none is there twice. -/
structure RecentMirrored (limit : Int) (seen kept : FilterLists) : Prop where
  newest : seen.recent = upTo limit kept.recent
  filled : ∀ e ∈ seen.recent, ¬ e.IsEmpty
  distinct : seen.recent.Pairwise (fun e f => ¬ f.SameSet e)

namespace RecentMirrored

variable {savedLimit recentLimit : Int} {seen kept : FilterLists}

theorem empty : RecentMirrored recentLimit .empty .empty :=
  ⟨by simp [FilterLists.empty, upTo], by simp [FilterLists.empty], List.Pairwise.nil⟩

/-- A set that is noted is not among those seen, so it is there once with those that stay. -/
theorem note (hlimit : 0 ≤ recentLimit) (h : RecentMirrored recentLimit seen kept)
    {entry : RecentFilter} (hnotes : seen.notes entry) :
    RecentMirrored recentLimit { seen with recent := upTo recentLimit (entry :: seen.recent) }
      (kept.addRecent entry) := by
  obtain ⟨hfilled, hnew⟩ := (seen.notes_iff entry).mp hnotes
  have hstay := upTo_sublist recentLimit (entry :: seen.recent)
  refine ⟨?_, fun e he => ?_, List.Pairwise.sublist hstay ?_⟩
  · rw [h.newest]
    exact upTo_cons_upTo hlimit entry
  · obtain rfl | hold := List.mem_cons.mp (hstay.subset he)
    · exact hfilled
    · exact h.filled e hold
  · exact List.pairwise_cons.mpr ⟨hnew, h.distinct⟩

/-- A load finds the sets that are seen. -/
theorem load (h : RecentMirrored recentLimit seen kept) :
    RecentMirrored recentLimit (kept.upTo savedLimit recentLimit) kept := by
  have hsame : (kept.upTo savedLimit recentLimit).recent = seen.recent := h.newest.symm
  exact ⟨rfl, hsame ▸ h.filled, hsame ▸ h.distinct⟩

theorem task (hlimit : 0 ≤ recentLimit) (h : RecentMirrored recentLimit seen kept)
    (task : HistoryTask) :
    RecentMirrored recentLimit (seen.seenAfter savedLimit recentLimit kept task)
      (kept.keptAfter seen task) := by
  cases task with
  | save entry => exact ⟨h.newest, h.filled, h.distinct⟩
  | markApplied id => exact ⟨h.newest, h.filled, h.distinct⟩
  | deleteSaved id => exact ⟨h.newest, h.filled, h.distinct⟩
  | logRecent entry =>
    rw [FilterLists.seenAfter, FilterLists.keptAfter]
    split
    case isTrue hnotes => exact h.note hlimit hnotes
    case isFalse => exact h
  | load => exact h.load

end RecentMirrored

namespace History

/-! ## What is noted in a run -/

/-- The set that an act notes at a place. -/
def notedBy (h : History) (place : String) (a : HistoryAct) : Option RecentFilter :=
  match a.task with
  | .logRecent entry =>
    if place = a.place then (h.logRecent a.connection a.collection entry).2 else none
  | _ => none

/-- The sets noted at a place in the course of a run, in the order of time. -/
def notedAt (h : History) (place : String) : List HistoryAct → List RecentFilter
  | [] => []
  | a :: rest => (h.notedBy place a).toList ++ (h.act a).notedAt place rest

theorem Sound.recent_act {h : History} (hsound : h.Sound) (place : String) (a : HistoryAct) :
    ((h.act a).keptAt place).recent =
      (h.notedBy place a).toList ++ (h.keptAt place).recent := by
  by_cases hplace : place = a.place
  · subst hplace
    rw [hsound.keptAt_act]
    unfold notedBy FilterLists.keptAfter
    split <;> rename_i htask <;> simp only [htask]
    case h_4 =>
      rw [logRecent_eq, lists_eq_seenAt, HistoryAct.place]
      split <;> rfl
    all_goals rfl
  · rw [keptAt_act_of_ne hplace]
    unfold notedBy
    split <;> simp [hplace]

/-- The archive keeps all that was noted, the newest first. -/
theorem Sound.recent_after {h : History} (hsound : h.Sound) (place : String)
    (acts : List HistoryAct) :
    ((h.after acts).keptAt place).recent =
      (h.notedAt place acts).reverse ++ (h.keptAt place).recent := by
  induction acts generalizing h with
  | nil => rfl
  | cons a rest ih =>
    have hone : (h.notedBy place a).toList.reverse = (h.notedBy place a).toList := by
      cases h.notedBy place a <;> rfl
    rw [after_cons, ih (hsound.act a), hsound.recent_act, notedAt, List.reverse_append,
      List.append_assoc, hone]

/-- A set that is noted stands in front of the others. -/
theorem logRecent_of_notes {h : History} {connection collection : String} {entry : RecentFilter}
    (hnotes : (h.lists connection collection).notes entry) :
    (h.logRecent connection collection entry).2 = some entry ∧
      (h.logRecent connection collection entry).1.recent connection collection =
        upTo h.recentLimit (entry :: h.recent connection collection) := by
  rw [logRecent_eq, if_pos hnotes]
  exact ⟨rfl, congrArg FilterLists.recent (seenAt_change_self ..)⟩

theorem logRecent_of_not_notes {h : History} {connection collection : String}
    {entry : RecentFilter} (hnotes : ¬ (h.lists connection collection).notes entry) :
    h.logRecent connection collection entry = (h, none) := by
  rw [logRecent_eq, if_neg hnotes]

/-! ## Whole runs -/

section
variable (savedLimit : Int) {recentLimit : Int}

theorem mirrored_after (hlimit : 0 ≤ recentLimit) (acts : List HistoryAct) (place : String) :
    RecentMirrored recentLimit (((fresh savedLimit recentLimit).after acts).seenAt place)
      (((fresh savedLimit recentLimit).after acts).keptAt place) :=
  seen_and_kept_after _ _ .empty (fun _ _ task h => h.task hlimit task) acts place

/-- A load is one more thing that is asked, and what the archive keeps of recent sets stays. -/
theorem recent_load (hlimit : 0 ≤ recentLimit) (acts : List HistoryAct)
    (connection collection c n : String) :
    ((((fresh savedLimit recentLimit).after acts).load c n).recent connection collection) =
      ((fresh savedLimit recentLimit).after acts).recent connection collection := by
  have hbefore := mirrored_after savedLimit hlimit acts (place connection collection)
  have hafter := mirrored_after savedLimit hlimit (acts ++ [⟨c, n, .load⟩])
    (place connection collection)
  rw [after_append] at hafter
  exact hafter.newest.trans hbefore.newest.symm

theorem recent_kept (acts : List HistoryAct) (place : String) :
    (((fresh savedLimit recentLimit).after acts).keptAt place).recent =
      ((fresh savedLimit recentLimit).notedAt place acts).reverse := by
  rw [(sound_fresh _ _).recent_after]
  exact List.append_nil _

/-- Whatever was asked, in whatever order and of whatever places: the sets that are seen as recent
are the newest of those that were noted at the place, as many as the limit allows, and these are the
first that the archive keeps, so that no load changes them. None is empty and no two are the same;
and a set is noted just when it is not empty and not among them. -/
theorem recent_sets_mirror_the_archive (hlimit : 0 ≤ recentLimit) (acts : List HistoryAct)
    (connection collection : String) :
    let h := (fresh savedLimit recentLimit).after acts
    let recent := h.recent connection collection
    let noted := (fresh savedLimit recentLimit).notedAt (place connection collection) acts
    (recent.length : Int) ≤ recentLimit ∧
    recent = upTo recentLimit noted.reverse ∧
    recent = upTo recentLimit (h.kept connection collection).recent ∧
    (∀ c n, (h.load c n).recent connection collection = recent) ∧
    (∀ e ∈ recent, ¬ e.IsEmpty) ∧
    recent.Pairwise (fun e f => ¬ e.SameSet f) ∧
    ∀ entry : RecentFilter,
      (¬ entry.IsEmpty ∧ (∀ e ∈ recent, ¬ e.SameSet entry) →
        (h.logRecent connection collection entry).2 = some entry ∧
        (h.logRecent connection collection entry).1.recent connection collection =
          upTo recentLimit (entry :: recent)) ∧
      (entry.IsEmpty ∨ (∃ e ∈ recent, e.SameSet entry) →
        h.logRecent connection collection entry = (h, none)) := by
  intro h recent noted
  have hmirrored := mirrored_after savedLimit hlimit acts
    (place connection collection)
  have hnewest : recent = upTo recentLimit (h.kept connection collection).recent :=
    hmirrored.newest
  have hkept : (h.kept connection collection).recent = noted.reverse := recent_kept savedLimit acts _
  have hlimits : h.recentLimit = recentLimit := (limits_after _ acts).2
  refine ⟨hnewest ▸ length_upTo_le hlimit, hkept ▸ hnewest, hnewest,
    recent_load savedLimit hlimit acts connection collection, hmirrored.filled,
    hmirrored.distinct.imp fun hne hsame => hne hsame.symm, fun entry => ⟨fun hnew => ?_,
    fun hold => ?_⟩⟩
  · have hnotes := (h.lists connection collection).notes_iff entry |>.mpr hnew
    exact hlimits ▸ logRecent_of_notes hnotes
  · refine logRecent_of_not_notes fun hnotes => ?_
    obtain ⟨hfilled, hnew⟩ := (h.lists connection collection).notes_iff entry |>.mp hnotes
    obtain hempty | ⟨e, he, hsame⟩ := hold
    · exact hfilled hempty
    · exact hnew e he hsame

end

/-- A search for one text, then for another one, then for the first one again. -/
def searchedTwice : List HistoryAct := [
  ⟨"c", "n", .logRecent (.make "1" "x" [] 0)⟩,
  ⟨"c", "n", .logRecent (.make "2" "y" [] 0)⟩,
  ⟨"c", "n", .logRecent (.make "3" "x" [] 0)⟩]

/-- With room for one set, the archive keeps both searches for the first text, and every load shows
the later one only. -/
theorem set_pushed_out_is_noted_again :
    let h := (fresh 1 1).after searchedTwice
    (0 : Int) ≤ 1 ∧
    (h.recent "c" "n").map (·.id) = ["3"] ∧
    (h.kept "c" "n").recent.map (·.searchText) = ["x", "y", "x"] ∧
    ∀ c n, (h.load c n).recent "c" "n" = h.recent "c" "n" :=
  ⟨by decide, by decide +kernel, by decide +kernel,
    (recent_sets_mirror_the_archive 1 (by decide) searchedTwice "c" "n").2.2.2.1⟩

end History
end Folio
