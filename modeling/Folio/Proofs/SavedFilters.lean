-- The sets of filters saved under names. What is seen of them is always the front of what the
-- archive keeps, and as long as the limit allows; only when a set is deleted while the archive keeps
-- sets that were pushed out, one of those moves up in the archive and not in what is seen.
import Folio.Proofs.HistoryRuns

namespace Folio

/-! ## What the tasks keep -/

/-- The saved sets that are seen are the front of those kept, and no more than the limit. -/
structure SavedMirrored (limit : Int) (seen kept : FilterLists) : Prop where
  front : seen.saved <+: kept.saved
  bounded : (seen.saved.length : Int) ≤ limit

/-- There is room for a saved set that is kept and not seen. -/
def SavedShort (limit : Int) (seen kept : FilterLists) : Prop :=
  (seen.saved.length : Int) < limit ∧ seen.saved.length < kept.saved.length

@[simp] theorem FilterLists.length_countApplied (l : FilterLists) (id : String) :
    (l.countApplied id).saved.length = l.saved.length := List.length_map ..

theorem FilterLists.length_deleteSaved_le (l : FilterLists) (id : String) :
    (l.deleteSaved id).saved.length ≤ l.saved.length := List.length_filter_le ..

/-- A deletion of what is not there changes nothing. -/
theorem FilterLists.deleteSaved_of_not_mem {l : FilterLists} {id : String}
    (h : id ∉ l.saved.map (·.id)) : (l.deleteSaved id).saved = l.saved := by
  refine List.filter_eq_self.mpr fun e he => bne_iff_ne.mpr fun heq => h ?_
  exact List.mem_map.mpr ⟨e, he, heq⟩

section
variable {savedLimit recentLimit : Int} {seen kept : FilterLists}

namespace SavedMirrored

theorem empty (hlimit : 0 ≤ savedLimit) : SavedMirrored savedLimit .empty .empty :=
  ⟨List.prefix_rfl, hlimit⟩

/-- Nothing is missing from what is seen unless there is room for it. -/
theorem eq_upTo_iff (h : SavedMirrored savedLimit seen kept) :
    seen.saved = upTo savedLimit kept.saved ↔ ¬ SavedShort savedLimit seen kept := by
  have hlimit : 0 ≤ savedLimit := by have := h.bounded; omega
  have hfront := h.front.length_le
  have hbounded := h.bounded
  rw [upTo_of_nonneg hlimit, SavedShort]
  constructor
  · intro heq
    have hlength := congrArg List.length heq
    rw [List.length_take] at hlength
    omega
  · intro hfull
    rw [List.prefix_iff_eq_take.mp h.front]
    by_cases hlonger : seen.saved.length < kept.saved.length
    · congr 1
      omega
    · rw [List.take_of_length_le (by omega), List.take_of_length_le (by omega)]

theorem task (hlimit : 0 ≤ savedLimit) (h : SavedMirrored savedLimit seen kept)
    (task : HistoryTask) :
    SavedMirrored savedLimit (seen.seenAfter savedLimit recentLimit kept task)
      (kept.keptAfter seen task) := by
  cases task with
  | save entry =>
    exact ⟨(upTo_front ..).trans (List.cons_prefix_cons.mpr ⟨rfl, h.front⟩),
      length_upTo_le hlimit⟩
  | markApplied id =>
    have hbounded := h.bounded
    exact ⟨h.front.map _, by rwa [FilterLists.seenAfter, seen.length_countApplied]⟩
  | deleteSaved id =>
    have hless := seen.length_deleteSaved_le id
    have hbounded := h.bounded
    exact ⟨h.front.filter _, by rw [FilterLists.seenAfter]; omega⟩
  | logRecent entry =>
    rw [FilterLists.seenAfter, FilterLists.keptAfter]
    split <;> exact ⟨h.front, h.bounded⟩
  | load => exact ⟨upTo_front .., length_upTo_le hlimit⟩

/-- Room is only made by the deletion of a set that is seen, while the archive keeps more than can be
seen. -/
theorem short_task (hlimit : 0 ≤ savedLimit) (h : SavedMirrored savedLimit seen kept)
    (hfull : ¬ SavedShort savedLimit seen kept) {task : HistoryTask}
    (hshort : SavedShort savedLimit (seen.seenAfter savedLimit recentLimit kept task)
      (kept.keptAfter seen task)) :
    ∃ id, task = .deleteSaved id ∧ id ∈ seen.saved.map (·.id) ∧
      savedLimit < kept.saved.length := by
  have hfront := h.front.length_le
  cases task with
  | save entry =>
    obtain ⟨hroom, hmore⟩ := hshort
    simp only [FilterLists.seenAfter, FilterLists.keptAfter, FilterLists.addSaved,
      upTo_of_nonneg hlimit, List.length_take, List.length_cons] at hroom hmore
    unfold SavedShort at hfull
    omega
  | markApplied id =>
    simp only [SavedShort, FilterLists.seenAfter, FilterLists.keptAfter,
      FilterLists.length_countApplied] at hshort
    exact absurd hshort hfull
  | deleteSaved id =>
    refine ⟨id, rfl, ?_, ?_⟩
    · by_contra hseen
      obtain ⟨hroom, hmore⟩ := hshort
      simp only [FilterLists.seenAfter, FilterLists.keptAfter,
        FilterLists.deleteSaved_of_not_mem hseen] at hroom hmore
      exact hfull ⟨hroom, Nat.lt_of_lt_of_le hmore (kept.length_deleteSaved_le id)⟩
    · by_contra hfits
      have hsame : seen.saved = kept.saved := by
        rw [h.eq_upTo_iff.mpr hfull, upTo_of_length_le (by omega)]
      simp [SavedShort, FilterLists.seenAfter, FilterLists.keptAfter, FilterLists.deleteSaved,
        hsame] at hshort
  | logRecent entry =>
    rw [FilterLists.seenAfter, FilterLists.keptAfter] at hshort
    split at hshort <;> exact absurd hshort hfull
  | load =>
    obtain ⟨hroom, hmore⟩ := hshort
    simp only [FilterLists.seenAfter, FilterLists.keptAfter, FilterLists.upTo,
      upTo_of_nonneg hlimit, List.length_take] at hroom hmore
    omega

end SavedMirrored

end

namespace History

/-! ## What the archive keeps of a run -/

/-- Sets saved before and after a task, the newest first. -/
def savedAfter (saved : List SavedFilter) : HistoryTask → List SavedFilter
  | .save entry => entry :: saved
  | .markApplied id =>
    saved.map fun e => if e.id == id then { e with applied := e.applied + 1 } else e
  | .deleteSaved id => saved.filter (·.id != id)
  | _ => saved

theorem saved_keptAfter (l seen : FilterLists) (task : HistoryTask) :
    (l.keptAfter seen task).saved = savedAfter l.saved task := by
  cases task with
  | logRecent entry =>
    rw [FilterLists.keptAfter]
    split <;> rfl
  | _ => rfl

/-- All that was saved at a place in the course of a run and not deleted, the newest first. -/
def savedAt (place : String) (acts : List HistoryAct) : List SavedFilter :=
  acts.foldl (fun saved a => if place = a.place then savedAfter saved a.task else saved) []

section
variable {savedLimit : Int} (recentLimit : Int)

variable (savedLimit) in
theorem saved_kept (acts : List HistoryAct) (place : String) :
    (((fresh savedLimit recentLimit).after acts).keptAt place).saved = savedAt place acts := by
  induction acts using List.reverseRecOn with
  | nil => rfl
  | append_singleton acts a ih =>
    have hsound := (sound_fresh savedLimit recentLimit).after acts
    rw [after_append, after_cons, after_nil, savedAt, List.foldl_append, List.foldl_cons,
      List.foldl_nil, ← savedAt, ← ih]
    split
    case isTrue hplace => rw [hplace, hsound.keptAt_act, saved_keptAfter]
    case isFalse hplace => rw [keptAt_act_of_ne hplace]

/-! ## Whole runs -/

theorem saved_mirrored_after (hlimit : 0 ≤ savedLimit) (acts : List HistoryAct) (place : String) :
    SavedMirrored savedLimit (((fresh savedLimit recentLimit).after acts).seenAt place)
      (((fresh savedLimit recentLimit).after acts).keptAt place) :=
  seen_and_kept_after _ _ (.empty hlimit) (fun _ _ task h => h.task hlimit task) acts place

end

/-- After a run, there is room at a place for a saved set that is kept and not seen. -/
def ShortAt (savedLimit recentLimit : Int) (place : String) (acts : List HistoryAct) : Prop :=
  SavedShort savedLimit (((fresh savedLimit recentLimit).after acts).seenAt place)
    (((fresh savedLimit recentLimit).after acts).keptAt place)

/-- A set that was seen was deleted while the archive kept more than can be seen, and nothing has
filled the gap since. -/
def Drained (savedLimit recentLimit : Int) (place : String) (acts : List HistoryAct) : Prop :=
  ∃ before a rest id, acts = before ++ a :: rest ∧ a.place = place ∧ a.task = .deleteSaved id ∧
    id ∈ (((fresh savedLimit recentLimit).after before).seenAt place).saved.map (·.id) ∧
    savedLimit < (((fresh savedLimit recentLimit).after before).keptAt place).saved.length ∧
    ∀ mid, mid <+: rest → ShortAt savedLimit recentLimit place (before ++ a :: mid)

section
variable {savedLimit : Int} (recentLimit : Int)

/-- What is asked of other places makes no room, and what is asked of the place makes room as its
task does. -/
theorem shortAt_snoc (hlimit : 0 ≤ savedLimit) {place : String} {acts : List HistoryAct}
    {a : HistoryAct} (hfull : ¬ ShortAt savedLimit recentLimit place acts)
    (hshort : ShortAt savedLimit recentLimit place (acts ++ [a])) :
    ∃ id, a.place = place ∧ a.task = .deleteSaved id ∧
      id ∈ (((fresh savedLimit recentLimit).after acts).seenAt place).saved.map (·.id) ∧
      savedLimit < (((fresh savedLimit recentLimit).after acts).keptAt place).saved.length := by
  have hsound := (sound_fresh savedLimit recentLimit).after acts
  rw [ShortAt, after_append, after_cons, after_nil] at hshort
  by_cases hplace : place = a.place
  · subst hplace
    have hlimits := limits_after (fresh savedLimit recentLimit) acts
    rw [seenAt_act, hsound.keptAt_act, hsound.foundAt_eq, hlimits.1, hlimits.2] at hshort
    have hmirrored := saved_mirrored_after recentLimit hlimit acts a.place
    obtain ⟨id, htask, hseen, hmore⟩ := hmirrored.short_task hlimit hfull hshort
    exact ⟨id, rfl, htask, hseen, hmore⟩
  · rw [seenAt_act_of_ne hplace, keptAt_act_of_ne hplace] at hshort
    exact absurd hshort hfull

theorem shortAt_iff_drained (hlimit : 0 ≤ savedLimit) (place : String) (acts : List HistoryAct) :
    ShortAt savedLimit recentLimit place acts ↔ Drained savedLimit recentLimit place acts := by
  constructor
  · intro hshort
    induction acts using List.reverseRecOn with
    | nil => exact absurd hshort.2 (Nat.lt_irrefl 0)
    | append_singleton acts a ih =>
      by_cases hearlier : ShortAt savedLimit recentLimit place acts
      · obtain ⟨before, b, rest, id, rfl, hplace, htask, hseen, hmore, hsince⟩ := ih hearlier
        refine ⟨before, b, rest ++ [a], id, by simp, hplace, htask, hseen, hmore, fun mid hmid => ?_⟩
        obtain hmid | rfl := List.prefix_concat_iff.mp hmid |>.symm
        · exact hsince mid hmid
        · simpa using hshort
      · obtain ⟨id, hplace, htask, hseen, hmore⟩ := shortAt_snoc recentLimit hlimit hearlier hshort
        refine ⟨acts, a, [], id, rfl, hplace, htask, hseen, hmore, fun mid hmid => ?_⟩
        rwa [List.prefix_nil.mp hmid]
  · rintro ⟨before, a, rest, id, rfl, -, -, -, -, hsince⟩
    exact hsince rest List.prefix_rfl

variable (savedLimit) in
/-- A load of the place brings the front of what is kept, and a load of another place nothing. -/
theorem saved_load (acts : List HistoryAct) (connection collection c n : String) :
    let h := (fresh savedLimit recentLimit).after acts
    (h.load c n).saved connection collection =
      if place connection collection = place c n then
        upTo savedLimit (h.kept connection collection).saved
      else h.saved connection collection := by
  intro h
  have hsound : h.Sound := (sound_fresh _ _).after acts
  have hlimit : h.savedLimit = savedLimit := (limits_after _ acts).1
  have hload : h.load c n = h.act ⟨c, n, .load⟩ := rfl
  split
  case isTrue hplace =>
    have hseen := seenAt_act (h := h) ⟨c, n, .load⟩
    rw [hsound.foundAt_eq, hlimit, HistoryAct.place, ← hplace] at hseen
    exact congrArg FilterLists.saved hseen
  case isFalse hplace =>
    exact congrArg FilterLists.saved (seenAt_act_of_ne (a := ⟨c, n, .load⟩) hplace)

/-- Whatever was asked, in whatever order and of whatever places: the archive keeps all that was
saved at the place and not deleted, the newest first, with the counts that a user sees; what is seen
is the front of it, and what a load brings is as much of it as the limit allows. The two are the same,
and no load changes what is seen, unless a set that was seen was deleted while the archive kept more
than can be seen and the gap is still there. -/
theorem saved_sets_mirror_the_archive_iff (hlimit : 0 ≤ savedLimit) (acts : List HistoryAct)
    (connection collection : String) :
    let h := (fresh savedLimit recentLimit).after acts
    let saved := h.saved connection collection
    let kept := (h.kept connection collection).saved
    let drained := Drained savedLimit recentLimit (place connection collection) acts
    kept = savedAt (place connection collection) acts ∧
    (saved.length : Int) ≤ savedLimit ∧ saved <+: kept ∧
    (h.load connection collection).saved connection collection = upTo savedLimit kept ∧
    (saved = upTo savedLimit kept ↔ ¬ drained) ∧
    ((∀ c n, (h.load c n).saved connection collection = saved) ↔ ¬ drained) := by
  intro h saved kept drained
  have hmirrored := saved_mirrored_after recentLimit hlimit acts
    (place connection collection)
  have hsame : saved = upTo savedLimit kept ↔ ¬ drained :=
    hmirrored.eq_upTo_iff.trans (not_congr (shortAt_iff_drained recentLimit hlimit _ acts))
  have hload := saved_load savedLimit recentLimit acts connection collection
  refine ⟨saved_kept savedLimit recentLimit acts _, hmirrored.bounded, hmirrored.front,
    (hload connection collection).trans (if_pos rfl), hsame, fun hstays => ?_, fun hnot c n => ?_⟩
  · rw [← hsame, ← hstays connection collection, hload, if_pos rfl]
  · rw [hload, ← hsame.mpr hnot, ite_self]

end

/-- A set is saved where there is room for one, then another one, and this one is deleted. -/
def savedTwice : List HistoryAct := [
  ⟨"c", "n", .save (.make "1" "a" "x" [] 0)⟩,
  ⟨"c", "n", .save (.make "2" "b" "y" [] 0)⟩,
  ⟨"c", "n", .deleteSaved "2"⟩]

/-- The set that was pushed out is the first that the archive keeps, it is not seen, and the next
load brings it back. -/
theorem pushed_out_set_comes_back :
    let h := (fresh 1 1).after savedTwice
    h.saved "c" "n" ≠ upTo 1 (h.kept "c" "n").saved ∧
    (h.saved "c" "n").map (·.id) = [] ∧ (h.kept "c" "n").saved.map (·.id) = ["1"] ∧
    ((h.load "c" "n").saved "c" "n").map (·.id) = ["1"] := by
  refine ⟨fun heq => ?_, by decide +kernel, by decide +kernel, by decide +kernel⟩
  have hids := congrArg (List.map SavedFilter.id) heq
  revert hids
  decide +kernel

/-- When one more set is saved then, the list is full again, and no load changes it. -/
theorem gap_is_filled :
    let acts := savedTwice ++ [⟨"c", "n", .save (.make "3" "c" "z" [] 0)⟩]
    let h := (fresh 1 1).after acts
    (0 : Int) ≤ 1 ∧ (h.saved "c" "n").map (·.id) = ["3"] ∧
    (h.kept "c" "n").saved.map (·.id) = ["3", "1"] ∧
    ¬ Drained 1 1 (place "c" "n") acts ∧
    ∀ c n, (h.load c n).saved "c" "n" = h.saved "c" "n" := by
  intro acts h
  have hlaw := saved_sets_mirror_the_archive_iff 1 (by decide : (0 : Int) ≤ 1) acts "c" "n"
  have hfull : ¬ Drained 1 1 (place "c" "n") acts := hlaw.2.2.2.2.1.mp rfl
  exact ⟨by decide, by decide +kernel, by decide +kernel, hfull, hlaw.2.2.2.2.2.mpr hfull⟩

end History

end Folio
