-- An archive that is not there or that fails. What is saved, marked, deleted and noted is seen all
-- the same, and nothing that is seen is lost to a call without an answer; a load is the exception,
-- which takes no answer for an empty archive.
import Folio.Proofs.HistoryRuns

namespace Folio

/-! ## What a task takes away -/

namespace FilterLists

variable {savedLimit recentLimit : Int} {l found : FilterLists} {task : HistoryTask} {id : String}

/-- The ids of the saved sets. -/
def savedIds (l : FilterLists) : List String := l.saved.map (·.id)

/-- The ids of the recent sets. -/
def recentIds (l : FilterLists) : List String := l.recent.map (·.id)

/-- What takes a saved set away: its deletion, one more set on a full list, and a load that does not
find it. -/
def TakesSaved (savedLimit : Int) (l found : FilterLists) (id : String) : HistoryTask → Prop
  | .save _ => savedLimit ≤ l.saved.length
  | .deleteSaved other => other = id
  | .load => id ∉ (Folio.upTo savedLimit found.saved).map (·.id)
  | _ => False

/-- What takes a recent set away: one more set on a full list, and a load that does not find it. -/
def TakesRecent (recentLimit : Int) (l found : FilterLists) (id : String) : HistoryTask → Prop
  | .logRecent _ => recentLimit ≤ l.recent.length
  | .load => id ∉ (Folio.upTo recentLimit found.recent).map (·.id)
  | _ => False

/-- Only a load asks the archive for what is seen. -/
theorem seenAfter_of_ne_load (htask : task ≠ .load) (other : FilterLists) :
    l.seenAfter savedLimit recentLimit found task =
      l.seenAfter savedLimit recentLimit other task := by
  cases task with
  | load => exact absurd rfl htask
  | _ => rfl

theorem savedIds_countApplied (other : String) : (l.countApplied other).savedIds = l.savedIds := by
  rw [savedIds, countApplied, List.map_map]
  exact List.map_congr_left fun e _ => by dsimp only [Function.comp]; split <;> rfl

theorem takesSaved_of_gone (hseen : id ∈ l.savedIds)
    (hgone : id ∉ (l.seenAfter savedLimit recentLimit found task).savedIds) :
    l.TakesSaved savedLimit found id task := by
  cases task with
  | save entry =>
    by_contra hroom
    rw [TakesSaved, Int.not_le] at hroom
    have hall : Folio.upTo savedLimit (entry :: l.saved) = entry :: l.saved :=
      upTo_of_length_le (by simp only [List.length_cons]; omega)
    rw [savedIds, seenAfter, hall] at hgone
    exact hgone (List.mem_cons_of_mem _ hseen)
  | markApplied other =>
    rw [seenAfter, savedIds_countApplied] at hgone
    exact absurd hseen hgone
  | deleteSaved other =>
    by_contra hother
    obtain ⟨e, he, rfl⟩ := List.mem_map.mp hseen
    refine hgone (List.mem_map.mpr ⟨e, List.mem_filter.mpr ⟨he, ?_⟩, rfl⟩)
    exact bne_iff_ne.mpr (Ne.symm hother)
  | logRecent entry =>
    rw [seenAfter] at hgone
    split at hgone <;> exact absurd hseen hgone
  | load => exact hgone

theorem takesRecent_of_gone (hseen : id ∈ l.recentIds)
    (hgone : id ∉ (l.seenAfter savedLimit recentLimit found task).recentIds) :
    l.TakesRecent recentLimit found id task := by
  cases task with
  | logRecent entry =>
    by_contra hroom
    rw [TakesRecent, Int.not_le] at hroom
    have hall : Folio.upTo recentLimit (entry :: l.recent) = entry :: l.recent :=
      upTo_of_length_le (by simp only [List.length_cons]; omega)
    rw [seenAfter] at hgone
    split at hgone
    · rw [recentIds, hall] at hgone
      exact hgone (List.mem_cons_of_mem _ hseen)
    · exact hgone hseen
  | load => exact hgone
  | _ => exact absurd hseen hgone

end FilterLists

/-! ## Attempts -/

/-- Something asked while the archive, if there is one, fails at some of its tasks. -/
structure HistoryAttempt where
  failing : List ArchiveTask
  act : HistoryAct

namespace History

/-- From now on the archive, if there is one, fails at these tasks. -/
def withFailing (h : History) (failing : List ArchiveTask) : History :=
  { h with archive := h.archive.map ({ · with failing }) }

def attempt (h : History) (t : HistoryAttempt) : History := (h.withFailing t.failing).act t.act

def afterAttempts (h : History) (attempts : List HistoryAttempt) : History :=
  attempts.foldl attempt h

theorem afterAttempts_cons (h : History) (t : HistoryAttempt) (rest : List HistoryAttempt) :
    h.afterAttempts (t :: rest) = (h.attempt t).afterAttempts rest := rfl

/-- What a load of a place would find during an attempt. -/
def foundBy (h : History) (t : HistoryAttempt) : FilterLists :=
  (h.withFailing t.failing).foundAt t.act.place

/-- A load would get no answer: there is no archive, or it fails to load. -/
def Unanswered (h : History) (t : HistoryAttempt) : Prop :=
  h.archive = none ∨ ArchiveTask.load ∈ t.failing

section
variable {h : History} {place : String}

theorem limits_attempt (t : HistoryAttempt) :
    (h.attempt t).savedLimit = h.savedLimit ∧ (h.attempt t).recentLimit = h.recentLimit :=
  limits_act t.act

theorem archive_act_eq_none_iff (a : HistoryAct) : (h.act a).archive = none ↔ h.archive = none := by
  unfold act
  split
  case h_4 =>
    rw [logRecent_eq]
    split
    · exact Option.map_eq_none_iff
    · rfl
  case h_5 => rfl
  all_goals exact Option.map_eq_none_iff

theorem archive_attempt_eq_none_iff (t : HistoryAttempt) :
    (h.attempt t).archive = none ↔ h.archive = none :=
  (archive_act_eq_none_iff t.act).trans Option.map_eq_none_iff

theorem seenAt_attempt_of_ne {t : HistoryAttempt} (hne : place ≠ t.act.place) :
    (h.attempt t).seenAt place = h.seenAt place :=
  seenAt_act_of_ne hne

theorem seenAt_attempt (t : HistoryAttempt) :
    (h.attempt t).seenAt t.act.place =
      (h.seenAt t.act.place).seenAfter h.savedLimit h.recentLimit (h.foundBy t) t.act.task :=
  seenAt_act t.act

/-- A load without an answer finds nothing. -/
theorem Unanswered.foundBy_eq {t : HistoryAttempt} (hanswer : h.Unanswered t) :
    h.foundBy t = .empty := by
  cases harchive : h.archive with
  | none => simp [foundBy, foundAt, withFailing, harchive]
  | some archive =>
    obtain hnone | hfails := hanswer
    · exact absurd (harchive.symm.trans hnone) (Option.some_ne_none archive)
    · simp [foundBy, foundAt, withFailing, harchive, Archive.load?, Archive.fails, hfails]

/-- What is no load, and a load without an answer, changes what is seen of its place as if there were
no archive. -/
theorem seenAt_attempt_unanswered {t : HistoryAttempt}
    (hload : t.act.task = .load → h.Unanswered t) :
    (h.attempt t).seenAt t.act.place =
      (h.seenAt t.act.place).seenAfter h.savedLimit h.recentLimit .empty t.act.task := by
  rw [seenAt_attempt]
  by_cases htask : t.act.task = .load
  · rw [(hload htask).foundBy_eq]
  · exact FilterLists.seenAfter_of_ne_load htask .empty

/-! ## Whole runs -/

/-- What is seen of a place after a run, if the archive never answers: every attempt at the place has
its effect on what is seen, and a load leaves nothing. -/
def seenAlone (h : History) (place : String) (attempts : List HistoryAttempt) : FilterLists :=
  attempts.foldl
    (fun l t =>
      if place = t.act.place then
        l.seenAfter h.savedLimit h.recentLimit .empty t.act.task
      else l)
    (h.seenAt place)

theorem seenAt_afterAttempts (place : String) (attempts : List HistoryAttempt)
    (hloads : ∀ t ∈ attempts, t.act.place = place → t.act.task = .load → h.Unanswered t) :
    (h.afterAttempts attempts).seenAt place = h.seenAlone place attempts := by
  induction attempts generalizing h with
  | nil => rfl
  | cons t rest ih =>
    have hlater : ∀ u ∈ rest, u.act.place = place → u.act.task = .load → (h.attempt t).Unanswered u :=
      fun u hu hplace htask =>
        (hloads u (List.mem_cons_of_mem _ hu) hplace htask).imp_left
          (archive_attempt_eq_none_iff t).mpr
    have hone : (h.attempt t).seenAt place =
        if place = t.act.place then
          (h.seenAt place).seenAfter h.savedLimit h.recentLimit .empty t.act.task
        else h.seenAt place := by
      split
      case isTrue hplace =>
        subst hplace
        exact seenAt_attempt_unanswered (hloads t List.mem_cons_self rfl)
      case isFalse hplace => exact seenAt_attempt_of_ne hplace
    rw [afterAttempts_cons, ih hlater, seenAlone, seenAlone, List.foldl_cons, hone,
      (limits_attempt t).1, (limits_attempt t).2]

/-- What is seen of a place and is not seen after a run was taken by one of its attempts. -/
theorem taken_by_an_attempt (ids : FilterLists → List String)
    (takes : History → HistoryAttempt → String → Prop) {id : String}
    (htaken : ∀ (h : History) (t : HistoryAttempt), id ∈ ids (h.seenAt t.act.place) →
      id ∉ ids ((h.attempt t).seenAt t.act.place) → takes h t id)
    (attempts : List HistoryAttempt) (hseen : id ∈ ids (h.seenAt place))
    (hgone : id ∉ ids ((h.afterAttempts attempts).seenAt place)) :
    ∃ before t rest, attempts = before ++ t :: rest ∧ t.act.place = place ∧
      id ∈ ids ((h.afterAttempts before).seenAt place) ∧ takes (h.afterAttempts before) t id := by
  induction attempts generalizing h with
  | nil => exact absurd hseen hgone
  | cons t rest ih =>
    by_cases hstill : id ∈ ids ((h.attempt t).seenAt place)
    · obtain ⟨before, u, after, rfl, hplace, hthere, htakes⟩ := ih hstill hgone
      exact ⟨t :: before, u, after, rfl, hplace, hthere, htakes⟩
    · by_cases hplace : place = t.act.place
      · subst hplace
        exact ⟨[], t, rest, rfl, rfl, hseen, htaken h t hseen hstill⟩
      · rw [seenAt_attempt_of_ne hplace] at hstill
        exact absurd hseen hstill

end

/-- Whether there is an archive or not, and whatever it fails to do. As long as no load of a place is
answered, every attempt has its effect on what is seen of the place and no other: a save puts its set
in front, a mark adds one to the count of its set, a deletion takes its set away, a use of filters is
noted if it is new, and a load leaves nothing. And in any run a set that is seen stays until it is
deleted, until one more set is put on a full list, or until a load does not find it. -/
theorem unanswered_calls_have_their_local_effect (h : History) (attempts : List HistoryAttempt)
    (connection collection : String) :
    let place := place connection collection
    ((∀ t ∈ attempts, t.act.place = place → t.act.task = .load → h.Unanswered t) →
      (h.afterAttempts attempts).lists connection collection = h.seenAlone place attempts) ∧
    (∀ id ∈ (h.lists connection collection).savedIds,
      id ∉ ((h.afterAttempts attempts).lists connection collection).savedIds →
      ∃ before t rest, attempts = before ++ t :: rest ∧ t.act.place = place ∧
        let earlier := h.afterAttempts before
        id ∈ (earlier.seenAt place).savedIds ∧
        (earlier.seenAt place).TakesSaved earlier.savedLimit (earlier.foundBy t) id t.act.task) ∧
    (∀ id ∈ (h.lists connection collection).recentIds,
      id ∉ ((h.afterAttempts attempts).lists connection collection).recentIds →
      ∃ before t rest, attempts = before ++ t :: rest ∧ t.act.place = place ∧
        let earlier := h.afterAttempts before
        id ∈ (earlier.seenAt place).recentIds ∧
        (earlier.seenAt place).TakesRecent earlier.recentLimit (earlier.foundBy t) id
          t.act.task) := by
  intro place
  refine ⟨seenAt_afterAttempts place attempts, fun id hseen hgone => ?_, fun id hseen hgone => ?_⟩
  · obtain ⟨before, t, rest, hrun, hplace, hthere, htakes⟩ :=
      taken_by_an_attempt FilterLists.savedIds
        (fun h t id =>
          (h.seenAt t.act.place).TakesSaved h.savedLimit (h.foundBy t) id t.act.task)
        (fun h t hseen hgone => FilterLists.takesSaved_of_gone hseen (seenAt_attempt t ▸ hgone))
        attempts hseen hgone
    rw [hplace] at htakes
    exact ⟨before, t, rest, hrun, hplace, hthere, htakes⟩
  · obtain ⟨before, t, rest, hrun, hplace, hthere, htakes⟩ :=
      taken_by_an_attempt FilterLists.recentIds
        (fun h t id =>
          (h.seenAt t.act.place).TakesRecent h.recentLimit (h.foundBy t) id t.act.task)
        (fun h t hseen hgone => FilterLists.takesRecent_of_gone hseen (seenAt_attempt t ▸ hgone))
        attempts hseen hgone
    rw [hplace] at htakes
    exact ⟨before, t, rest, hrun, hplace, hthere, htakes⟩

/-- Three sets are saved, the first one is marked and the second one deleted, while nothing is
answered. -/
def unansweredEdits : List HistoryAttempt :=
  [.save (.make "1" "a" "x" [] 0), .save (.make "2" "b" "y" [] 0), .save (.make "3" "c" "z" [] 0),
    .markApplied "1", .deleteSaved "2"].map (⟨ArchiveTask.all, ⟨"c", "n", ·⟩⟩)

/-- A user sees what was done, though the archive failed at all of it. -/
theorem unanswered_edits_are_seen :
    let h := start (some .empty) 20 30
    (∀ t ∈ unansweredEdits, t.act.place = place "c" "n" → t.act.task = .load → h.Unanswered t) ∧
    (h.afterAttempts unansweredEdits).lists "c" "n" = h.seenAlone (place "c" "n") unansweredEdits ∧
    (h.seenAlone (place "c" "n") unansweredEdits).saved.map (fun e => (e.id, e.applied)) =
      [("3", 0), ("1", 1)] := by
  intro h
  have hloads : ∀ t ∈ unansweredEdits, t.act.place = place "c" "n" → t.act.task = .load →
      h.Unanswered t := by
    intro t ht _ _
    obtain ⟨task, -, rfl⟩ := List.mem_map.mp ht
    exact .inr List.mem_cons_self
  exact ⟨hloads, (unanswered_calls_have_their_local_effect h unansweredEdits "c" "n").1 hloads,
    by decide +kernel⟩

/-- A set is saved, and the archive does not take it. -/
def untoldSave : HistoryAttempt := ⟨[.addSaved], ⟨"c", "n", .save (.make "1" "a" "x" [] 0)⟩⟩

/-- A load that an archive does not answer. -/
def failedLoad : HistoryAttempt := ⟨[.load], ⟨"c", "n", .load⟩⟩

/-- A set that was saved and is kept nowhere else is lost to a load without an answer: with no archive
at all, and with one that fails. -/
theorem unanswered_load_loses_what_is_seen :
    let alone := (start none 20 30).attempt untoldSave
    let failed := (start (some .empty) 20 30).attempt untoldSave
    (alone.lists "c" "n").savedIds = ["1"] ∧ alone.Unanswered failedLoad ∧
    ((alone.attempt failedLoad).lists "c" "n").savedIds = [] ∧
    (failed.lists "c" "n").savedIds = ["1"] ∧ failed.Unanswered failedLoad ∧
    ((failed.attempt failedLoad).lists "c" "n").savedIds = [] := by
  intro alone failed
  exact ⟨by decide +kernel, .inl rfl, by decide +kernel, by decide +kernel,
    .inr List.mem_cons_self, by decide +kernel⟩

end History

end Folio
