-- Runs of the remembered filters. What is asked at one place leaves every other place alone; at its
-- own place it changes what is seen and what the archive keeps by rules that need to know nothing
-- but these two.
import Mathlib.Data.List.Induction
import Folio.History.Log

namespace Folio

/-! ## What is asked -/

/-- What can be asked of the remembered filters of a place. -/
inductive HistoryTask where
  | save (entry : SavedFilter)
  | markApplied (id : String)
  | deleteSaved (id : String)
  | logRecent (entry : RecentFilter)
  | load

/-- Something asked of the remembered filters of one connection and collection. -/
structure HistoryAct where
  connection : String
  collection : String
  task : HistoryTask

def HistoryAct.place (a : HistoryAct) : String := History.place a.connection a.collection

namespace History

/-- The remembered filters after something was asked of them. -/
def act (h : History) (a : HistoryAct) : History :=
  match a.task with
  | .save entry => h.save a.connection a.collection entry
  | .markApplied id => h.markApplied a.connection a.collection id
  | .deleteSaved id => (h.deleteSaved a.connection a.collection id).1
  | .logRecent entry => (h.logRecent a.connection a.collection entry).1
  | .load => h.load a.connection a.collection

/-- The remembered filters after a run. -/
def after (h : History) (acts : List HistoryAct) : History := acts.foldl act h

@[simp] theorem after_nil (h : History) : h.after [] = h := rfl

@[simp] theorem after_cons (h : History) (a : HistoryAct) (acts : List HistoryAct) :
    h.after (a :: acts) = (h.act a).after acts := rfl

theorem after_append (h : History) (before rest : List HistoryAct) :
    h.after (before ++ rest) = (h.after before).after rest := List.foldl_append ..

end History

/-! ## The rules of a place -/

namespace FilterLists

/-- Whether a set in use is noted: it is not empty, and not among those that are seen. -/
def notes (l : FilterLists) (entry : RecentFilter) : Bool :=
  !(entry.searchText == "" && entry.predicates.isEmpty) &&
    !l.recent.any (·.holds entry.searchText entry.predicates)

/-- What is seen of a place after a task; `found` is what a load finds. -/
def seenAfter (savedLimit recentLimit : Int) (l found : FilterLists) : HistoryTask → FilterLists
  | .save entry => { l with saved := Folio.upTo savedLimit (entry :: l.saved) }
  | .markApplied id => l.countApplied id
  | .deleteSaved id => l.deleteSaved id
  | .logRecent entry =>
    if l.notes entry then { l with recent := Folio.upTo recentLimit (entry :: l.recent) } else l
  | .load => found.upTo savedLimit recentLimit

/-- What an archive that does not fail keeps of a place after a task. -/
def keptAfter (l seen : FilterLists) : HistoryTask → FilterLists
  | .save entry => l.addSaved entry
  | .markApplied id => l.countApplied id
  | .deleteSaved id => l.deleteSaved id
  | .logRecent entry => if seen.notes entry then l.addRecent entry else l
  | .load => l

end FilterLists

namespace History

/-- What is seen of a place. -/
def seenAt (h : History) (place : String) : FilterLists := h.shelf.get place

theorem lists_eq_seenAt (h : History) (connection collection : String) :
    h.lists connection collection = h.seenAt (place connection collection) := rfl

/-- What the archive keeps of a place. -/
def keptAt (h : History) (place : String) : FilterLists :=
  (h.archive.map (·.shelf.get place)).getD .empty

/-- What the archive keeps for a connection and a collection. -/
def kept (h : History) (connection collection : String) : FilterLists :=
  h.keptAt (place connection collection)

/-- What a load of a place finds; without an answer it finds nothing. -/
def foundAt (h : History) (place : String) : FilterLists :=
  (h.archive.bind (·.load? place)).getD .empty

theorem logRecent_eq (h : History) (connection collection : String) (entry : RecentFilter) :
    h.logRecent connection collection entry =
      if (h.lists connection collection).notes entry then
        (h.change .addRecent (place connection collection)
          (fun l => { l with recent := upTo h.recentLimit (entry :: l.recent) })
          (·.addRecent entry), some entry)
      else (h, none) := by
  unfold logRecent FilterLists.notes recent
  cases entry.searchText == "" && entry.predicates.isEmpty
  · cases (h.lists connection collection).recent.any (·.holds entry.searchText entry.predicates)
      <;> rfl
  · rfl

section
variable {h : History} {place : String}

@[simp] theorem seenAt_change_self (task : ArchiveTask) (seen kept : FilterLists → FilterLists) :
    (h.change task place seen kept).seenAt place = seen (h.seenAt place) :=
  FilterShelf.get_update_self ..

theorem seenAt_change_of_ne {other : String} (task : ArchiveTask)
    (seen kept : FilterLists → FilterLists) (hne : place ≠ other) :
    (h.change task other seen kept).seenAt place = h.seenAt place :=
  FilterShelf.get_update_of_ne _ _ hne

/-- Nothing that is asked changes the limits. -/
theorem limits_act (a : HistoryAct) :
    (h.act a).savedLimit = h.savedLimit ∧ (h.act a).recentLimit = h.recentLimit := by
  unfold act
  split
  case h_4 =>
    rw [logRecent_eq]
    split <;> exact ⟨rfl, rfl⟩
  all_goals exact ⟨rfl, rfl⟩

theorem seenAt_act_of_ne {a : HistoryAct} (hne : place ≠ a.place) :
    (h.act a).seenAt place = h.seenAt place := by
  unfold act
  split
  case h_4 =>
    rw [logRecent_eq]
    split
    · exact seenAt_change_of_ne _ _ _ hne
    · rfl
  case h_5 => exact FilterShelf.get_put_of_ne _ _ hne
  all_goals exact seenAt_change_of_ne _ _ _ hne

theorem keptAt_change_of_ne {other : String} (task : ArchiveTask)
    (seen kept : FilterLists → FilterLists) (hne : place ≠ other) :
    (h.change task other seen kept).keptAt place = h.keptAt place := by
  cases harchive : h.archive with
  | none => simp [keptAt, History.change, harchive]
  | some archive =>
    simp only [keptAt, History.change, harchive, Option.map_some, Archive.change]
    split
    · rfl
    · rw [FilterShelf.get_update_of_ne _ _ hne]

/-- Whatever the archive fails to do, what is asked of one place changes nothing it keeps of
another. -/
theorem keptAt_act_of_ne {a : HistoryAct} (hne : place ≠ a.place) :
    (h.act a).keptAt place = h.keptAt place := by
  unfold act
  split
  case h_4 =>
    rw [logRecent_eq]
    split
    · exact keptAt_change_of_ne _ _ _ hne
    · rfl
  case h_5 => rfl
  all_goals exact keptAt_change_of_ne _ _ _ hne

/-- What is asked of a place changes what is seen of it by the rule of the task. -/
theorem seenAt_act (a : HistoryAct) :
    (h.act a).seenAt a.place =
      (h.seenAt a.place).seenAfter h.savedLimit h.recentLimit (h.foundAt a.place) a.task := by
  unfold act
  split <;> rename_i heq <;> rw [heq]
  case h_4 =>
    rw [logRecent_eq, lists_eq_seenAt, FilterLists.seenAfter, HistoryAct.place]
    split
    · exact seenAt_change_self ..
    · rfl
  case h_5 => exact FilterShelf.get_put_self ..
  all_goals exact seenAt_change_self ..

end

/-! ## An archive that does not fail -/

/-- There is an archive, and it does not fail. -/
def Sound (h : History) : Prop := ∃ archive, h.archive = some archive ∧ archive.failing = []

section
variable {h : History} {place : String}

theorem Sound.foundAt_eq (hsound : h.Sound) : h.foundAt place = h.keptAt place := by
  obtain ⟨archive, harchive, hfailing⟩ := hsound
  simp [foundAt, keptAt, harchive, Archive.load?, Archive.fails, hfailing]

theorem Sound.change (hsound : h.Sound) (task : ArchiveTask) (other : String)
    (seen kept : FilterLists → FilterLists) : (h.change task other seen kept).Sound := by
  obtain ⟨archive, harchive, hfailing⟩ := hsound
  refine ⟨archive.change task other kept, by simp [History.change, harchive], ?_⟩
  simp [Archive.change, Archive.fails, hfailing]

theorem Sound.keptAt_change_self (hsound : h.Sound) (task : ArchiveTask)
    (seen kept : FilterLists → FilterLists) :
    (h.change task place seen kept).keptAt place = kept (h.keptAt place) := by
  obtain ⟨archive, harchive, hfailing⟩ := hsound
  simp [keptAt, History.change, harchive, Archive.change, Archive.fails, hfailing]

theorem Sound.act (hsound : h.Sound) (a : HistoryAct) : (h.act a).Sound := by
  unfold History.act
  split
  case h_4 =>
    rw [logRecent_eq]
    split
    · exact hsound.change ..
    · exact hsound
  case h_5 => exact hsound
  all_goals exact hsound.change ..

/-- What is asked of a place changes what is kept of it by the rule of the task. -/
theorem Sound.keptAt_act (hsound : h.Sound) (a : HistoryAct) :
    (h.act a).keptAt a.place = (h.keptAt a.place).keptAfter (h.seenAt a.place) a.task := by
  unfold History.act
  split <;> rename_i heq <;> rw [heq]
  case h_4 =>
    rw [logRecent_eq, lists_eq_seenAt, FilterLists.keptAfter, HistoryAct.place]
    split
    · exact hsound.keptAt_change_self ..
    · rfl
  case h_5 => rfl
  all_goals exact hsound.keptAt_change_self ..

end

/-! ## Runs from an empty archive -/

section
variable (savedLimit recentLimit : Int)

/-- The remembered filters of a browser that begins with an empty archive. -/
def fresh (savedLimit recentLimit : Int) : History := .start (some .empty) savedLimit recentLimit

theorem sound_fresh : (fresh savedLimit recentLimit).Sound := ⟨.empty, rfl, rfl⟩

theorem Sound.after {h : History} (hsound : h.Sound) (acts : List HistoryAct) :
    (h.after acts).Sound := by
  induction acts generalizing h with
  | nil => exact hsound
  | cons a rest ih => exact ih (hsound.act a)

theorem limits_after (h : History) (acts : List HistoryAct) :
    (h.after acts).savedLimit = h.savedLimit ∧ (h.after acts).recentLimit = h.recentLimit := by
  induction acts generalizing h with
  | nil => exact ⟨rfl, rfl⟩
  | cons a rest ih => exact ⟨(ih _).1.trans (limits_act a).1, (ih _).2.trans (limits_act a).2⟩

/-- What holds of what is seen and what is kept of a place when there is nothing, and is kept by the
rules of every task, holds after every run. -/
theorem seen_and_kept_after {R : FilterLists → FilterLists → Prop} (hempty : R .empty .empty)
    (htask : ∀ seen kept task, R seen kept →
      R (seen.seenAfter savedLimit recentLimit kept task) (kept.keptAfter seen task))
    (acts : List HistoryAct) (place : String) :
    R (((fresh savedLimit recentLimit).after acts).seenAt place)
      (((fresh savedLimit recentLimit).after acts).keptAt place) := by
  induction acts using List.reverseRecOn with
  | nil => exact hempty
  | append_singleton acts a ih =>
    rw [after_append]
    have hsound := (sound_fresh savedLimit recentLimit).after acts
    have hlimits := limits_after (fresh savedLimit recentLimit) acts
    by_cases hplace : place = a.place
    · subst hplace
      rw [after_cons, after_nil, seenAt_act, hsound.keptAt_act, hsound.foundAt_eq, hlimits.1,
        hlimits.2]
      exact htask _ _ _ ih
    · rwa [after_cons, after_nil, seenAt_act_of_ne hplace, keptAt_act_of_ne hplace]

end

end History

end Folio
