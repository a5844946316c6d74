-- How long a saved set lasts. It stands behind the sets that were saved after it. As long as these
-- are fewer than the limit it is among those that are seen, whatever is loaded, counted or deleted
-- beside it, and the archive keeps it with the same count.
import Folio.Proofs.HistoryRuns

namespace Folio

/-! ## Tasks -/

namespace HistoryTask

/-- Sets come or go by the task. -/
def edits : HistoryTask → Bool
  | save _ | deleteSaved _ => true
  | _ => false

/-- A set is saved by the task. -/
def saves : HistoryTask → Bool
  | save _ => true
  | _ => false

/-- The sets with an id are deleted by the task. -/
def deletes (id : String) : HistoryTask → Bool
  | deleteSaved other => other == id
  | _ => false

/-- The task neither deletes the sets with an id nor saves another one with that id. -/
def Spares (id : String) : HistoryTask → Prop
  | save entry => entry.id ≠ id
  | deleteSaved other => other ≠ id
  | _ => True

theorem spares_of_edits {task : HistoryTask} (h : task.edits = false) (id : String) :
    task.Spares id := by cases task <;> trivial

theorem edits_of_saves {task : HistoryTask} (h : task.saves = true) : task.edits = true := by
  cases task <;> trivial

end HistoryTask

/-- How many sets are saved at a place in the course of a run. -/
def savesAt (place : String) (acts : List HistoryAct) : Nat :=
  acts.countP fun a => place == a.place && a.task.saves

theorem savesAt_snoc (place : String) (acts : List HistoryAct) (a : HistoryAct) :
    savesAt place (acts ++ [a]) = savesAt place acts + (place == a.place && a.task.saves).toNat := by
  unfold savesAt
  rw [List.countP_append, List.countP_singleton]
  cases place == a.place && a.task.saves <;> rfl

/-- Only tasks by which sets come or go have to be looked at. -/
theorem savesAt_filter_edits (place : String) (acts : List HistoryAct) :
    savesAt place (acts.filter (·.task.edits)) = savesAt place acts := by
  unfold savesAt
  rw [List.countP_filter]
  refine List.countP_congr fun a _ => ?_
  simp only [Bool.and_eq_true]
  exact ⟨fun h => h.1, fun h => ⟨h, HistoryTask.edits_of_saves h.2⟩⟩

/-! ## Where a set stands -/

/-- The set, however often it has been applied. -/
def SavedFilter.IsCopyOf (x e : SavedFilter) : Prop := x = { e with applied := x.applied }

/-- A set stands behind at most so many newer ones, none of which has its id. -/
structure StandsBehind (n : Nat) (x : SavedFilter) (newer saved : List SavedFilter) : Prop where
  front : newer ++ [x] <+: saved
  few : newer.length ≤ n
  others : ∀ y ∈ newer, y.id ≠ x.id

/-- A saved set is seen and kept, with one count, behind at most so many newer ones. -/
def Lasts (n : Nat) (e : SavedFilter) (seen kept : FilterLists) : Prop :=
  ∃ x newer, x.IsCopyOf e ∧ StandsBehind n x newer seen.saved ∧ StandsBehind n x newer kept.saved

section

variable {n : Nat} {e x : SavedFilter} {newer all : List SavedFilter} {limit recentLimit : Int}
  {seen kept : FilterLists}

/-- A set that is counted keeps its id. -/
theorem SavedFilter.id_counted (y : SavedFilter) (id : String) :
    (if y.id == id then { y with applied := y.applied + 1 } else y).id = y.id := by
  split <;> rfl

namespace StandsBehind

/-- The first set with the id is the one that is looked for. -/
theorem find? (h : StandsBehind n x newer all) : all.find? (·.id == x.id) = some x := by
  obtain ⟨rest, rfl⟩ := h.front
  have hnone : newer.find? (·.id == x.id) = none := by
    simpa using h.others
  rw [List.append_assoc, List.find?_append, hnone]
  simp

theorem upTo (h : StandsBehind n x newer all) (hroom : n < limit) :
    StandsBehind n x newer (Folio.upTo limit all) := by
  refine ⟨?_, h.few, h.others⟩
  rw [upTo_of_nonneg (by omega)]
  refine List.prefix_take_iff.mpr ⟨h.front, ?_⟩
  have := h.few
  rw [List.length_append, List.length_singleton]
  omega

theorem cons {entry : SavedFilter} (h : StandsBehind n x newer all) (hother : entry.id ≠ x.id) :
    StandsBehind (n + 1) x (entry :: newer) (entry :: all) := by
  refine ⟨List.cons_prefix_cons.mpr ⟨rfl, h.front⟩, Nat.succ_le_succ h.few, fun y hy => ?_⟩
  rcases List.mem_cons.mp hy with rfl | hy
  · exact hother
  · exact h.others y hy

/-- The sets are changed one by one, and keep their ids. -/
theorem map {f : SavedFilter → SavedFilter} (h : StandsBehind n x newer all)
    (hf : ∀ y, (f y).id = y.id) : StandsBehind n (f x) (newer.map f) (all.map f) := by
  refine ⟨by simpa using h.front.map f, by simpa using h.few, fun y hy => ?_⟩
  obtain ⟨z, hz, rfl⟩ := List.mem_map.mp hy
  rw [hf, hf]
  exact h.others z hz

theorem filter {p : SavedFilter → Bool} (h : StandsBehind n x newer all) (hx : p x = true) :
    StandsBehind n x (newer.filter p) (all.filter p) := by
  refine ⟨?_, Nat.le_trans (List.length_filter_le ..) h.few, fun y hy => ?_⟩
  · simpa [List.filter_append, hx] using h.front.filter p
  · exact h.others y (List.mem_filter.mp hy).1

/-- The set is found with one more when it is counted. -/
theorem counted {l : FilterLists} (h : StandsBehind n x newer l.saved) :
    (l.countApplied x.id).saved.find? (·.id == x.id) = some { x with applied := x.applied + 1 } := by
  have hfound := (h.map (·.id_counted x.id)).find?
  rwa [beq_self_eq_true, if_pos rfl] at hfound

end StandsBehind

/-- A set that was applied once more is still the set. -/
theorem SavedFilter.IsCopyOf.applied (h : x.IsCopyOf e) (n : Int) :
    ({ x with applied := n } : SavedFilter).IsCopyOf e := by
  unfold SavedFilter.IsCopyOf at h ⊢
  rw [h]

namespace Lasts

/-- A set is the first of all when it has just been saved. -/
theorem saved (hroom : 0 < limit) (e : SavedFilter) (seen kept : FilterLists) :
    Lasts 0 e { seen with saved := Folio.upTo limit (e :: seen.saved) } (kept.addSaved e) := by
  have hfirst : ∀ all, StandsBehind 0 e [] (e :: all) := fun all =>
    ⟨List.cons_prefix_cons.mpr ⟨rfl, List.nil_prefix⟩, Nat.le_refl 0, fun _ h => by cases h⟩
  exact ⟨e, [], rfl, (hfirst _).upTo hroom, hfirst _⟩

/-- By every task that spares it the set lasts, as long as there is room for it. -/
theorem task (h : Lasts n e seen kept) (task : HistoryTask) (hspares : task.Spares e.id)
    (hroom : n + task.saves.toNat < limit) :
    Lasts (n + task.saves.toNat) e (seen.seenAfter limit recentLimit kept task)
      (kept.keptAfter seen task) := by
  obtain ⟨x, newer, hcopy, hseen, hkept⟩ := h
  have hid : x.id = e.id := by rw [hcopy]
  cases task with
  | save entry =>
    have hother : entry.id ≠ x.id := hid ▸ hspares
    exact ⟨x, entry :: newer, hcopy, (hseen.cons hother).upTo hroom, hkept.cons hother⟩
  | markApplied id =>
    refine ⟨_, _, ?_, hseen.map (·.id_counted id), hkept.map (·.id_counted id)⟩
    split
    · exact hcopy.applied _
    · exact hcopy
  | deleteSaved id =>
    have hstays : (x.id != id) = true := by
      rw [hid]
      exact bne_iff_ne.mpr (Ne.symm hspares)
    exact ⟨x, _, hcopy, hseen.filter hstays, hkept.filter hstays⟩
  | logRecent entry =>
    rw [FilterLists.seenAfter, FilterLists.keptAfter]
    split <;> exact ⟨x, newer, hcopy, hseen, hkept⟩
  | load => exact ⟨x, newer, hcopy, hkept.upTo hroom, hkept⟩

end Lasts

end

namespace History

variable {h : History} {place : String} {e : SavedFilter}

/-- A set lasts through a run that spares it, as long as fewer sets are saved at its place than the
limit allows. -/
theorem Sound.lasts_after (hsound : h.Sound) (acts : List HistoryAct)
    (hlasts : Lasts 0 e (h.seenAt place) (h.keptAt place))
    (hspares : ∀ a ∈ acts, a.place = place → a.task.Spares e.id)
    (hroom : (savesAt place acts : Int) < h.savedLimit) :
    Lasts (savesAt place acts) e ((h.after acts).seenAt place) ((h.after acts).keptAt place) := by
  induction acts using List.reverseRecOn with
  | nil => exact hlasts
  | append_singleton acts a ih =>
    rw [savesAt_snoc] at hroom ⊢
    have hbefore := ih (fun b hb => hspares b (List.mem_append_left _ hb)) (by omega)
    have hsound' := hsound.after acts
    have hlimits := limits_after h acts
    rw [after_append, after_cons, after_nil]
    by_cases hplace : place = a.place
    · subst hplace
      rw [beq_self_eq_true, Bool.true_and] at hroom ⊢
      rw [seenAt_act, hsound'.keptAt_act, hsound'.foundAt_eq, hlimits.1, hlimits.2]
      exact hbefore.task a.task (hspares a (by simp) rfl) (by exact_mod_cast hroom)
    · rw [beq_eq_false_iff_ne.mpr hplace, Bool.false_and]
      rwa [seenAt_act_of_ne hplace, keptAt_act_of_ne hplace]

end History

end Folio
