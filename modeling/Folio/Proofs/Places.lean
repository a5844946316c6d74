-- The places remembered filters belong to. A place is a connection and a collection put together with
-- a colon, so what is asked at one pair leaves the filters of another pair alone just when the two do
-- not read the same at some colon.
import Folio.Proofs.UnansweredCalls

namespace Folio

/-! ## Two pairs of ids that are one place -/

/-- The pairs are the same, or one goes over into the other when a colon of its collection is taken
for the one in the middle. -/
def OnePlace (connection collection other otherCollection : String) : Prop :=
  (connection = other ∧ collection = otherCollection) ∨
  (∃ between, other = History.place connection between ∧
    collection = History.place between otherCollection) ∨
  (∃ between, connection = History.place other between ∧
    otherCollection = History.place between collection)

namespace History

variable {connection collection other otherCollection : String}

theorem toList_place (connection collection : String) :
    (place connection collection).toList = connection.toList ++ ':' :: collection.toList := by
  simp [place, String.toList_append]

theorem place_assoc (connection between collection : String) :
    place (place connection between) collection = place connection (place between collection) := by
  simp only [place, String.append_assoc]

/-- Of two pairs that are put together to one text, the colon of one comes first. -/
theorem split_of_place {rest : List Char}
    (hfirst : other.toList = connection.toList ++ rest)
    (hsecond : ':' :: collection.toList = rest ++ ':' :: otherCollection.toList) :
    (connection = other ∧ collection = otherCollection) ∨
      ∃ between, other = place connection between ∧ collection = place between otherCollection := by
  cases rest with
  | nil =>
    rw [List.append_nil] at hfirst
    exact .inl ⟨(String.toList_injective hfirst).symm,
      String.toList_injective (List.cons.inj hsecond).2⟩
  | cons c between =>
    rw [List.cons_append] at hsecond
    obtain ⟨rfl, hcollection⟩ := List.cons.inj hsecond
    refine .inr ⟨String.ofList between, String.toList_injective ?_, String.toList_injective ?_⟩
    · rw [hfirst, toList_place, String.toList_ofList]
    · rw [hcollection, toList_place, String.toList_ofList]

theorem place_eq_iff :
    place connection collection = place other otherCollection ↔
      OnePlace connection collection other otherCollection := by
  constructor
  · intro heq
    have htexts := congrArg String.toList heq
    rw [toList_place, toList_place, List.append_eq_append_iff] at htexts
    rcases htexts with ⟨rest, hfirst, hsecond⟩ | ⟨rest, hfirst, hsecond⟩
    · exact (split_of_place hfirst hsecond).imp_right .inl
    · rcases split_of_place hfirst hsecond with ⟨rfl, rfl⟩ | hlonger
      · exact .inl ⟨rfl, rfl⟩
      · exact .inr (.inr hlonger)
  · rintro (⟨rfl, rfl⟩ | ⟨between, rfl, rfl⟩ | ⟨between, rfl, rfl⟩)
    · rfl
    · exact (place_assoc ..).symm
    · exact place_assoc ..

/-! ## What an archive keeps of other places -/

section
variable {h : History} {somewhere elsewhere : String}

theorem keptAt_withFailing (failing : List ArchiveTask) :
    (h.withFailing failing).keptAt elsewhere = h.keptAt elsewhere := by
  cases harchive : h.archive <;> simp [keptAt, withFailing, harchive]

theorem keptAt_attempt_of_ne {t : HistoryAttempt} (hne : elsewhere ≠ t.act.place) :
    (h.attempt t).keptAt elsewhere = h.keptAt elsewhere :=
  (keptAt_act_of_ne hne).trans (keptAt_withFailing t.failing)

end

/-! ## The law -/

/-- Whatever is done at the first pair, in any run and whatever the archive fails to do, neither what
is seen nor what is kept of the second pair changes. -/
def LeavesAlone (savedLimit recentLimit : Int)
    (connection collection other otherCollection : String) : Prop :=
  ∀ (before : List HistoryAttempt) (failing : List ArchiveTask) (task : HistoryTask),
    let h := (fresh savedLimit recentLimit).afterAttempts before
    let t := h.attempt ⟨failing, ⟨connection, collection, task⟩⟩
    t.saved other otherCollection = h.saved other otherCollection ∧
    t.recent other otherCollection = h.recent other otherCollection ∧
    t.kept other otherCollection = h.kept other otherCollection

/-- The first save of a run is kept. -/
theorem kept_after_save (savedLimit recentLimit : Int) (connection collection : String)
    (entry : SavedFilter) :
    ((fresh savedLimit recentLimit).attempt ⟨[], ⟨connection, collection, .save entry⟩⟩).keptAt
      (place connection collection) = ⟨[entry], []⟩ :=
  (sound_fresh savedLimit recentLimit).keptAt_act ⟨connection, collection, .save entry⟩

/-- What is done at one pair of a connection and a collection leaves another pair alone exactly when
the two are not one place. -/
theorem leaves_alone_iff (savedLimit recentLimit : Int)
    (connection collection other otherCollection : String) :
    LeavesAlone savedLimit recentLimit connection collection other otherCollection ↔
      ¬ OnePlace connection collection other otherCollection := by
  rw [← place_eq_iff]
  constructor
  · intro halone heq
    obtain ⟨-, -, hkept⟩ := halone [] [] (.save (.make "1" "" "" [] 0))
    have hsaved := kept_after_save savedLimit recentLimit connection collection
      (.make "1" "" "" [] 0)
    rw [heq] at hsaved
    exact List.cons_ne_nil _ _ (congrArg FilterLists.saved (hsaved.symm.trans hkept))
  · intro hne before failing task
    have hseen := seenAt_attempt_of_ne (h := (fresh savedLimit recentLimit).afterAttempts before)
      (t := ⟨failing, ⟨connection, collection, task⟩⟩) (Ne.symm hne)
    exact ⟨congrArg FilterLists.saved hseen, congrArg FilterLists.recent hseen,
      keptAt_attempt_of_ne (Ne.symm hne)⟩

/-- Two pairs that differ in both ids and are one place: what is saved at the first is seen at the
second. -/
theorem save_is_seen_elsewhere :
    let h := fresh 20 30
    let t := h.attempt ⟨[], ⟨"a", "b:c", .save (.make "1" "x" "q" [] 0)⟩⟩
    ("a", "b:c") ≠ ("a:b", "c") ∧ (h.saved "a:b" "c").map (·.id) = [] ∧
      (t.saved "a:b" "c").map (·.id) = ["1"] ∧ ¬ LeavesAlone 20 30 "a" "b:c" "a:b" "c" :=
  ⟨by decide, by decide +kernel, by decide +kernel,
    fun halone => absurd (congrArg List.length (halone [] [] (.save (.make "1" "x" "q" [] 0))).1)
      (by decide +kernel)⟩

end History

end Folio
