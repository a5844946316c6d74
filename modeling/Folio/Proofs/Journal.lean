-- What the journal tells. At any time it tells whether a load is shown and whether one is owed, and
-- it can be read for the loads that answer for that; a load that was broken off or forgotten does
-- so no longer, and what it had left is there still.
import Folio.Session.Basic

namespace Folio

/-! ## What holds throughout -/

/-- Every event of a journal has a property that depends on what was noted before it. -/
def Throughout (P : List LoadEvent → LoadEvent → Prop) (journal : List LoadEvent) : Prop :=
  ∀ before event after, journal = before ++ event :: after → P before event

namespace Throughout

variable {P : List LoadEvent → LoadEvent → Prop} {journal events : List LoadEvent} {event : LoadEvent}

theorem nil : Throughout P [] := fun before event after h => by simp at h

theorem note (h : Throughout P journal) (hevent : P journal event) :
    Throughout P (journal ++ [event]) := by
  intro before other after hjournal
  rcases List.eq_nil_or_concat after with rfl | ⟨others, last, rfl⟩
  · obtain ⟨rfl, hlast⟩ := List.append_inj' hjournal rfl
    obtain ⟨rfl, -⟩ := List.cons.inj hlast
    exact hevent
  · rw [List.concat_eq_append, ← List.cons_append, ← List.append_assoc] at hjournal
    obtain ⟨hsame, -⟩ := List.append_inj' hjournal rfl
    exact h before other others hsame

/-- An event of a journal, with what was noted before it. -/
theorem of_mem (h : Throughout P journal) (hmem : event ∈ journal) :
    ∃ before after, journal = before ++ event :: after ∧ P before event := by
  obtain ⟨before, after, hjournal⟩ := List.append_of_mem hmem
  exact ⟨before, after, hjournal, h before event after hjournal⟩

theorem earlier (h : Throughout P (journal ++ events)) : Throughout P journal := by
  intro before event after hjournal
  subst hjournal
  exact h before event (after ++ events) (by simp)

/-- Events that have the property whatever was noted before. -/
theorem append (h : Throughout P journal) (hevents : ∀ event ∈ events, ∀ before, P before event) :
    Throughout P (journal ++ events) := by
  induction events generalizing journal with
  | nil => rwa [List.append_nil]
  | cons event rest ih =>
    rw [List.append_cons]
    exact ih (h.note (hevents event List.mem_cons_self journal))
      fun other hother => hevents other (List.mem_cons_of_mem _ hother)

end Throughout

/-! ## What is shown and what is owed -/

namespace LoadEvent

/-- Whether no load is shown any longer with an event. -/
def hides : LoadEvent → Bool
  | ended _ | selected _ | troubled => true
  | _ => false

/-- Whether no reload is owed any longer with an event. -/
def relieves : LoadEvent → Bool
  | takenUp | selected _ => true
  | _ => false

/-- Whether an event has no bearing on what is shown and what is owed. -/
def isAside : LoadEvent → Bool
  | begun _ | ended _ | putOff _ | takenUp | selected _ | troubled => false
  | _ => true

/-- Whether a load is shown after an event. -/
def showsLoad (shown : Bool) : LoadEvent → Bool
  | begun _ => true
  | event => shown && !event.hides

/-- Whether a reload is owed after an event. -/
def owesLoad (owed : Bool) : LoadEvent → Bool
  | putOff _ => true
  | event => owed && !event.relieves

end LoadEvent

/-- Whether a load is shown, as the journal tells it. -/
def showsLoad (journal : List LoadEvent) : Bool := journal.foldl LoadEvent.showsLoad false

/-- Whether a reload is owed, as the journal tells it. -/
def owesLoad (journal : List LoadEvent) : Bool := journal.foldl LoadEvent.owesLoad false

/-- A load was broken off, or forgotten. -/
def Lost (load : Load) (events : List LoadEvent) : Prop :=
  .broken load ∈ events ∨ .dropped load ∈ events

/-- A load that was lost is shown still. -/
def Stranded (journal : List LoadEvent) : Prop :=
  ∃ before load after, journal = before ++ .begun load :: after ∧
    (∀ event ∈ after, event.hides = false) ∧ Lost load after

/-- A reload is owed still that was put off behind loads which were all lost. -/
def Forsaken (journal : List LoadEvent) : Prop :=
  ∃ before behind after, journal = before ++ .putOff behind :: after ∧
    (∀ event ∈ after, event.relieves = false) ∧ ∀ load ∈ behind, Lost load after

section

variable (journal : List LoadEvent) (event : LoadEvent)

@[simp] theorem showsLoad_note : showsLoad (journal ++ [event]) =
    event.showsLoad (showsLoad journal) := by
  unfold showsLoad
  rw [List.foldl_append]
  rfl

@[simp] theorem owesLoad_note : owesLoad (journal ++ [event]) =
    event.owesLoad (owesLoad journal) := by
  unfold owesLoad
  rw [List.foldl_append]
  rfl

theorem showsLoad_hidden (h : event.hides = true) :
    showsLoad (journal ++ [event]) = false := by
  rw [showsLoad_note]
  cases event <;> simp_all [LoadEvent.hides, LoadEvent.showsLoad]

theorem owesLoad_relieved (h : event.relieves = true) :
    owesLoad (journal ++ [event]) = false := by
  rw [owesLoad_note]
  cases event <;> simp_all [LoadEvent.relieves, LoadEvent.owesLoad]

end

section

variable (journal : List LoadEvent) {events : List LoadEvent}
  (haside : ∀ event ∈ events, event.isAside = true)

include haside

theorem showsLoad_aside : showsLoad (journal ++ events) = showsLoad journal := by
  induction events generalizing journal with
  | nil => rw [List.append_nil]
  | cons event rest ih =>
    have hevent := haside event List.mem_cons_self
    rw [List.append_cons, ih _ fun e he => haside e (List.mem_cons_of_mem _ he), showsLoad_note]
    cases event with
    | begun _ | ended _ | putOff _ | takenUp | selected _ | troubled => cases hevent
    | _ => exact Bool.and_true _

theorem owesLoad_aside : owesLoad (journal ++ events) = owesLoad journal := by
  induction events generalizing journal with
  | nil => rw [List.append_nil]
  | cons event rest ih =>
    have hevent := haside event List.mem_cons_self
    rw [List.append_cons, ih _ fun e he => haside e (List.mem_cons_of_mem _ he), owesLoad_note]
    cases event with
    | begun _ | ended _ | putOff _ | takenUp | selected _ | troubled => cases hevent
    | _ => exact Bool.and_true _

omit journal in
theorem hides_of_aside {event : LoadEvent} (hmem : event ∈ events) :
    event.hides = false ∧ event.relieves = false := by
  have hevent := haside event hmem
  cases event with
  | begun _ | ended _ | putOff _ | takenUp | selected _ | troubled => cases hevent
  | _ => exact ⟨rfl, rfl⟩

end

/-! ## Loads that answer for it -/

variable {among others : Load → Prop} {journal events : List LoadEvent}

/-- A load is shown still that is among some loads, or was lost. -/
def ShownFor (among : Load → Prop) (journal : List LoadEvent) : Prop :=
  ∃ before load after, journal = before ++ .begun load :: after ∧
    (∀ event ∈ after, event.hides = false) ∧ (among load ∨ Lost load after)

/-- A reload is owed still that was put off behind loads each of which is among some loads, or was
lost. -/
def OwedFor (among : Load → Prop) (journal : List LoadEvent) : Prop :=
  ∃ before behind after, journal = before ++ .putOff behind :: after ∧
    (∀ event ∈ after, event.relieves = false) ∧ ∀ load ∈ behind, among load ∨ Lost load after

theorem Lost.append_left {load : Load} (h : Lost load journal) (events : List LoadEvent) :
    Lost load (journal ++ events) :=
  h.imp (List.mem_append_left events) (List.mem_append_left events)

theorem Lost.append_right {load : Load} (h : Lost load events) (journal : List LoadEvent) :
    Lost load (journal ++ events) :=
  h.imp (List.mem_append_right journal) (List.mem_append_right journal)

theorem ShownFor.append (h : ShownFor among journal) (hides : ∀ event ∈ events, event.hides = false)
    (keep : ∀ load, among load → others load ∨ Lost load events) :
    ShownFor others (journal ++ events) := by
  obtain ⟨before, load, after, rfl, hafter, hload⟩ := h
  refine ⟨before, load, after ++ events, by simp, ?_, ?_⟩
  · intro event hevent
    exact (List.mem_append.mp hevent).elim (hafter event) (hides event)
  · rcases hload with hamong | hlost
    · exact (keep load hamong).imp_right (·.append_right after)
    · exact Or.inr (hlost.append_left events)

theorem OwedFor.append (h : OwedFor among journal)
    (relieves : ∀ event ∈ events, event.relieves = false)
    (keep : ∀ load, among load → others load ∨ Lost load events) :
    OwedFor others (journal ++ events) := by
  obtain ⟨before, behind, after, rfl, hafter, hbehind⟩ := h
  refine ⟨before, behind, after ++ events, by simp, ?_, ?_⟩
  · intro event hevent
    exact (List.mem_append.mp hevent).elim (hafter event) (relieves event)
  · intro load hload
    rcases hbehind load hload with hamong | hlost
    · exact (keep load hamong).imp_right (·.append_right after)
    · exact Or.inr (hlost.append_left events)

/-- What is shown stays so up to an event that hides it. -/
theorem foldl_showsLoad (h : ∀ event ∈ events, event.hides = false) :
    events.foldl LoadEvent.showsLoad true = true := by
  induction events with
  | nil => rfl
  | cons event rest ih =>
    have hevent : event.showsLoad true = true := by
      cases event with
      | begun load => rfl
      | _ => simp [LoadEvent.showsLoad, h]
    rw [List.foldl_cons, hevent]
    exact ih fun e he => h e (List.mem_cons_of_mem event he)

/-- What is owed stays so up to an event that relieves of it. -/
theorem foldl_owesLoad (h : ∀ event ∈ events, event.relieves = false) :
    events.foldl LoadEvent.owesLoad true = true := by
  induction events with
  | nil => rfl
  | cons event rest ih =>
    have hevent : event.owesLoad true = true := by
      cases event with
      | putOff behind => rfl
      | _ => simp [LoadEvent.owesLoad, h]
    rw [List.foldl_cons, hevent]
    exact ih fun e he => h e (List.mem_cons_of_mem event he)

theorem ShownFor.shows (h : ShownFor among journal) : showsLoad journal = true := by
  obtain ⟨before, load, after, rfl, hafter, -⟩ := h
  unfold showsLoad
  rw [List.foldl_append, List.foldl_cons]
  exact foldl_showsLoad hafter

theorem OwedFor.owes (h : OwedFor among journal) : owesLoad journal = true := by
  obtain ⟨before, behind, after, rfl, hafter, -⟩ := h
  unfold owesLoad
  rw [List.foldl_append, List.foldl_cons]
  exact foldl_owesLoad hafter

/-! ## Journals that account for everything -/

/-- What is shown and what is owed is accounted for by some loads. -/
structure Accounted (among : Load → Prop) (journal : List LoadEvent) : Prop where
  shown : showsLoad journal = true → ShownFor among journal
  owed : owesLoad journal = true → OwedFor among journal

namespace Accounted

/-- Where nothing is shown and nothing is owed there is nothing to account for. -/
theorem nothing (shown : showsLoad journal = false) (owed : owesLoad journal = false) :
    Accounted among journal :=
  ⟨fun h => absurd (shown.symm.trans h) (by decide), fun h => absurd (owed.symm.trans h) (by decide)⟩

theorem mono (h : Accounted among journal) (keep : ∀ load, among load → others load) :
    Accounted others journal := by
  refine ⟨fun hshown => ?_, fun howed => ?_⟩
  · rw [← List.append_nil journal]
    exact (h.shown hshown).append (by simp) fun load hload => Or.inl (keep load hload)
  · rw [← List.append_nil journal]
    exact (h.owed howed).append (by simp) fun load hload => Or.inl (keep load hload)

/-- One more event is noted. The load that begins with it has to be among those that account for
what is shown, and so do the loads behind which a reload is put off. -/
theorem note (h : Accounted among journal) (event : LoadEvent)
    (keep : ∀ load, among load → others load ∨ Lost load [event])
    (begun : ∀ load, event = .begun load → others load)
    (putOff : ∀ behind, event = .putOff behind → ∀ load ∈ behind, others load) :
    Accounted others (journal ++ [event]) := by
  refine ⟨fun hshown => ?_, fun howed => ?_⟩
  · rw [showsLoad_note] at hshown
    by_cases hbegun : ∃ load, event = .begun load
    · obtain ⟨load, rfl⟩ := hbegun
      exact ⟨journal, load, [], rfl, by simp, Or.inl (begun load rfl)⟩
    · have hand : showsLoad journal = true ∧ event.hides = false := by
        cases event with
        | begun load => exact absurd ⟨load, rfl⟩ hbegun
        | _ => simpa [LoadEvent.showsLoad] using hshown
      refine (h.shown hand.1).append (fun e he => ?_) keep
      rw [List.mem_singleton.mp he]
      exact hand.2
  · rw [owesLoad_note] at howed
    by_cases hput : ∃ behind, event = .putOff behind
    · obtain ⟨behind, rfl⟩ := hput
      exact ⟨journal, behind, [], rfl, by simp,
        fun load hload => Or.inl (putOff behind rfl load hload)⟩
    · have hand : owesLoad journal = true ∧ event.relieves = false := by
        cases event with
        | putOff behind => exact absurd ⟨behind, rfl⟩ hput
        | _ => simpa [LoadEvent.owesLoad] using howed
      refine (h.owed hand.1).append (fun e he => ?_) keep
      rw [List.mem_singleton.mp he]
      exact hand.2

/-- What is noted has no bearing on what is shown and owed, but some loads may be lost. -/
theorem aside (h : Accounted among journal) (haside : ∀ event ∈ events, event.isAside = true)
    (keep : ∀ load, among load → others load ∨ Lost load events) :
    Accounted others (journal ++ events) := by
  refine ⟨fun hshown => ?_, fun howed => ?_⟩
  · rw [showsLoad_aside journal haside] at hshown
    exact (h.shown hshown).append (fun _ hmem => (hides_of_aside haside hmem).1) keep
  · rw [owesLoad_aside journal haside] at howed
    exact (h.owed howed).append (fun _ hmem => (hides_of_aside haside hmem).2) keep

/-- When no load is left what is shown is stranded, and what is owed is forsaken. -/
theorem stranded_iff (h : Accounted (fun _ => False) journal) :
    Stranded journal ↔ showsLoad journal = true := by
  constructor
  · rintro ⟨before, load, after, hjournal, hafter, hlost⟩
    exact @ShownFor.shows (fun _ => False) _
      ⟨before, load, after, hjournal, hafter, Or.inr hlost⟩
  · intro hshown
    obtain ⟨before, load, after, hjournal, hafter, hload⟩ := h.shown hshown
    exact ⟨before, load, after, hjournal, hafter, hload.resolve_left id⟩

theorem forsaken_iff (h : Accounted (fun _ => False) journal) :
    Forsaken journal ↔ owesLoad journal = true := by
  constructor
  · rintro ⟨before, behind, after, hjournal, hafter, hlost⟩
    exact @OwedFor.owes (fun _ => False) _
      ⟨before, behind, after, hjournal, hafter, fun load hload => Or.inr (hlost load hload)⟩
  · intro howed
    obtain ⟨before, behind, after, hjournal, hafter, hbehind⟩ := h.owed howed
    exact ⟨before, behind, after, hjournal, hafter,
      fun load hload => (hbehind load hload).resolve_left id⟩

end Accounted

end Folio
