-- Edits of the query in the course of time. The first page is loaded once for each burst of edits
-- of the search text, when the delay of the last one is over and no other edit has come before; and
-- once for every edit of another kind, at once. Each load is for the query as it has been edited so
-- far, so that the last one shows the final query.
import Folio.Proofs.TimedEdits
import Folio.Proofs.Times
import Mathlib.Data.List.Forall2
import Mathlib.Data.List.Induction

namespace Folio

namespace Session

variable {s : Session} {number : Nat} {collection : String} {delay : Float}

/-! ## When loads are due -/

/-- Whether an edit is loaded: at once, or if no edit that comes later comes before it is due. -/
def Edit.isLoaded (e : Edit) (delay : Float) (later : List Edit) : Bool :=
  !e.waits || later.all fun other => e.due delay ≤ other.time

/-- The loads that edits lead to, after those that are done: when each of them is due, and the edits
that have been made by then. -/
def dueLoads (delay : Float) (done : List Edit) : List Edit → List (Float × List Edit)
  | [] => []
  | e :: later =>
    (if e.isLoaded delay later then [(e.due delay, done ++ [e])] else []) ++
      dueLoads delay (done ++ [e]) later

/-- One more edit drops the loads that were still to come, and is due to be loaded itself. -/
theorem dueLoads_snoc (delay : Float) (done : List Edit) {es : List Edit} {e : Edit}
    (h : ∀ x ∈ es, x.time ≤ e.time) :
    dueLoads delay done (es ++ [e]) =
      (dueLoads delay done es).filter (·.1 ≤ e.time) ++ [(e.due delay, done ++ es ++ [e])] := by
  induction es generalizing done with
  | nil => simp [dueLoads, Edit.isLoaded]
  | cons x rest ih =>
    have hrest := ih (done ++ [x]) fun y hy => h y (List.mem_cons_of_mem _ hy)
    have hloaded : x.isLoaded delay (rest ++ [e]) =
        (x.isLoaded delay rest && decide (x.due delay ≤ e.time)) := by
      cases hwaits : x.waits with
      | true => simp [Edit.isLoaded, hwaits, List.all_append]
      | false =>
        simp [Edit.isLoaded, hwaits, Edit.due_of_prompt hwaits, h x List.mem_cons_self]
    rw [List.cons_append, dueLoads, dueLoads, hrest, hloaded, List.filter_append,
      List.append_assoc, List.append_assoc]
    cases x.isLoaded delay rest with
    | false => simp
    | true =>
      by_cases hle : x.due delay ≤ e.time <;> simp [hle]

/-! ## What edits make of the query -/

/-- Makes edits one after another, each at its time. -/
def edited (s : Session) (es : List Edit) : Session := es.foldl edit s

/-- None of the edits fails. -/
def AcceptsAll (s : Session) : List Edit → Prop
  | [] => True
  | e :: later => s.Accepts e ∧ (s.edit e).AcceptsAll later

theorem acceptsAll_snoc (s : Session) (es : List Edit) (e : Edit) :
    s.AcceptsAll (es ++ [e]) ↔ s.AcceptsAll es ∧ (s.edited es).Accepts e := by
  induction es generalizing s with
  | nil => exact and_comm
  | cons x rest ih =>
    rw [List.cons_append, AcceptsAll, AcceptsAll, ih (s.edit x), and_assoc]
    rfl

/-- What edits have made of a query, but for filters that were made anew. -/
inductive Applied (s : Session) : List Edit → QueryConfig → Prop
  | unedited : Applied s [] s.browser.config
  | edited {es : List Edit} {e : Edit} {c d : QueryConfig} (before : Applied s es c)
      (revises : Revises ((s.edited es).waitUntil e.time) c e.intent d) : Applied s (es ++ [e]) d
  | retyped {es : List Edit} {c d : QueryConfig} (before : Applied s es c) (retypes : c.Retypes d) :
      Applied s es d

theorem Applied.retypedTo {es : List Edit} {c d : QueryConfig} (h : Applied s es c)
    (hcd : c.RetypedTo d) : Applied s es d := by
  induction hcd with
  | refl => exact h
  | tail _ hretypes ih => exact .retyped ih hretypes

/-- A request for a number is one of a load for the query as it has been edited by then. -/
def Reflects (s : Session) (number : Nat) (collection : String) (load : Float × List Edit)
    (sent : Sent) : Prop :=
  ∃ c, Applied s load.2 c ∧ sent = .ofCount number collection c

/-- What holds after some edits: by each time from then on the loads have been made that are due by
then, for the query as it was edited. -/
structure Keeps (s : Session) (number : Nat) (collection : String) (es : List Edit) : Prop where
  rest : (s.edited es).AtRest number collection
  delay : (s.edited es).debouncer.delay = s.debouncer.delay
  applied : Applied s es (s.edited es).browser.config
  loaded : ∀ time, (∀ e ∈ es, e.time ≤ time) →
    ∃ asked, ((s.edited es).waitUntil time).counts = s.counts ++ asked ∧
      List.Forall₂ (Reflects s number collection)
        ((dueLoads s.debouncer.delay [] es).filter (·.1 ≤ time)) asked

theorem keeps_start (h : s.AtRest number collection) (hasleep : s.asleep = none) :
    Keeps s number collection [] := by
  refine ⟨h, rfl, .unedited, fun time _ => ⟨[], ?_, .nil⟩⟩
  have hstill : s.waitUntil time = { s with clock := time } :=
    waitUntil_still fun entry hentry => by
      rw [hasleep] at hentry
      cases hentry
  rw [List.append_nil, edited, List.foldl_nil, hstill]
  rfl

/-- What holds after some edits holds after one more. -/
theorem Keeps.edit {es : List Edit} (h : Keeps s number collection es) {e : Edit}
    (hordered : ∀ x ∈ es, x.time ≤ e.time) (haccepts : (s.edited es).Accepts e) :
    Keeps s number collection (es ++ [e]) := by
  obtain ⟨-, -, hdelay, hretyped⟩ := h.rest.waitUntil e.time
  obtain ⟨d, htakes⟩ := h.rest.takes haccepts
  obtain ⟨asked, hasked, hloads⟩ := h.loaded e.time hordered
  have hnext : s.edited (es ++ [e]) = (s.edited es).edit e := List.foldl_concat ..
  have hsame := hdelay.trans h.delay
  have happlied : Applied s (es ++ [e]) d :=
    .edited (h.applied.retypedTo hretyped) htakes.revises
  refine ⟨hnext ▸ htakes.rest, ?_, ?_, fun time htime => ?_⟩
  · rw [hnext]
    exact htakes.delay.trans hsame
  · rw [hnext]
    exact happlied.retypedTo htakes.config
  · have hlast : e.time ≤ time := htime e (List.mem_append_right _ List.mem_cons_self)
    obtain ⟨c, hc, hcounted⟩ := htakes.counted time hlast
    rw [hsame] at hcounted
    -- what was due before this edit is due by any later time
    have hearlier : ((dueLoads s.debouncer.delay [] es).filter (·.1 ≤ e.time)).filter
        (·.1 ≤ time) = (dueLoads s.debouncer.delay [] es).filter (·.1 ≤ e.time) := by
      refine List.filter_eq_self.mpr fun load hload => ?_
      have hle := of_decide_eq_true (List.mem_filter.mp hload).2
      exact decide_eq_true (time_le_trans hle hlast)
    have hown : List.Forall₂ (Reflects s number collection)
        ([(e.due s.debouncer.delay, es ++ [e])].filter (·.1 ≤ time))
        (if e.due s.debouncer.delay ≤ time then [.ofCount number collection c] else []) := by
      by_cases hdue : e.due s.debouncer.delay ≤ time
      · simp only [hdue, if_true, decide_true, List.filter_cons_of_pos, List.filter_nil]
        exact .cons ⟨c, happlied.retypedTo hc, rfl⟩ .nil
      · simp only [hdue, if_false, decide_false, Bool.false_eq_true, not_false_eq_true,
          List.filter_cons_of_neg, List.filter_nil]
        exact .nil
    refine ⟨asked ++ if e.due s.debouncer.delay ≤ time then [.ofCount number collection c] else [],
      ?_, ?_⟩
    · rw [hnext, hcounted, hasked, List.append_assoc]
    · rw [dueLoads_snoc s.debouncer.delay [] hordered, List.filter_append, hearlier,
        List.nil_append]
      exact List.rel_append hloads hown

theorem keeps_edited (h : s.AtRest number collection) (hasleep : s.asleep = none) {es : List Edit}
    (hordered : es.Pairwise (·.time ≤ ·.time)) (haccepts : s.AcceptsAll es) :
    Keeps s number collection es := by
  induction es using List.reverseRecOn with
  | nil => exact keeps_start h hasleep
  | append_singleton es e ih =>
    obtain ⟨hbefore, -, hlast⟩ := List.pairwise_append.mp hordered
    obtain ⟨hall, hnext⟩ := (acceptsAll_snoc s es e).mp haccepts
    exact (ih hbefore hall).edit (fun x hx => hlast x hx e List.mem_cons_self) hnext

/-! ## The law -/

/-- Where documents have keys and nothing is held back, the loads that have been made by a time are
just those that are due by then, one for each, and the last one is for the final query. -/
theorem bursts_are_loaded_once (h : s.AtRest number collection) (hasleep : s.asleep = none)
    {es : List Edit} (hordered : es.Pairwise (·.time ≤ ·.time)) (haccepts : s.AcceptsAll es)
    {time : Float} (htime : ∀ e ∈ es, e.time ≤ time) :
    ∃ asked, ((s.edited es).waitUntil time).counts = s.counts ++ asked ∧
      List.Forall₂ (Reflects s number collection)
        ((dueLoads s.debouncer.delay [] es).filter (·.1 ≤ time)) asked ∧
      ∀ last ∈ es.getLast?, last.due s.debouncer.delay ≤ time →
        ∃ c, Applied s es c ∧ asked.getLast? = some (.ofCount number collection c) := by
  obtain ⟨asked, hasked, hloads⟩ := (keeps_edited h hasleep hordered haccepts).loaded time htime
  refine ⟨asked, hasked, hloads, fun last hlast hdue => ?_⟩
  obtain ⟨before, rfl⟩ := List.getLast?_eq_some_iff.mp hlast
  have hbefore : ∀ x ∈ before, x.time ≤ last.time := fun x hx =>
    (List.pairwise_append.mp hordered).2.2 x hx last List.mem_cons_self
  rw [dueLoads_snoc s.debouncer.delay [] hbefore, List.filter_append, List.nil_append] at hloads
  have hlatest := List.rel_reverse hloads
  simp only [hdue, decide_true, List.filter_cons_of_pos, List.filter_nil, List.reverse_append,
    List.reverse_singleton, List.singleton_append] at hlatest
  rw [List.getLast?_eq_head?_reverse]
  generalize asked.reverse = latest at hlatest
  cases hlatest with
  | cons hreflects _ =>
    obtain ⟨c, hc, rfl⟩ := hreflects
    exact ⟨c, hc, rfl⟩

/-- The search text is edited at a time. -/
def searching (time : Float) (text : String) : Edit where
  time := time
  client := 0
  given := (Intent.setSearchText text).toValue
  intent := .setSearchText text
  read := rfl
  isEdit := rfl

/-- The order of the keys is turned round at a time. -/
def turning (time : Float) : Edit where
  time := time
  client := 0
  given := (Intent.setSort (some "id") .descending).toValue
  intent := .setSort (some "id") .descending
  read := rfl
  isEdit := rfl

theorem accepts_searching (s : Session) (time : Float) (text : String) :
    s.Accepts (searching time text) := by
  unfold Accepts
  rw [perform_edit]
  exact ⟨.nothing, rfl⟩

theorem AtRest.accepts_turning (h : s.AtRest number collection) (time : Float) :
    s.Accepts (turning time) := by
  obtain ⟨t, hpoised, -, -, -, hturned⟩ :=
    ((h.waitUntil time).1.turns rfl rfl rfl (.sorted (some "id") .descending) false).loads
  have hdispatch : (s.waitUntil (turning time).time).dispatch (turning time).intent =
      t.reloadFirst silently := hturned
  unfold Accepts
  rw [perform_edit, hdispatch]
  exact (hpoised.loads silently).1

/-- A browser of some documents, for which nothing has been done yet. -/
def browsing (docs : List Fields) : Session :=
  .start (.start .default (some "main") (some "docs") (some 0) none)
    [.ofSource (.store ⟨[("docs", docs.map fun d => ⟨d.get "id", d⟩)], []⟩ true)] none

theorem browsing_atRest {docs : List Fields} (hkeys : ∀ d ∈ docs, HasKey d) :
    (browsing docs).AtRest 0 "docs" where
  ready := rfl
  waiting := rfl
  idle := rfl
  settled := rfl
  current := rfl
  executor := rfl
  willing := by
    refine ⟨_, rfl, ⟨⟨_, _, rfl, ⟨fun entry hentry => ?_, fun _ _ h => by cases h⟩⟩, rfl, rfl⟩⟩
    obtain rfl := List.mem_singleton.mp hentry
    intro document hdocument
    obtain ⟨d, hd, rfl⟩ := List.mem_map.mp hdocument
    exact hkeys d hd
  mode := rfl
  plain := rfl
  run := rfl

/-- Someone types twice within half a second, and turns the order round a moment later. -/
def typedTwice : List Edit := [searching 0.0 "1", searching 0.25 "", turning 1.0]

/-- The first text is never looked for. The second one is when half a second has passed, and the
other order is loaded at once. -/
theorem typing_is_loaded_twice :
    let s := browsing [[("id", .int 1)], [("id", .int 2)]]
    (dueLoads s.debouncer.delay [] typedTwice).map (fun load => (load.1, load.2.length)) =
      [(0.75, 2), (1.0, 3)] ∧
    ∃ asked, ((s.edited typedTwice).waitUntil 1.0).counts = s.counts ++ asked ∧
      List.Forall₂ (Reflects s 0 "docs")
        ((dueLoads s.debouncer.delay [] typedTwice).filter (·.1 ≤ 1.0)) asked ∧
      ∀ last ∈ typedTwice.getLast?, last.due s.debouncer.delay ≤ 1.0 →
        ∃ c, Applied s typedTwice c ∧ asked.getLast? = some (.ofCount 0 "docs" c) := by
  intro s
  have hrest : s.AtRest 0 "docs" := by
    refine browsing_atRest fun d hd => ?_
    rcases List.mem_cons.mp hd with rfl | hd
    · exact ⟨.int 1, rfl⟩
    · rw [List.mem_singleton.mp hd]
      exact ⟨.int 2, rfl⟩
  obtain ⟨_, hfirst⟩ := hrest.takes (accepts_searching s 0.0 "1")
  obtain ⟨_, hsecond⟩ := hfirst.rest.takes (accepts_searching _ 0.25 "")
  have haccepts : s.AcceptsAll typedTwice :=
    ⟨accepts_searching _ _ _, accepts_searching _ _ _, hsecond.rest.accepts_turning 1.0, trivial⟩
  refine ⟨by decide +kernel, bursts_are_loaded_once hrest rfl ?_ haccepts ?_⟩
  · simp only [typedTwice, List.pairwise_cons]
    decide +kernel
  · decide +kernel

/-- The search text is emptied, and something else is looked for when that has been loaded. -/
def searchingAgain : List Edit := [searching 0.0 "", searching 1.0 "x"]

/-- If the key of the last row is neither a text nor a whole number, the first load is broken off
and no other one is made. -/
theorem search_after_fractional_key_is_not_loaded :
    let s := browsing [[("id", .float 2.5)]]
    s.AcceptsAll searchingAgain ∧ searchingAgain.Pairwise (·.time ≤ ·.time) ∧
      (dueLoads s.debouncer.delay [] searchingAgain).map (·.1) = [0.5, 1.5] ∧
      ((s.edited searchingAgain).waitUntil 2.0).counts.length = 1 ∧
      ¬ ∃ asked, ((s.edited searchingAgain).waitUntil 2.0).counts = s.counts ++ asked ∧
        List.Forall₂ (Reflects s 0 "docs")
          ((dueLoads s.debouncer.delay [] searchingAgain).filter (·.1 ≤ 2.0)) asked := by
  intro s
  have hone : ((s.edited searchingAgain).waitUntil 2.0).counts.length = 1 := by decide +kernel
  have htwo : ((dueLoads s.debouncer.delay [] searchingAgain).filter (·.1 ≤ 2.0)).length = 2 := by
    decide +kernel
  have haccepts : s.AcceptsAll searchingAgain :=
    ⟨accepts_searching _ _ _, accepts_searching _ _ _, trivial⟩
  refine ⟨haccepts, ?_, by decide +kernel, hone, ?_⟩
  · simp only [searchingAgain, List.pairwise_cons]
    decide +kernel
  · rintro ⟨asked, hasked, hloads⟩
    rw [hasked, show s.counts = [] from rfl, List.nil_append] at hone
    have hlength := hloads.length_eq
    omega

end Session

end Folio
