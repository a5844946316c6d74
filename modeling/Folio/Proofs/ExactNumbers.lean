-- The number of all documents stays exact. Whatever is asked for, one thing after another, what is
-- known of the number is true, provided that every row that is stored has an id that can be a key. A
-- row that cannot be stored after others have been leaves the number out of date.
import Folio.Proofs.ExactActions

namespace Folio

/-- What a page was met for. -/
def LoadEvent.met? : LoadEvent → Option (Load × QueryConfig × Int)
  | .fetched _ load plan _ => some (load, plan.config, plan.move.page)
  | .recalled load config move _ => some (load, config, move.page)
  | _ => none

namespace Session

variable {texts : List UInt8 → Prop} {s t u : Session}

/-! ## One thing after another -/

section

variable (hdigest : ∀ a b, texts a → texts b → Digest.Distinguishes a b)

include hdigest

/-- The job that became ready first is done. -/
theorem doJob_abides {job : Job} {rest : List Job} (hready : s.ready = job :: rest) :
    Abides texts s (({ s with ready := rest } : Session).doJob job) := by
  have htaken : Still s { s with ready := rest } := ⟨taken_samePages hready, rfl, rfl, rfl⟩
  have hafter : ∀ {t}, Abides texts { s with ready := rest } t → Abides texts s t :=
    .after htaken.prepares
  cases job with
  | logRecent => exact hafter (.prepared (logRecent_still _).prepares)
  | discover collection rows => exact hafter (.prepared (discover_apprised _ _ _).still.prepares)
  | scheduled run =>
    refine hafter (.prepared (Still.prepares ?_))
    unfold doJob
    dsimp only
    split
    · exact ⟨.of_browser rfl rfl rfl rfl (fun _ h => h) rfl, rfl, rfl, rfl⟩
    · exact .spawn _ rfl
  | due run => exact hafter (runAfter_abides (reloadFirst_upholds hdigest _ _) run)
  | resume w =>
    intro hs
    have hidle := hs.idle w (mem_actions_resume hready)
    have hresumed : Upholds texts { s with ready := rest }
        (({ s with ready := rest } : Session).resume w.pause) := resume_upholds _ hidle.idle
    obtain ⟨owner, pause⟩ := w
    cases owner with
    | client c => exact hafter (serveAfter_abides (hidle.single c rfl) hresumed) hs
    | run run => exact hafter (runAfter_abides hresumed run) hs

/-- Whatever is done keeps what is known exact. -/
theorem operate_abides (s : Session) {operation : Operation}
    (hc : ∀ command, operation.command? = some command → command.KeepsIds) :
    Abides texts s (s.operate operation) := by
  have htimed : ∀ clock asleep, Prepares texts s { s with clock := clock, asleep := asleep } :=
    fun clock asleep => Forgets.prepares (.of_loosens
      (.of_browser rfl rfl rfl (fun _ h => h) rfl) rfl (fun _ => id) (.inr rfl))
  cases operation with
  | ask number command =>
    exact serve_abides (perform_upholds hdigest s (hc command rfl)) _
  | job =>
    unfold operate
    dsimp only
    split
    · rename_i job rest hready
      exact doJob_abides hdigest hready
    · exact .prepared (Still.refl s).prepares
  | background =>
    unfold operate openBackground
    dsimp only
    split
    · exact .prepared (Still.refl s).prepares
    · exact .prepared (openGate_still s _).prepares
  | wake =>
    unfold operate
    dsimp only
    split
    · rename_i due run _
      exact .prepared ((htimed due none).trans (Still.spawn _ rfl).prepares)
    · exact .prepared (Still.refl s).prepares
  | tick clock => exact .prepared (htimed clock s.asleep)

end

/-! ## The law -/

/-- A page that has a text is met during a run. -/
def MetDuring (s : Session) (operations : List Operation) (text : List UInt8) : Prop :=
  ∃ earlier operation later, operations = earlier ++ operation :: later ∧
    PageMet (s.after earlier) (s.after (earlier ++ [operation])) text

theorem exact_start (settings : Settings) (connection collection : Option String)
    (executor : Option Nat) (archive : Option Archive) {backends : List Backend}
    (provider : Option Provider) (hfiled : ∀ b ∈ backends, b.Filed)
    (hcalm : ∀ b ∈ backends, b.held = false ∧ b.schemaHeld = false) :
    Exact texts (.start (.start settings connection collection executor archive) backends
      provider) where
  filed := hfiled
  calm := hcalm
  idle := fun _ hw => absurd hw List.not_mem_nil
  rows := fun _ hrow => absurd hrow List.not_mem_nil
  pages := fun _ hpage => absurd hpage List.not_mem_nil
  unfiltered := fun _ hn => by cases hn

/-- One thing after another keeps what is known exact. -/
theorem exact_after (hdigest : ∀ a b, texts a → texts b → Digest.Distinguishes a b)
    (hs : Exact texts s) (operations : List Operation)
    (hc : ∀ operation ∈ operations, ∀ command, operation.command? = some command →
      command.KeepsIds)
    (hmet : ∀ text, s.MetDuring operations text → texts text) :
    Exact texts (s.after operations) := by
  induction operations using List.reverseRecOn with
  | nil => exact hs
  | append_singleton operations operation ih =>
    have hbefore := ih (fun other hother => hc other (List.mem_append_left _ hother)) <| by
      rintro text ⟨earlier, other, later, rfl, hpage⟩
      exact hmet text ⟨earlier, other, later ++ [operation], by simp, hpage⟩
    obtain ⟨-, htold⟩ := operate_abides hdigest (s.after operations)
      (hc operation (List.mem_append_right _ (List.mem_singleton_self _))) hbefore
    rw [after_snoc]
    refine (htold fun text hpage => hmet text ⟨operations, operation, [], rfl, ?_⟩).exact
    rwa [after_snoc]

/-- In every run from a start in which stores of documents with ids answer at once, in which every
row that is stored has an id that can be a key and no change touches an id, and in which no two
texts of pages that are met have the same digest: if the number of all documents is known, it is the
number of documents in the collection that is looked at, with the backend that is used; and so is
the number that is shown with every page of a query that browses all. -/
theorem known_number_is_exact (settings : Settings) (connection collection : Option String)
    (executor : Option Nat) (archive : Option Archive) (backends : List Backend)
    (provider : Option Provider) (hfiled : ∀ b ∈ backends, b.Filed)
    (hcalm : ∀ b ∈ backends, b.held = false ∧ b.schemaHeld = false) (start s t : Session)
    (before : List Operation) (operation : Operation)
    (hc : ∀ other ∈ before ++ [operation], ∀ command, other.command? = some command →
      command.KeepsIds)
    (hdigest : ∀ a b, start.MetDuring (before ++ [operation]) a →
      start.MetDuring (before ++ [operation]) b → Digest.Distinguishes a b)
    (hstart : start =
      .start (.start settings connection collection executor archive) backends provider)
    (hs : s = start.after before) (ht : t = s.operate operation) :
    (∀ n, t.browser.unfiltered = some n → t.Tells (some n)) ∧
      ∀ showing, .shown showing ∈ s.since t → showing.config.browsesAll = true →
        t.Tells showing.view.total := by
  have hexact : Exact (start.MetDuring (before ++ [operation])) start :=
    hstart ▸ exact_start settings connection collection executor archive provider hfiled hcalm
  have hbefore : Exact (start.MetDuring (before ++ [operation])) s := by
    rw [hs]
    refine exact_after hdigest hexact before
      (fun other hother => hc other (List.mem_append_left _ hother)) ?_
    rintro text ⟨earlier, other, later, rfl, hpage⟩
    exact ⟨earlier, other, later ++ [operation], by simp, hpage⟩
  obtain ⟨-, htold⟩ := operate_abides hdigest s
    (hc operation (List.mem_append_right _ (List.mem_singleton_self _))) hbefore
  rw [← ht] at htold
  have hafter := htold fun text hpage => ⟨before, operation, [], rfl, by
    rw [after_snoc, ← hs, ← ht]
    exact hpage⟩
  exact ⟨hafter.exact.unfiltered, hafter.shown⟩

/-! ## Documents that are stored -/

/-- If a run of one thing meets one page only, there is nothing for the digest to tell apart. -/
theorem distinguishes_of_one {operation : Operation}
    (hone : ((s.since (s.operate operation)).filterMap LoadEvent.met?).length = 1)
    (a b : List UInt8) (ha : s.MetDuring [operation] a) (hb : s.MetDuring [operation] b) :
    Digest.Distinguishes a b := by
  obtain ⟨met, hmet⟩ := List.length_eq_one_iff.mp hone
  have hsame : ∀ text, s.MetDuring [operation] text →
      text = (s.operate operation).footing.pageBytes met.1 met.2.1 met.2.2 := by
    rintro text ⟨earlier, other, later, hsplit, hpage⟩
    obtain ⟨rfl, hrest⟩ : earlier = [] ∧ operation :: [] = other :: later := by
      cases earlier with
      | nil => exact ⟨rfl, hsplit⟩
      | cons first others => simp at hsplit
    cases hrest
    have hevent : ∀ event ∈ s.since (s.operate operation), ∀ found,
        event.met? = some found → found = met := by
      intro event hevent found hfound
      have hmem := List.mem_filterMap.mpr ⟨event, hevent, hfound⟩
      rw [hmet] at hmem
      exact List.mem_singleton.mp hmem
    cases hpage with
    | fetched noted => rw [← hevent _ noted _ rfl]; rfl
    | recalled noted => rw [← hevent _ noted _ rfl]; rfl
  rw [hsame a ha, hsame b hb]
  exact fun _ => rfl

theorem tells_iff {backend : Nat} {collection : String} {total : Option Int}
    (hexecutor : s.browser.executor = some backend)
    (hcurrent : s.browser.current? = some collection) :
    s.Tells total ↔ total = some (s.number backend collection : Int) := by
  constructor
  · rintro ⟨other, place, hother, hplace, htotal⟩
    cases Option.some.inj (hother.symm.trans hexecutor)
    cases Option.some.inj (hplace.symm.trans hcurrent)
    exact htotal
  · exact fun htotal => ⟨backend, collection, hexecutor, hcurrent, htotal⟩

/-- The rows that hold the one document. -/
def loneRows : Named (List Value) := [("docs", [.object [("id", .int 1)]])]

theorem loneRows_carry : ∀ entry ∈ loneRows, ∀ row ∈ entry.2, CarriesId row := by
  intro entry hentry row hrow
  cases List.mem_singleton.mp hentry
  cases List.mem_singleton.mp hrow
  exact ⟨_, rfl, by decide, by decide⟩

/-- A browser of one document. -/
def loneDocument : Session :=
  .start (.start .default (some "main") (some "docs") (some 0) none)
    [.ofSource (.store ⟨[("docs", [⟨.int 1, [("id", .int 1)]⟩])], []⟩ true)] none

theorem loneDocument_filed : ∀ b ∈ loneDocument.backends, b.Filed := by
  intro b hb
  cases List.mem_singleton.mp hb
  obtain ⟨filled, hfilled, hfiled⟩ := DocumentStore.filed_ofCollections [] loneRows_carry
  cases hfilled
  exact ⟨_, true, rfl, hfiled⟩

/-- Another document is stored. -/
def storeAnother : Operation := .ask 1 (.upsert (.list [.object [("id", .int 2)]]))

theorem storeAnother_facts :
    let t := loneDocument.operate storeAnother
    t.browser.unfiltered = some 2 ∧
      ((loneDocument.since t).filterMap LoadEvent.met?).length = 1 := by
  decide +kernel

theorem stored_document_is_counted :
    (loneDocument.operate storeAnother).Tells (some 2) := by
  obtain ⟨hunfiltered, hone⟩ := storeAnother_facts
  have hkeeps : ∀ other ∈ [] ++ [storeAnother], ∀ command, other.command? = some command →
      command.KeepsIds := by
    intro other hother command hcommand
    cases List.mem_singleton.mp hother
    cases hcommand
    intro given hgiven row hrow
    cases hgiven
    cases List.mem_singleton.mp hrow
    exact ⟨_, rfl, by decide, by decide⟩
  have hexact := known_number_is_exact .default (some "main") (some "docs") (some 0) none
    loneDocument.backends none loneDocument_filed (by decide) loneDocument loneDocument _ []
    storeAnother hkeeps (distinguishes_of_one hone) rfl rfl rfl
  exact hexact.1 2 hunfiltered

/-- Rows with ids, of which one cannot be a key. -/
def halfKeyed : List Value := [.object [("id", .int 2)], .object [("id", .list [.int 3])]]

/-- The rows are stored after the first page has been shown. -/
def storeHalfKeyed : List Operation :=
  [.ask 1 (.load .null false), .ask 2 (.upsert (.list halfKeyed))]

theorem storeHalfKeyed_facts :
    let s := loneDocument.after storeHalfKeyed
    let t := s.operate (.ask 3 (.load .null false))
    s.browser.executor = some 0 ∧ s.browser.current? = some "docs" ∧ s.number 0 "docs" = 2 ∧
      s.browser.unfiltered = some 1 ∧ t.browser.executor = some 0 ∧
      t.browser.current? = some "docs" ∧ t.number 0 "docs" = 2 ∧
      ((s.since t).filterMap LoadEvent.showing?).map (fun showing =>
        (showing.config.browsesAll, showing.view.total)) = [(true, some 1)] := by
  decide +kernel

/-- All rows that are stored have ids. But the first is stored before the second is refused, and
then the number is neither counted anew nor forgotten. -/
theorem half_stored_rows_are_not_counted :
    (∀ row ∈ halfKeyed, ∃ doc : Fields, row = .object doc ∧ (doc.get "id").isNull = false) ∧
      (loneDocument.after storeHalfKeyed).browser.unfiltered = some 1 ∧
      ¬ (loneDocument.after storeHalfKeyed).Tells (some 1) ∧
      ∃ showing, .shown showing ∈ (loneDocument.after storeHalfKeyed).since
          ((loneDocument.after storeHalfKeyed).operate (.ask 3 (.load .null false))) ∧
        showing.config.browsesAll = true ∧
        ¬ ((loneDocument.after storeHalfKeyed).operate (.ask 3 (.load .null false))).Tells
          showing.view.total := by
  obtain ⟨hexecutor, hcurrent, hnumber, hunfiltered, hexecutor', hcurrent', hnumber', hshown⟩ :=
    storeHalfKeyed_facts
  refine ⟨?_, hunfiltered, ?_, ?_⟩
  · intro row hrow
    simp only [halfKeyed, List.mem_cons, List.not_mem_nil, or_false] at hrow
    rcases hrow with rfl | rfl <;> exact ⟨_, rfl, by decide⟩
  · rw [tells_iff hexecutor hcurrent, hnumber]
    decide
  · obtain ⟨showing, hshowing⟩ : ∃ showing, showing ∈ ((loneDocument.after storeHalfKeyed).since
        ((loneDocument.after storeHalfKeyed).operate (.ask 3 (.load .null false)))).filterMap
          LoadEvent.showing? := by
      refine List.exists_mem_of_ne_nil _ fun hnil => ?_
      rw [hnil] at hshown
      cases hshown
    have htold := List.mem_map_of_mem (f := fun showing : Showing =>
      (showing.config.browsesAll, showing.view.total)) hshowing
    rw [hshown] at htold
    obtain ⟨hall, htotal⟩ := Prod.mk.inj (List.mem_singleton.mp htold)
    refine ⟨showing, LoadEvent.shown_of_showing hshowing, hall, ?_⟩
    rw [tells_iff hexecutor' hcurrent', hnumber', htotal]
    decide

end Session

end Folio
