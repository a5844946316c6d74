-- Attributes belong to places. All attributes that a browser knows have been told of the collection and
-- the connection that it looks at, as long as no two places go by one name, no schema comes too late,
-- and nothing is known when another connection is made. Where one of these fails they leak.
import Mathlib.Data.List.Infix
import Folio.Proofs.ExactNumbers
import Folio.Proofs.LearningActions

namespace Folio.Session

variable {s t u : Session} {T : Testimony}

/-! ## One thing after another -/

/-- Rows are looked through that show what has been told. -/
theorem discover_retains {collection : String} {rows : List Fields}
    (hrows : T.ToldRows s.browser.connection collection s.browser.settings.sampleLimit rows) :
    Retains T s (s.discover collection rows) := by
  have hstill : Retains T s s := .refl s
  unfold discover
  split
  · exact hstill
  · rename_i hthere
    rw [Bool.or_eq_true, not_or, bne_iff_ne, not_not] at hthere
    split
    · rename_i found hfound
      exact ⟨⟨List.prefix_rfl, List.prefix_rfl⟩, fun hs _ =>
        hs.learn hthere.2 (hrows found hfound) s.clock⟩
    · exact hstill

/-- The job that became ready first is taken up. -/
theorem taken_untaught {job : Job} {rest : List Job} (h : s.ready = job :: rest) :
    Untaught s { s with ready := rest } := by
  refine .of_same (taken_samePages h) rfl (fun found hfound => ?_) rfl
  unfold discoveries at hfound ⊢
  rw [h]
  obtain ⟨other, hother, hdiscovery⟩ := List.mem_filterMap.mp hfound
  exact List.mem_filterMap.mpr ⟨other, List.mem_cons_of_mem _ hother, hdiscovery⟩

/-- What is done keeps to what is told: what is asked for does, and a schema is taken over only if it
would be asked for now. -/
structure Careful (s : Session) (operation : Operation) : Prop where
  heeds : ∀ command, operation.command? = some command → s.Heeds command
  wants : operation = .job → ∀ w rest, s.ready = .resume w :: rest →
    ∀ query, w.pause.query? = some query → s.Wants query

section

variable (hdigest : ∀ a b, T.texts a → T.texts b → Digest.Distinguishes a b)

include hdigest

theorem doJob_retains (hs : Lore T s) {job : Job} {rest : List Job} (hready : s.ready = job :: rest)
    (hquery : ∀ w, job = .resume w → ∀ query, w.pause.query? = some query → s.Wants query) :
    Retains T s (({ s with ready := rest } : Session).doJob job) := by
  have htaken := taken_untaught hready
  have hafter : ∀ {t}, Retains T { s with ready := rest } t → Retains T s t :=
    .after htaken.toUnlearned
  cases job with
  | logRecent => exact hafter (logRecent_untaught _).retains
  | discover collection rows =>
    refine hafter (discover_retains (hs.discoveries (collection, rows) ?_))
    unfold discoveries
    rw [hready]
    exact List.mem_cons_self
  | scheduled run =>
    refine hafter (Unlearned.retains (Untaught.toUnlearned ?_))
    unfold doJob
    dsimp only
    split
    · exact .of_same (.of_browser rfl rfl rfl rfl (fun _ h => h) rfl) rfl (fun _ => id) rfl
    · exact .spawn _ rfl rfl
  | due run => exact hafter (runAfter_retains (reloadFirst_minds hdigest _ _) run)
  | resume w =>
    have hmem : w ∈ s.actions := mem_actions_resume hready
    have hwaits : ∀ p, w.pause.loadPause? = some p →
        ({ s with ready := rest } : Session).Awaits p := fun p hp =>
      htaken.awaits (hs.waits p (List.mem_filterMap.mpr ⟨w, hmem, hp⟩))
    have hresumed := resume_minds hdigest { s with ready := rest } hwaits fun query hp =>
      have hwants := hquery w rfl query hp
      ⟨hwants.collection, hwants.executor, hwants.key⟩
    obtain ⟨owner, pause⟩ := w
    cases owner with
    | client c => exact hafter (serveAfter_retains (hs.single _ hmem c rfl) hresumed)
    | run run => exact hafter (runAfter_retains hresumed run)

/-- Whatever is done, all that is learned has been told. -/
theorem operate_retains (hs : Lore T s) {operation : Operation} (h : s.Careful operation) :
    Retains T s (s.operate operation) := by
  have hstill : Retains T s s := .refl s
  have htimed : ∀ clock asleep, Unlearned s { s with clock := clock, asleep := asleep } :=
    fun clock asleep => .of_loosens (.of_browser rfl rfl rfl (fun _ h => h) rfl) rfl (fun _ => id)
      (.inl rfl)
  cases operation with
  | ask number command =>
    exact serve_retains (perform_minds hdigest s (h.heeds command rfl)) _
  | job =>
    unfold operate
    dsimp only
    split
    · rename_i job rest hready
      refine doJob_retains hdigest hs hready ?_
      rintro w rfl
      exact h.wants rfl w rest hready
    · exact hstill
  | background =>
    unfold operate openBackground
    dsimp only
    split
    · exact hstill
    · exact (openGate_untaught s _).retains
  | wake =>
    unfold operate
    dsimp only
    split
    · rename_i due run _
      exact ((htimed due none).trans (Untaught.spawn _ rfl rfl).toUnlearned).retains
    · exact hstill
  | tick clock => exact (htimed clock s.asleep).retains

end

/-! ## The law -/

/-- All that is told of places in a run. -/
def disclosures (s : Session) : List Operation → List Disclosure
  | [] => []
  | operation :: rest =>
    s.disclosed (s.operate operation) ++ (s.operate operation).disclosures rest

theorem disclosed_at {operations : List Operation} {d : Disclosure} (h : d ∈ s.disclosures operations) :
    ∃ earlier, earlier <+: operations ∧ (s.after earlier).browser.connection = d.connection ∧
      (s.after earlier).browser.collection = some d.collection := by
  induction operations generalizing s with
  | nil => cases h
  | cons operation rest ih =>
    rcases List.mem_append.mp h with hnow | hlater
    · obtain ⟨hconnection, hcollection, -⟩ := mem_disclosed.mp hnow
      exact ⟨[operation], List.prefix_append [operation] rest, hconnection, hcollection⟩
    · obtain ⟨earlier, hearlier, hplace⟩ := ih hlater
      exact ⟨operation :: earlier, (List.prefix_cons_inj operation).mpr hearlier, hplace⟩

/-- Every step of a run is done with care. -/
def RunsCarefully (s : Session) : List Operation → Prop
  | [] => True
  | operation :: rest => s.Careful operation ∧ (s.operate operation).RunsCarefully rest

/-- What is known has been told in the run, or before it. -/
theorem lore_after (hdigest : ∀ a b, T.texts a → T.texts b → Digest.Distinguishes a b)
    (hs : Lore T s) (operations : List Operation) (hcareful : s.RunsCarefully operations)
    (hmet : ∀ text, s.MetDuring operations text → T.texts text)
    (htells : ∀ d ∈ s.disclosures operations, T.tells d) : Lore T (s.after operations) := by
  induction operations generalizing s with
  | nil => exact hs
  | cons operation rest ih =>
    obtain ⟨hfirst, hrest⟩ := hcareful
    -- What is told by the first step is told in the run.
    have hheard : Heard T s (s.operate operation) :=
      ⟨fun text hpage => hmet text ⟨[], operation, rest, rfl, hpage⟩,
        fun d hd => htells d (List.mem_append_left _ hd)⟩
    refine ih ((operate_retains hdigest hs hfirst).lore hs hheard) hrest ?_
      fun d hd => htells d (List.mem_append_right _ hd)
    rintro text ⟨earlier, other, later, rfl, hpage⟩
    exact hmet text ⟨operation :: earlier, other, later, rfl, hpage⟩

theorem lore_start (T : Testimony) (settings : Settings) (connection collection : Option String)
    (executor : Option Nat) (archive : Option Archive) (backends : List Backend)
    (provider : Option Provider) :
    Lore T (.start (.start settings connection collection executor archive) backends provider) where
  registry := fun _ ha => absurd ha List.not_mem_nil
  known := fun _ _ hknown => by cases hknown
  discoveries := fun _ hfound => absurd hfound List.not_mem_nil
  pages := fun _ hpage => absurd hpage List.not_mem_nil
  waits := fun _ hp => absurd hp List.not_mem_nil
  single := fun _ hw => absurd hw List.not_mem_nil

/-- Sessions that remember attributes under one name look at one place. -/
def NamesApart (s t : Session) : Prop :=
  ∀ collection other, s.browser.collection = some collection → t.browser.collection = some other →
    s.browser.attributeKey collection = t.browser.attributeKey other →
    s.browser.connection = t.browser.connection ∧ collection = other

/-- After a run every attribute that is known has been told of the place that is looked at, by a
schema of the backend in use or by rows that it has given. -/
def KnowsItsPlace (s : Session) (operations : List Operation) : Prop :=
  ∀ a ∈ (s.after operations).browser.registry.attributes, ∃ collection,
    (s.after operations).browser.collection = some collection ∧
      ⟨(s.after operations).browser.connection, collection, a.kind⟩ ∈ s.disclosures operations

/-- In every run in which a schema that arrives is always one that would be asked for then, nothing is
known of attributes and no load of use is under way whenever another connection is made, attributes
are not put in by hand, and the digest tells the texts of pages apart: if no other place that was
looked at goes by the name of the last one, then every attribute that is known has been told of it. -/
theorem attributes_were_told_of_the_place (settings : Settings) (first collection : Option String)
    (executor : Option Nat) (archive : Option Archive) (backends : List Backend)
    (provider : Option Provider) (start : Session) (operations : List Operation)
    (hstart : start =
      .start (.start settings first collection executor archive) backends provider)
    (hcareful : start.RunsCarefully operations)
    (hnames : ∀ earlier, earlier <+: operations →
      (start.after earlier).NamesApart (start.after operations))
    (hdigest : ∀ a b, start.MetDuring operations a → start.MetDuring operations b →
      Digest.Distinguishes a b) : start.KnowsItsPlace operations := by
  have hbefore : Lore ⟨start.MetDuring operations, (· ∈ start.disclosures operations)⟩ start := by
    rw [hstart]
    exact lore_start _ settings first collection executor archive backends provider
  have hlore := lore_after hdigest hbefore operations hcareful (fun _ => id) fun _ => id
  intro a ha
  obtain ⟨selected, hselected, connection, other, hkey, htold⟩ := hlore.registry a ha
  -- It was told of some place under the name of this one; no other place has that name.
  obtain ⟨earlier, hearlier, rfl, hother⟩ := disclosed_at htold
  obtain ⟨hconnection, rfl⟩ := hnames earlier hearlier other selected hother hselected hkey
  exact ⟨other, hselected, hconnection ▸ htold⟩

/-- What is met in a run is met by its first step, or after it. -/
theorem met_cons {operation : Operation} {rest : List Operation} {text : List UInt8}
    (h : s.MetDuring (operation :: rest) text) :
    PageMet s (s.operate operation) text ∨ (s.operate operation).MetDuring rest text := by
  obtain ⟨earlier, other, later, hsplit, hpage⟩ := h
  cases earlier with
  | nil =>
    cases hsplit
    exact .inl hpage
  | cons first others =>
    cases hsplit
    exact .inr ⟨others, other, later, rfl, hpage⟩

theorem PageMet.event {text : List UInt8} (h : PageMet s t text) :
    ∃ e ∈ s.since t, e.met?.isSome = true := by
  cases h with
  | fetched noted => exact ⟨_, noted, rfl⟩
  | recalled noted => exact ⟨_, noted, rfl⟩

/-- A browser of two connections. The documents of one have a title, those of the other have none. -/
def titledDocuments : Session :=
  .start (.start .default (some "main") (some "docs") (some 0) none)
    [.ofSource (.store ⟨[("docs", [⟨.int 1, [("id", .int 1), ("title", .text "a")]⟩])], []⟩ true),
      .ofSource (.store ⟨[("docs", [⟨.int 2, [("id", .int 2)]⟩])], []⟩ true)]
    (some (.ofBackends [("other", 1)] 0))

/-- The other connection is made, and then a page is loaded. -/
def otherFirst : List Operation := [.ask 1 (.connect "other"), .ask 2 (.load .null false)]

theorem otherFirst_careful : titledDocuments.RunsCarefully otherFirst := by
  refine ⟨⟨?connects, (nomatch ·)⟩, ⟨?loads, (nomatch ·)⟩, trivial⟩
  case connects =>
    rintro command ⟨⟩
    exact ⟨nofun, fun _ _ _ _ => ⟨rfl, rfl, fun _ hp => absurd hp List.not_mem_nil⟩⟩
  case loads =>
    rintro command ⟨⟩
    exact ⟨nofun, nofun⟩

theorem otherFirst_facts :
    let s := titledDocuments.operate (.ask 1 (.connect "other"))
    let t := titledDocuments.after otherFirst
    (titledDocuments.since s).filterMap LoadEvent.met? = [] ∧
      ((s.since (s.operate (.ask 2 (.load .null false)))).filterMap LoadEvent.met?).length = 1 ∧
      (t.browser.connection, t.browser.collection) = (some "other", some "docs") ∧
      t.browser.registry.attributes.map Attribute.kind = [("id", "number")] ∧
      ∀ earlier ∈ otherFirst.inits,
        ((titledDocuments.after earlier).browser.connection,
          (titledDocuments.after earlier).browser.collection) ∈
          [(some "main", some "docs"), (some "other", some "docs")] := by
  decide +kernel

/-- The names of both connections are told apart. -/
theorem otherFirst_names {earlier : List Operation} (h : earlier <+: otherFirst) :
    (titledDocuments.after earlier).NamesApart (titledDocuments.after otherFirst) := by
  obtain ⟨-, -, hplace, -, hplaces⟩ := otherFirst_facts
  have hbefore := hplaces earlier ((List.mem_inits _ _).mpr h)
  generalize titledDocuments.after earlier = s at hbefore ⊢
  generalize titledDocuments.after otherFirst = t at hplace ⊢
  obtain ⟨hconnection, hcollection⟩ := Prod.mk.inj hplace
  intro collection other hbeing hother hkey
  cases Option.some.inj (hcollection.symm.trans hother)
  unfold Browser.attributeKey at hkey
  rw [hconnection] at hkey ⊢
  rw [hbeing] at hbefore
  rcases List.mem_cons.mp hbefore with hmain | hsame
  · obtain ⟨hfirst, hdocs⟩ := Prod.mk.inj hmain
    cases Option.some.inj hdocs
    rw [hfirst] at hkey
    exact absurd hkey (by decide)
  · obtain ⟨hlast, hdocs⟩ := Prod.mk.inj (List.mem_singleton.mp hsame)
    exact ⟨hlast, Option.some.inj hdocs⟩

theorem attributes_are_told_after_connecting :
    ⟨some "other", "docs", ("id", "number")⟩ ∈ titledDocuments.disclosures otherFirst := by
  obtain ⟨hquiet, hone, hplace, hkinds, -⟩ := otherFirst_facts
  have hlater : ∀ text, titledDocuments.MetDuring otherFirst text →
      (titledDocuments.operate (.ask 1 (.connect "other"))).MetDuring
        [.ask 2 (.load .null false)] text := by
    intro text hmet
    refine (met_cons hmet).resolve_left fun hpage => ?_
    obtain ⟨event, hevent, hsome⟩ := hpage.event
    rw [List.filterMap_eq_nil_iff] at hquiet
    rw [hquiet event hevent] at hsome
    cases hsome
  have hknows := attributes_were_told_of_the_place .default (some "main") (some "docs") (some 0) none
    titledDocuments.backends titledDocuments.provider titledDocuments otherFirst rfl
    otherFirst_careful (fun _ => otherFirst_names) fun a b ha hb =>
      distinguishes_of_one hone a b (hlater a ha) (hlater b hb)
  have hknown : ("id", "number") ∈
      (titledDocuments.after otherFirst).browser.registry.attributes.map Attribute.kind := by
    rw [hkinds]
    exact List.mem_singleton_self _
  obtain ⟨a, ha, hkind⟩ := List.mem_map.mp hknown
  obtain ⟨collection, hcollection, htold⟩ := hknows a ha
  obtain ⟨hconnection, hdocs⟩ := Prod.mk.inj hplace
  cases Option.some.inj (hdocs.symm.trans hcollection)
  rwa [hconnection, hkind] at htold

/-! ## Attributes of another place -/

/-- A browser of two collections on two connections. The names of the two places are put together
alike. -/
def colonPlaces : Session :=
  .start (.start .default (some "a") (some "b:c") (some 0) none)
    [.ofSource (.store ⟨[("b:c", [⟨.int 1, [("id", .int 1), ("title", .text "a")]⟩]),
      ("c", [⟨.int 2, [("id", .int 2)]⟩])], []⟩ true)]
    (some (.ofBackends [("a:b", 0)] 0))

/-- A page is loaded at one place, and then one at the other. -/
def changingPlace : List Operation := [
  .ask 1 (.load .null false), .job,
  .ask 2 (.dispatch (.object [("kind", .text "set_namespace"), ("namespace_id", .text "c")])),
  .ask 3 (.connect "a:b"), .ask 4 (.load .null false), .job]

/-- A page is loaded, and then the other connection is made. -/
def leavingConnection : List Operation :=
  [.ask 1 (.load .null false), .job, .ask 2 (.connect "other")]

theorem changingPlace_facts :
    let t := colonPlaces.after changingPlace
    (t.browser.connection, t.browser.collection) = (some "a:b", some "c") ∧
      ("title", "string") ∈ t.browser.registry.attributes.map Attribute.kind ∧
      ⟨some "a:b", "c", ("title", "string")⟩ ∉ colonPlaces.disclosures changingPlace := by
  decide +kernel

theorem leavingConnection_facts :
    let t := titledDocuments.after leavingConnection
    (t.browser.connection, t.browser.collection) = (some "other", some "docs") ∧
      ("title", "string") ∈ t.browser.registry.attributes.map Attribute.kind ∧
      ⟨some "other", "docs", ("title", "string")⟩ ∉ titledDocuments.disclosures leavingConnection := by
  decide +kernel

/-- An attribute that is known and has not been told of the place leaks. -/
theorem not_knowsItsPlace {operations : List Operation} {connection : Option String}
    {collection : String} {kind : String × String}
    (hplace : ((s.after operations).browser.connection, (s.after operations).browser.collection) =
      (connection, some collection))
    (hknown : kind ∈ (s.after operations).browser.registry.attributes.map Attribute.kind)
    (huntold : ⟨connection, collection, kind⟩ ∉ s.disclosures operations) :
    ¬ s.KnowsItsPlace operations := by
  intro hknows
  obtain ⟨a, ha, rfl⟩ := List.mem_map.mp hknown
  obtain ⟨other, hother, htold⟩ := hknows a ha
  obtain ⟨rfl, hcollection⟩ := Prod.mk.inj hplace
  cases Option.some.inj (hcollection.symm.trans hother)
  exact huntold htold

/-- The title of the documents of one place is known at the other, whose documents have none: the
attributes of both are remembered under one name. And another connection takes over what is known of
attributes. -/
theorem attributes_of_another_place_are_known :
    ¬ colonPlaces.KnowsItsPlace changingPlace ∧ ¬ titledDocuments.KnowsItsPlace leavingConnection := by
  obtain ⟨hcolon, htitle, huntold⟩ := changingPlace_facts
  obtain ⟨hother, htaken, hunheard⟩ := leavingConnection_facts
  exact ⟨not_knowsItsPlace hcolon htitle huntold, not_knowsItsPlace hother htaken hunheard⟩

end Folio.Session
