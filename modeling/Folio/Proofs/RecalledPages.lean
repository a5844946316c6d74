-- What a page was asked for with that is shown again. It was asked for by a query of the same shape;
-- so the request that would be made now differs from the one that was made in two things at most:
-- the key behind which the page starts, and the ranking.
import Folio.Proofs.Cursors
import Folio.Proofs.SameRequests

open Relation (ReflTransGen)

namespace Folio

/-- A plan was made for a connection and pages of a size, with what was known of attributes. -/
structure PagePlan.MadeWith (plan : PagePlan) (connection : Option String) (collection : String)
    (pageSize : Int) (registry : Registry) : Prop where
  request : Query.compilePage plan.config ⟨plan.move.page, pageSize, plan.move.cursor⟩ registry =
    .ok plan.request
  fingerprint : plan.fingerprint =
    Cache.fingerprint connection collection plan.config plan.move.page pageSize

theorem PagePlan.MadeFor.madeWith {plan : PagePlan} {collection : String}
    (h : plan.MadeFor collection) :
    ∃ connection pageSize registry, plan.MadeWith connection collection pageSize registry := by
  obtain ⟨connection, pageSize, ⟨registry, hrequest⟩, hfingerprint⟩ := h
  exact ⟨connection, pageSize, registry, hrequest, hfingerprint⟩

/-- The text that the fingerprint of a plan is the digest of. -/
def PagePlan.pageBytes (plan : PagePlan) (connection : Option String) (collection : String)
    (pageSize : Int) : List UInt8 :=
  Cache.pageBytes connection collection plan.config plan.move.page pageSize

/-- What a load would ask for that shows a page again, compared with what was asked for. -/
structure PagePlan.AnswersFor (plan : PagePlan) (registry : Registry) (config : QueryConfig)
    (page : PageRequest) (registry' : Registry) (request : Request) : Prop where
  alike : Query.AskAlike (Query.compileFilters config) plan.start? plan.request
    (Query.startOf page) request
  rankBy : Query.compileRank config registry = Query.compileRank config registry' →
    plan.request.rankBy.settled = request.rankBy.settled

/-- A plan answers for what its text is the text of. -/
theorem PagePlan.MadeWith.answersFor {plan : PagePlan} {connection connection' : Option String}
    {collection collection' : String} {pageSize pageSize' n : Int} {registry : Registry}
    {config : QueryConfig} (h : plan.MadeWith connection collection pageSize registry)
    (hsame : plan.pageBytes connection collection pageSize =
      Cache.pageBytes connection' collection' config n pageSize') :
    connection = connection' ∧ collection = collection' ∧ plan.move.page = n ∧
      pageSize = pageSize' ∧ plan.config.SameShape config ∧ ∀ cursor registry' request,
        Query.compilePage config ⟨n, pageSize', cursor⟩ registry' = .ok request →
        plan.AnswersFor registry config ⟨n, pageSize', cursor⟩ registry' request := by
  unfold PagePlan.pageBytes at hsame
  rw [Cache.pageBytes_eq_iff_inOrder, Cache.shape_inOrder_iff] at hsame
  obtain ⟨hconnection, hcollection, hpage, hsize, hshape⟩ := hsame
  refine ⟨hconnection, Option.some.inj hcollection, hpage, hsize, hshape, ?_⟩
  intro cursor registry' request hrequest
  obtain ⟨halike, hrank⟩ := Query.askAlike_of_sameShape hshape hsize h.request hrequest
  exact ⟨halike, hrank⟩

/-- A page that was kept and is shown again, and what was looked up. -/
structure Lookup where
  load : Load
  config : QueryConfig
  move : PageMove
  page : CachedPage

def LoadEvent.ask? : LoadEvent → Option (Load × PagePlan)
  | .asked _ load plan => some (load, plan)
  | _ => none

def LoadEvent.lookup? : LoadEvent → Option Lookup
  | .recalled load config move page => some ⟨load, config, move, page⟩
  | _ => none

/-- The filters that the page would be asked for with now. -/
def Lookup.filters (l : Lookup) : Value :=
  Query.withCursor (Query.compileFilters l.config) (Query.startOf ⟨l.move.page, 0, l.move.cursor⟩)

/-- The pages that were shown again. -/
def lookups (journal : List LoadEvent) : List Lookup := journal.filterMap LoadEvent.lookup?

/-- The first page that was shown again, and what was noted before. -/
theorem lookups_eq_cons {journal : List LoadEvent} {found : Lookup} {rest : List Lookup}
    (h : lookups journal = found :: rest) : ∃ before after, journal =
      before ++ .recalled found.load found.config found.move found.page :: after := by
  obtain ⟨before, event, after, rfl, -, hfound, -⟩ := List.filterMap_eq_cons_iff.mp h
  cases event with
  | recalled load config move page =>
    cases hfound
    exact ⟨before, after, rfl⟩
  | _ => cases hfound

/-- Every page that is shown again was fetched with the request that would be sent now, for pages of
some size and with something known of attributes. -/
def AnswersNow : List LoadEvent → Prop :=
  Throughout fun before event => ∀ load config move page, event = .recalled load config move page →
    ∃ sent first plan, .fetched sent first plan (page.rows.map .object) ∈ before ∧
      ∃ pageSize registry request,
        Query.compilePage config ⟨move.page, pageSize, move.cursor⟩ registry = .ok request ∧
        (Value.object sent.request).inOrder = (Value.object request.toFields).inOrder

/-- The loads that asked for a page, with their plans. -/
def asks (journal : List LoadEvent) : List (Load × PagePlan) := journal.filterMap LoadEvent.ask?

theorem mem_asks {journal : List LoadEvent} {sent : Sent} {load : Load} {plan : PagePlan}
    (h : .asked sent load plan ∈ journal) : (load, plan) ∈ asks journal :=
  List.mem_filterMap.mpr ⟨_, h, rfl⟩

/-- A page that is shown again was fetched with the filters that it would be asked for with now. -/
theorem AnswersNow.filters {journal : List LoadEvent} (h : AnswersNow journal)
    (hgrounded : Throughout Grounded journal) {found : Lookup} (hlookup : found ∈ lookups journal) :
    ∃ asked ∈ asks journal,
      Json.canonical asked.2.request.filters = Json.canonical found.filters := by
  obtain ⟨event, hmem, hevent⟩ := List.mem_filterMap.mp hlookup
  cases event with
  | recalled load config move page =>
    cases hevent
    obtain ⟨before, after, rfl, hanswer⟩ := h.of_mem hmem
    obtain ⟨sent, first, plan, hfetched, pageSize, registry, request, hrequest, hsame⟩ :=
      hanswer load config move page rfl
    obtain ⟨earlier, later, rfl, -⟩ := asked_of_fetched hgrounded.earlier hfetched
    obtain ⟨-, hsent, -⟩ := hgrounded.earlier earlier _ later rfl
    rw [hsent, Request.toFields_iff] at hsame
    obtain ⟨hfilters, -⟩ := List.cons.inj hsame
    refine ⟨(first, plan), mem_asks (List.mem_append_left _
      (List.mem_append_right earlier List.mem_cons_self)), ?_⟩
    have hnow : request.filters = Lookup.filters ⟨load, config, move, page⟩ :=
      (Query.requests hrequest).filters
    rw [← hnow]
    unfold Json.canonical
    rw [(Json.valueText_eq_iff _ _).mpr (Prod.mk.inj hfilters).2]
  | _ => cases hevent

namespace Session

/-! ## The law -/

/-- A page that is shown again was asked for before, and what its rows were the answer to has a
fingerprint of the page that is looked up now. If the texts of these fingerprints are the same, the
request that would be sent now has the same filters, apart from where the page starts, and asks for
as much. It is the same on the wire just if the page starts behind the same key and the ranking is
the same; and the ranking is, up to numbers that are not finite, unless it depends on what is known
of attributes. -/
theorem recalled_page_was_asked_for (settings : Settings) (connection collection : Option String)
    (executor : Option Nat) (archive : Option Archive) (backends : List Backend)
    (provider : Option Provider) (s : Session)
    (hcourse : ReflTransGen (Step fun _ => True)
      (.start (.start settings connection collection executor archive) backends provider) s)
    (before : List LoadEvent) (load : Load) (config : QueryConfig) (move : PageMove)
    (page : CachedPage) (after : List LoadEvent)
    (hjournal : s.journal = before ++ .recalled load config move page :: after) :
    (∃ used pageSize, page.fingerprint =
      Cache.fingerprint used load.collection config move.page pageSize) ∧
    ∃ sent first plan,
      .asked sent first plan ∈ before ∧
      .fetched sent first plan (page.rows.map .object) ∈ before ∧
      sent.collection = first.collection ∧ sent.request = plan.request.toFields ∧
      plan.fingerprint = page.fingerprint ∧
      (∃ used pageSize registry, plan.MadeWith used first.collection pageSize registry) ∧
      ∀ used pageSize registry used' pageSize',
        plan.MadeWith used first.collection pageSize registry →
        page.fingerprint = Cache.fingerprint used' load.collection config move.page pageSize' →
        plan.pageBytes used first.collection pageSize =
          Cache.pageBytes used' load.collection config move.page pageSize' →
        used = used' ∧ first.collection = load.collection ∧ plan.move.page = move.page ∧
        pageSize = pageSize' ∧ plan.config.SameShape config ∧ ∀ registry' request,
          Query.compilePage config ⟨move.page, pageSize', move.cursor⟩ registry' = .ok request →
          plan.AnswersFor registry config ⟨move.page, pageSize', move.cursor⟩ registry' request := by
  obtain ⟨hpath, -⟩ := course_leads anyRealm_laws hcourse
    (within_start _ provider fun _ _ => trivial)
  have hgrounded := (Traced.leads hpath (traced_start _ _ _ rfl)).grounded
  obtain ⟨hkept, sent, first, plan, hprint, hfetched⟩ := hgrounded before _ after hjournal
  dsimp only at hgrounded
  rw [hjournal] at hgrounded
  obtain ⟨earlier, later, rfl, hlater⟩ := asked_of_fetched hgrounded.earlier hfetched
  obtain ⟨hcollection, hrequest, hmade⟩ := hgrounded.earlier earlier _ later rfl
  refine ⟨hkept, sent, first, plan, List.mem_append_right _ List.mem_cons_self, hfetched,
    hcollection, hrequest, hprint, hmade.madeWith, ?_⟩
  intro used pageSize registry used' pageSize' hmade hlookup hsame
  obtain ⟨hused, hsameCollection, hpage, hsize, hshape, hanswers⟩ := hmade.answersFor hsame
  exact ⟨hused, hsameCollection, hpage, hsize, hshape, hanswers move.cursor⟩

/-! ## A page that starts behind another key now -/

/-- A browser of three documents in one store; a page holds one document. -/
def threeDocuments : Session :=
  .start (.start { Settings.default with pageSize := 1 } (some "main") (some "docs") (some 0) none)
    [.ofSource (.store ⟨[("docs", [⟨.int 1, [("id", .int 1)]⟩, ⟨.int 2, [("id", .int 2)]⟩,
      ⟨.int 3, [("id", .int 3)]⟩])], []⟩ false)] none

/-- The first two pages are shown; the first document is deleted behind the back of the browser; the
first page is loaded anew, and the second one is shown again. -/
def shiftedPages : Session :=
  [.load (.int 1) false, .load (.int 2) false,
    .backend 0 (.delete "docs" (.list [.int 1])), .load (.int 1) true, .load (.int 2) false].foldl
    (fun s command => s.ask 1 command) threeDocuments

theorem shiftedPages_course : ReflTransGen (Step fun _ => True) threeDocuments shiftedPages :=
  course_foldl_ask (fun _ _ => trivial) threeDocuments

/-- The first page was asked for twice, and the second one in between; that one is looked up when it
would be asked for behind the second document. All plans are made for pages of one document of one
connection, and what is looked up has the text of the plan with its fingerprint. -/
theorem shiftedPages_facts :
    (asks shiftedPages.journal).map (fun (_, plan) => Json.canonical plan.request.filters) =
      ["null", "[\"id\",\"Gt\",1]", "null"] ∧
    (lookups shiftedPages.journal).map (fun found => Json.canonical found.filters) =
      ["[\"id\",\"Gt\",2]"] ∧
    ∀ found ∈ lookups shiftedPages.journal, found.load.collection = "docs" ∧
      ∀ asked ∈ asks shiftedPages.journal, asked.2.fingerprint = found.page.fingerprint →
        asked.1.collection = "docs" ∧ asked.2.request.topK = some 1 ∧
        asked.2.fingerprint =
          Cache.fingerprint (some "main") "docs" asked.2.config asked.2.move.page 1 ∧
        asked.2.pageBytes (some "main") "docs" 1 =
          Cache.pageBytes (some "main") "docs" found.config found.move.page 1 := by
  decide +kernel

/-- The second page is shown again as it was fetched behind the first document, where it would be
asked for behind the second one now. -/
theorem shifted_page_is_not_asked_for :
    ReflTransGen (Step fun _ => True) threeDocuments shiftedPages ∧
      ¬ AnswersNow shiftedPages.journal := by
  refine ⟨shiftedPages_course, fun hanswers => ?_⟩
  obtain ⟨hpath, -⟩ := course_leads anyRealm_laws shiftedPages_course
    (within_start _ none fun _ _ => trivial)
  have hgrounded := (Traced.leads hpath (traced_start _ _ _ rfl)).grounded
  obtain ⟨hasks, hlookups, -⟩ := shiftedPages_facts
  obtain ⟨found, hfound, hnow⟩ := List.map_eq_singleton_iff.mp hlookups
  obtain ⟨asked, hasked, hsame⟩ := hanswers.filters hgrounded
    (hfound ▸ List.mem_singleton_self found)
  have hthen := List.mem_map_of_mem
    (f := fun (_, plan) => Json.canonical plan.request.filters) hasked
  rw [hasks] at hthen
  dsimp only at hthen
  rw [hsame, hnow] at hthen
  exact absurd hthen (by decide)

/-- It was asked for by the same query; what would be asked for now starts behind another key, and
is the same otherwise. -/
theorem shifted_page_was_asked_for : ∃ found ∈ lookups shiftedPages.journal, ∃ sent first plan,
    .asked sent first plan ∈ shiftedPages.journal ∧ sent.request = plan.request.toFields ∧
      plan.move.page = found.move.page ∧ plan.config.SameShape found.config ∧
      ∃ registry, ∀ registry' request, Query.compilePage found.config
          ⟨found.move.page, 1, found.move.cursor⟩ registry' = .ok request →
        plan.AnswersFor registry found.config ⟨found.move.page, 1, found.move.cursor⟩ registry'
          request := by
  obtain ⟨-, hlookups, htexts⟩ := shiftedPages_facts
  obtain ⟨found, hfound, -⟩ := List.map_eq_singleton_iff.mp hlookups
  have hmem : found ∈ lookups shiftedPages.journal := hfound ▸ List.mem_singleton_self found
  obtain ⟨hlookedUp, hplans⟩ := htexts found hmem
  obtain ⟨before, after, hjournal⟩ := lookups_eq_cons hfound
  obtain ⟨-, sent, first, plan, hasked, -, -, hrequest, hprint, ⟨_, pageSize, registry, hmade⟩,
    hanswers⟩ := recalled_page_was_asked_for { Settings.default with pageSize := 1 } (some "main")
      (some "docs") (some 0) none threeDocuments.backends none shiftedPages shiftedPages_course before
      found.load found.config found.move found.page after hjournal
  have hmem' : .asked sent first plan ∈ shiftedPages.journal :=
    hjournal ▸ List.mem_append_left _ hasked
  obtain ⟨hcollection, htopK, htext, hsame⟩ := hplans (first, plan) (mem_asks hmem') hprint
  dsimp only at hcollection htopK htext hsame
  have hsize : 1 = pageSize := Option.some.inj (htopK.symm.trans (Query.requests hmade.request).topK)
  subst hsize
  have hmain : plan.MadeWith (some "main") first.collection 1 registry :=
    ⟨hmade.request, hcollection ▸ htext⟩
  have hlookup : found.page.fingerprint =
      Cache.fingerprint (some "main") found.load.collection found.config found.move.page 1 := by
    rw [← hprint, htext, Cache.fingerprint_eq, Cache.fingerprint_eq, hlookedUp]
    exact congrArg Digest.sha256 hsame
  obtain ⟨-, -, hpage, -, hshape, halike⟩ := hanswers (some "main") 1 registry (some "main") 1 hmain
    hlookup (by rw [hcollection, hlookedUp]; exact hsame)
  exact ⟨found, hmem, sent, first, plan, hmem', hrequest, hpage, hshape, registry, halike⟩

end Session

end Folio
