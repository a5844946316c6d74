-- Loads of the first page that are forced. In stores whose documents have keys none of them is ever
-- broken off, whatever is done meanwhile: it shows the page, or a failure, or nothing when it is
-- out of date.
import Folio.Proofs.KeyedStores
import Folio.Proofs.LoadCourse

namespace Folio

/-- A load of the first page that does not take a page as it was kept. -/
def Load.IsFirst (load : Load) : Prop := load.page = .int 1 ∧ load.forced = true

/-- The plan of a load of the first page is to go there. -/
def LoadPause.Aims : LoadPause → Prop
  | .schema _ _ => True
  | .count _ load plan | .page _ load plan _ => load.IsFirst → plan.move.page ≤ 1

/-- Commands give only texts and whole numbers for keys. -/
def Command.GivesKeys : Command → Prop
  | .update _ changes | .backend _ (.update _ _ changes) =>
    ∀ fields, changes = .object fields → Folio.GivesKeys fields
  | .upsert rows | .backend _ (.upsert _ rows) => RowsGiveKeys rows
  | _ => True

namespace Session

/-- What is asked for without typing in the search field. -/
def Deliberate (command : Command) : Prop := Command.Prompt command ∧ command.GivesKeys

/-- A realm of stores whose documents have keys. -/
def keyedRealm : Realm where
  backend := Backend.Keyed
  pause := LoadPause.Aims
  breaks := fun load => ¬ load.IsFirst
  command := Deliberate
  wide := False
  flawed := False
  holds := True

/-! ## Loads of the first page -/

end Session

/-- A load of the first page goes there, and nothing breaks it off. -/
def Leg.Aims : Leg → Prop
  | planned load plan | counting _ load plan | counted load plan _ | told load plan _
  | asking _ load plan _ => load.IsFirst → plan.move.page ≤ 1
  | answered _ load plan _ answer => (load.IsFirst → plan.move.page ≤ 1) ∧
      ∀ response, answer = .ok response →
        ∃ fields rows, response = .object fields ∧ Readable fields rows
  | turned _ _ _ _ rows response =>
      ∃ fields found, response = .object fields ∧ rows = found.map .object ∧ Readable fields found
  | stops load (.raised _) => ¬ load.IsFirst
  | stops _ (.paused p) => p.Aims
  | _ => True

theorem LoadPause.Aims.leg {p : LoadPause} (h : p.Aims) : p.leg.Aims := by
  cases p with
  | schema query load => trivial
  | count sent load plan => exact h
  | page sent load plan total => exact h

namespace Session

variable {s t : Session} {leg next : Leg} {load : Load}

/-- The schemas of stores can be taken over. -/
theorem takeSchema_ok {query : SchemaQuery}
    (hkeyed : ∀ b, s.backend? query.backend = some b → b.Keyed) : (s.takeSchema query).2 = .ok () := by
  obtain ⟨t, ht, -⟩ := takeSchema_learned query fun b hb => (hkeyed b hb).inMemory
  rw [ht]

/-- What stores answer whose documents have keys can be read. -/
theorem respond_readable {sent : Sent} {answer : Except Fault Value}
    (hkeyed : ∀ b, s.backend? sent.backend = some b → b.Keyed) (hr : s.respond sent = (t, answer))
    (response : Value) (hresponse : answer = .ok response) :
    ∃ fields rows, response = .object fields ∧ Readable fields rows := by
  subst hresponse
  obtain ⟨b, hb, hanswer⟩ := backend_of_respond (congrArg Prod.snd hr)
  exact (hkeyed b hb).answer hanswer

/-- What is asked for is the first page. -/
theorem Targets.first {move : PageMove} (h : Targets s.browser load move) (hfirst : load.IsFirst) :
    move.page = 1 := by
  obtain ⟨page, htarget, rfl⟩ := h
  rw [hfirst.1] at htarget
  cases htarget
  rfl

theorem kept?_first (hfirst : load.IsFirst) (fingerprint : String) :
    s.kept? load fingerprint = none := by
  unfold kept?
  rw [hfirst.2, Bool.true_or, if_pos rfl]

/-- No load of the first page is broken off. -/
theorem BreaksAt.not_first {f : Fault} (h : BreaksAt s leg load f) (haims : leg.Aims)
    (hkeyed : ∀ number, s.turnsTo? leg = some number → ∀ b, s.backend? number = some b → b.Keyed) :
    ¬ load.IsFirst := by
  intro hfirst
  cases h with
  | schema executor taken =>
    rw [takeSchema_ok (hkeyed _ executor)] at taken
    cases taken
  | taught taken =>
    rw [takeSchema_ok (hkeyed _ rfl)] at taken
    cases taken
  | target target =>
    rw [hfirst.1] at target
    cases target
  | showAgain recalled target found commit =>
    rw [kept?_first hfirst] at found
    cases found
  | rows unread =>
    obtain ⟨fields, rows, rfl, hreadable⟩ := haims.2 _ rfl
    rw [hreadable.rowsIn] at unread
    cases unread
  | commit read commit =>
    obtain ⟨fields, rows, rfl, hreadable⟩ := haims.2 _ rfl
    rw [hreadable.rowsIn] at read
    cases read
    rw [Paging.commit_eq (fun d hd => (hreadable.keys d hd).get_id) (.inl (haims.1 hfirst))] at commit
    cases commit
  | @view _ _ plan total _ _ _ unread =>
    obtain ⟨fields, rows, rfl, rfl, hreadable⟩ := haims
    obtain ⟨view, hview⟩ := hreadable.read total plan.config.aggregates
    rw [hview] at unread
    cases unread

/-- A load of the first page goes on to it. -/
theorem Stride.aims (h : Stride (s, leg) (t, next)) (haims : leg.Aims)
    (hkeyed : ∀ number, s.turnsTo? leg = some number → ∀ b, s.backend? number = some b → b.Keyed) :
    next.Aims := by
  cases h with
  | decide planned target =>
    intro hfirst
    rw [target.first hfirst]
  | know | count | hear | tell | ask => exact haims
  | receive respond => exact ⟨haims, respond_readable (hkeyed _ rfl) respond⟩
  | turn current read commit =>
    obtain ⟨fields, rows, rfl, hreadable⟩ := haims.2 _ rfl
    rw [hreadable.rowsIn] at read
    cases read
    exact ⟨fields, rows, rfl, rfl, hreadable⟩
  | broken breaks => exact breaks.not_first haims hkeyed
  | wait waits =>
    cases waits with
    | schema held => trivial
    | count held => exact haims
    | page held => exact haims
  | _ => trivial

/-! ## The laws of the realm -/

theorem affects_keyed {command : Command} {b c : Backend} (hc : command.GivesKeys)
    (h : Command.Affects command b c) (hb : b.Keyed) : c.Keyed := by
  cases h with
  | delete keys collection b => exact hb.delete collection keys
  | update key changes collection b => exact hb.update collection key hc
  | upsert rows collection b => exact hb.upsert collection hc
  | backend number affects =>
    cases affects with
    | delete collection keys b => exact hb.delete collection keys
    | update collection key changes b => exact hb.update collection key hc
    | upsert collection rows b => exact hb.upsert collection hc
    | _ => exact hb

theorem keyedRealm_laws : keyedRealm.Laws where
  responds := fun hb collection request => Backend.Keyed.respond hb collection request
  affects := fun hc _ _ h hb => affects_keyed hc.2 h hb
  prompt := Or.inr fun hc => hc.1
  schemas := fun hw _ => Or.inl (takeSchema_ok fun b hb => hw.backends b (List.mem_of_getElem? hb))
  holds := fun _ _ => trivial
  loads := ⟨Leg.Aims, fun _ => trivial, LoadPause.Aims.leg, fun hw hstride haims =>
    hstride.aims haims fun _ _ b hb => hw.backends b (List.mem_of_getElem? hb), id, id⟩

end Session

end Folio
