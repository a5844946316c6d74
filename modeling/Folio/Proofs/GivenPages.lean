-- What backends have given. If a backend that is used has given all that is shown and kept, then it
-- still has when something is dropped, and when a page is shown that it has given.
import Folio.Proofs.LoadCustoms

namespace Folio

/-! ## What a backend has given -/

/-- A backend has given rows. -/
def Supplied (backend : Nat) (given : List Yield) (rows : List Fields) : Prop :=
  ∃ sent response, .answer sent response ∈ given ∧ sent.backend = backend ∧
    View.rowsIn response = .ok (rows.map .object)

/-- A backend has told a number of documents, and may have deleted some of them since. -/
inductive CountedBy (backend : Nat) (given : List Yield) : Int → Prop where
  | counted {sent : Sent} {config : QueryConfig} {response : Value} {n : Int}
      (answer : .answer sent response ∈ given) (target : sent.backend = backend)
      (request : sent.request = (Query.compileCount config).toFields)
      (count : View.countIn Query.countLabel response = .ok n) : CountedBy backend given n
  | deleted {n : Int} {k : Nat} (counted : CountedBy backend given n)
      (deleted : .deleted backend k ∈ given) : CountedBy backend given (max 0 (n - k))

/-- A backend has given rows and the number of documents. -/
structure GivenBy (backend : Nat) (given : List Yield) (rows : List Fields) (total : Option Int) :
    Prop where
  rows : Supplied backend given rows
  total : ∃ n, total = some n ∧ CountedBy backend given n

section

variable {backend : Nat} {given more : List Yield} {rows : List Fields} {total : Option Int}

theorem Supplied.mono (h : Supplied backend given rows) (hmore : given ⊆ more) :
    Supplied backend more rows := by
  obtain ⟨sent, response, hanswer, hrest⟩ := h
  exact ⟨sent, response, hmore hanswer, hrest⟩

theorem CountedBy.mono {n : Int} (h : CountedBy backend given n) (hmore : given ⊆ more) :
    CountedBy backend more n := by
  induction h with
  | counted answer target request count => exact .counted (hmore answer) target request count
  | deleted counted deleted ih => exact .deleted ih (hmore deleted)

theorem GivenBy.mono (h : GivenBy backend given rows total) (hmore : given ⊆ more) :
    GivenBy backend more rows total := by
  obtain ⟨hrows, n, htotal, hcounted⟩ := h
  exact ⟨hrows.mono hmore, n, htotal, hcounted.mono hmore⟩

end

namespace Session

variable {o s t : Session} {b : Nat}

/-- What backends have given since. -/
def given (o s : Session) : List Yield := s.yielded.drop o.yielded.length

/-- The records of the first session are the beginning of those of the second. -/
structure Grown (o s : Session) : Prop where
  yielded : o.yielded <+: s.yielded
  journal : o.journal <+: s.journal

theorem Grown.trans (hos : Grown o s) (hst : Grown s t) : Grown o t :=
  ⟨hos.yielded.trans hst.yielded, hos.journal.trans hst.journal⟩

theorem Alongside.grown (h : Alongside s t) : Grown s t := ⟨h.yielded, h.journal⟩

theorem given_mono (hst : s.yielded <+: t.yielded) : o.given s ⊆ o.given t := by
  obtain ⟨new, hnew⟩ := hst
  unfold given
  rw [← hnew, List.drop_append]
  exact List.subset_append_left _ _

theorem mem_given_new (hos : o.yielded <+: s.yielded) {y : Yield}
    (hst : t.yielded = s.yielded ++ [y]) : y ∈ o.given t := by
  obtain ⟨new, hnew⟩ := hos
  unfold given
  rw [hst, ← hnew, List.append_assoc, List.drop_left]
  exact List.mem_append_right _ (List.mem_singleton_self y)

/-- A backend is used, and has given all that is shown and kept since. -/
structure Served (o : Session) (b : Nat) (s : Session) : Prop where
  executor : s.browser.executor = some b
  unfiltered : ∀ n, s.browser.unfiltered = some n → CountedBy b (o.given s) n
  pages : ∀ page ∈ s.browser.cache.pages, GivenBy b (o.given s) page.rows page.total
  shown : ∀ showing, .shown showing ∈ o.since s →
    GivenBy b (o.given s) showing.view.rows showing.view.total

/-- A load is out of date, or its request is out at the backend. -/
def Fitting (o : Session) (b : Nat) (s : Session) : LoadPause → Prop
  | .schema _ _ => True
  | .count sent load _ => load.generation < s.browser.generation ∨
      sent.backend = b ∧ ∃ config, sent.request = (Query.compileCount config).toFields
  | .page sent load _ total => load.generation < s.browser.generation ∨
      sent.backend = b ∧ CountedBy b (o.given s) total

theorem Served.loosens (h : Served o b s) (hos : Grown o s) (hst : Loosens s t) : Served o b t where
  executor := hst.executor.trans h.executor
  unfiltered := by
    intro n hn
    rcases hst.unfiltered with hsame | hnone
    · exact (h.unfiltered n (hsame ▸ hn)).mono (given_mono hst.yielded)
    · rw [hnone] at hn
      cases hn
  pages := fun page hpage => (h.pages page (hst.pages hpage)).mono (given_mono hst.yielded)
  shown := by
    intro showing hmem
    rw [since_trans hos.journal hst.journal] at hmem
    have hold := (List.mem_append.mp hmem).resolve_right (hst.shown showing)
    exact (h.shown showing hold).mono (given_mono hst.yielded)

theorem Fitting.mono {p : LoadPause} (h : Fitting o b s p)
    (hgeneration : s.browser.generation ≤ t.browser.generation) (hst : s.yielded <+: t.yielded) :
    Fitting o b t p := by
  cases p with
  | schema query load => trivial
  | count sent load plan =>
    rcases h with hstale | hours
    · exact .inl (Nat.lt_of_lt_of_le hstale hgeneration)
    · exact .inr hours
  | page sent load plan total =>
    rcases h with hstale | ⟨hours, hcounted⟩
    · exact .inl (Nat.lt_of_lt_of_le hstale hgeneration)
    · exact .inr ⟨hours, hcounted.mono (given_mono hst)⟩

/-- A page is shown that the backend has given. -/
theorem Served.present {showing : Showing} (h : Served o b s) (hos : Grown o s)
    (hst : Shows s t showing)
    (hgiven : GivenBy b (o.given t) showing.view.rows showing.view.total) : Served o b t where
  executor := (congrArg Footing.executor hst.footing).trans h.executor
  unfiltered := by
    intro n hn
    rw [hst.unfiltered] at hn
    split at hn
    · obtain ⟨-, m, hm, hcounted⟩ := hgiven
      rw [hm] at hn
      exact Option.some.inj hn ▸ hcounted
    · exact (h.unfiltered n hn).mono (given_mono hst.yielded)
  pages := by
    intro page hpage
    rcases hst.pages page hpage with hold | ⟨hrows, htotal⟩
    · exact (h.pages page hold).mono (given_mono hst.yielded)
    · rw [hrows, htotal]
      exact hgiven
  shown := by
    intro other hmem
    rw [since_trans hos.journal hst.journal] at hmem
    rcases List.mem_append.mp hmem with hold | hnew
    · exact (h.shown other hold).mono (given_mono hst.yielded)
    · rw [(hst.since other).mp hnew]
      exact hgiven

end Session

end Folio
