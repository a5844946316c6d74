-- Walks through pages: pages that are planned and committed one after another, starting over now and
-- then. The keys a walk remembers are those by which it went forward into the pages up to the one
-- shown, so going back to a page, or staying on it, enters it by the same key.
import Mathlib.Data.List.Induction
import Folio.Proofs.LearnedSessions

namespace Folio

/-! ## What is done in a walk -/

/-- The rows of a page that has been fetched, and the key of the last of them, if it has one. -/
structure PageRows where
  rows : List Value
  last : Option RowKey
  ends : EndsIn rows last

/-- What is done next in a walk: it starts over, or a page is asked for and its rows are shown. -/
inductive WalkStep where
  | reset (pageSize : Option Int)
  | visit (target : Int) (shown : PageRows)

/-- A walk, with the moves that have been committed, the latest first. -/
structure Walk where
  paging : Paging
  moves : List PageMove

namespace Walk

def start (pageSize : Int) : Walk := ⟨.start pageSize, []⟩

def take (w : Walk) : WalkStep → Except Fault Walk
  | .reset pageSize =>
    (⟨·, w.moves⟩) <$> Checked.orFault (w.paging.reset (.ofOption .int pageSize))
  | .visit target shown =>
    let move := w.paging.plan target
    (⟨·, move :: w.moves⟩) <$> w.paging.commit move shown.rows

def run (w : Walk) (steps : List WalkStep) : Except Fault Walk := steps.foldlM take w

/-- The latest move that went forward into a page. -/
def lastForward? (w : Walk) (page : Int) : Option PageMove :=
  w.moves.find? fun move => move.direction == .forward && move.page == page

end Walk

/-- The key at the end of the page that was shown last since the walk started over. -/
def lastKey? (steps : List WalkStep) : Option RowKey :=
  match steps.getLast? with
  | some (.visit _ shown) => shown.last
  | _ => none

/-! ## Moves -/

namespace Paging

/-- There is a key for every page from the second to the one shown. -/
def Stacked (p : Paging) : Prop := p.page = p.previous.length + 1

/-- Where a move leads: to the first page, to a page that was entered before and by its key, or one
page on behind the last key. -/
inductive Route (p : Paging) : PageMove → Prop where
  | home (direction : Direction) (hforward : direction ≠ .forward) : p.Route ⟨1, none, direction⟩
  | back (i : Nat) (key : RowKey) (direction : Direction) (hkey : p.previous[i]? = some key)
      (hforward : direction ≠ .forward) : p.Route ⟨i + 2, some key, direction⟩
  | on (key : RowKey) (hnext : p.next = some key) : p.Route ⟨p.page + 1, some key, .forward⟩

variable {p : Paging} {target : Int}

theorem Stacked.entryCursor (h : p.Stacked) {page : Int} (hfrom : 1 < page) (hto : page ≤ p.page) :
    ∃ key, p.previous[(page - 2).toNat]? = some key ∧ p.entryCursor page = some key := by
  unfold Stacked at h
  have hlt : (page - 2).toNat < p.previous.length := by omega
  have hkey := List.getElem?_eq_getElem hlt
  exact ⟨_, hkey, by rw [Paging.entryCursor, if_neg (by omega), hkey]⟩

theorem plan_of_le_one (h : target ≤ 1) : p.plan target = ⟨1, none, .first⟩ := by
  unfold plan
  rw [max_eq_left h]
  exact if_pos rfl

theorem plan_of_page_lt (hfrom : 1 < target) (h : p.page < target) :
    p.plan target = match p.next with
      | none => ⟨p.page, p.entryCursor p.page, .reload⟩
      | some key => ⟨p.page + 1, some key, .forward⟩ := by
  unfold plan
  rw [max_eq_right (by omega)]
  have hone : ¬ target = 1 := by omega
  have hpage : ¬ target = p.page := by omega
  exact (if_neg hone).trans ((if_neg hpage).trans (if_pos h))

/-- A page that was entered before is entered by its key; nothing leads home from there. -/
theorem Stacked.plan_of_le_page (hstacked : p.Stacked) (hfrom : 1 < target) (h : target ≤ p.page) :
    ∃ key, p.previous[(target - 2).toNat]? = some key ∧
      p.plan target = ⟨target, some key, if target = p.page then .reload else .backward⟩ := by
  obtain ⟨key, hkey, hentry⟩ := hstacked.entryCursor hfrom h
  refine ⟨key, hkey, ?_⟩
  unfold plan
  rw [max_eq_right (by omega)]
  simp only [if_neg (show ¬ target = 1 by omega)]
  by_cases heq : target = p.page
  · simp only [← heq, hentry, if_true]
  · simp only [if_neg heq, if_neg (show ¬ target > p.page by omega), hentry]

/-- Every move that is planned leads somewhere. -/
theorem Stacked.route_plan (h : p.Stacked) (target : Int) : p.Route (p.plan target) := by
  have hback : ∀ {page : Int} {key : RowKey} {direction : Direction}, 1 < page →
      p.previous[(page - 2).toNat]? = some key → direction ≠ .forward →
      p.Route ⟨page, some key, direction⟩ := by
    intro page key direction hpage hkey hforward
    have heq : page = ((page - 2).toNat : Int) + 2 := by omega
    rw [heq]
    exact .back _ key direction hkey hforward
  by_cases hhome : target ≤ 1
  · rw [plan_of_le_one hhome]
    exact .home .first (by decide)
  by_cases hentered : target ≤ p.page
  · obtain ⟨key, hkey, hplan⟩ := h.plan_of_le_page (by omega) hentered
    rw [hplan]
    exact hback (by omega) hkey (by split <;> decide)
  rw [plan_of_page_lt (by omega) (by omega)]
  split
  next =>
    by_cases hfirst : p.page ≤ 1
    · have hpage : p.page = 1 := by unfold Stacked at h; omega
      rw [hpage]
      exact .home .reload (by decide)
    · obtain ⟨key, hkey, hentry⟩ := h.entryCursor (by omega) (le_refl p.page)
      rw [hentry]
      exact hback (by omega) hkey (by decide)
  next key hnext => exact .on key hnext

end Paging

/-! ## What a walk remembers -/

namespace Walk

/-- The keys that are remembered are those of the latest moves forward into their pages, and the last
key is that of the rows shown. -/
structure Remembers (w : Walk) (last : Option RowKey) : Prop where
  stacked : w.paging.Stacked
  entries : ∀ (i : Nat) key, w.paging.previous[i]? = some key →
    ∃ move, w.lastForward? ((i : Int) + 2) = some move ∧ move.cursor = some key
  next : w.paging.next = last

variable {w : Walk} {last : Option RowKey}

theorem lastForward?_cons_of_ne {move : PageMove} {page : Int} (paging : Paging)
    (h : move.direction ≠ .forward ∨ move.page ≠ page) :
    lastForward? ⟨paging, move :: w.moves⟩ page = w.lastForward? page := by
  unfold lastForward?
  rw [List.find?_cons_of_neg]
  simpa only [Bool.and_eq_true, beq_iff_eq, not_and_or] using h

theorem lastForward?_cons_self {move : PageMove} (paging : Paging)
    (h : move.direction = .forward) :
    lastForward? ⟨paging, move :: w.moves⟩ move.page = some move := by
  unfold lastForward?
  rw [List.find?_cons_of_pos]
  simp only [h, beq_self_eq_true, Bool.and_self]

theorem remembers_start (pageSize : Int) (moves : List PageMove) :
    Remembers ⟨.start pageSize, moves⟩ none :=
  ⟨rfl, fun _ _ h => (by cases h), rfl⟩

/-- A move commits the key it was made by, on top of those of the pages before. -/
theorem Remembers.commit (h : w.Remembers last) {move : PageMove} (hroute : w.paging.Route move)
    (shown : PageRows) :
    ∃ q, w.paging.commit move shown.rows = .ok q ∧ Remembers ⟨q, move :: w.moves⟩ shown.last := by
  have hstacked := h.stacked
  unfold Paging.Stacked at hstacked
  cases hroute with
  | home direction hforward =>
    have hkeys : w.paging.entered ⟨1, none, direction⟩ = .sound [] := rfl
    refine ⟨_, Paging.commit_of_endsIn shown.ends hkeys, rfl, fun i key hkey => ?_, rfl⟩
    cases hkey
  | back i key direction hkey hforward =>
    have hkeys : w.paging.entered ⟨i + 2, some key, direction⟩ =
        .sound (w.paging.previous.take (i + 1)) := by
      rw [List.take_add_one, hkey]
      simp only [Paging.entered, Option.toList_some, if_neg (show ¬ (i : Int) + 2 ≤ 1 by omega),
        Int.add_sub_cancel, Int.toNat_natCast]
    refine ⟨_, Paging.commit_of_endsIn shown.ends hkeys, ?_, fun j other hother => ?_, rfl⟩
    · have hlt : i < w.paging.previous.length := (List.getElem?_eq_some_iff.mp hkey).1
      simp only [Paging.Stacked, List.length_take]
      omega
    · rw [lastForward?_cons_of_ne _ (.inl hforward)]
      rw [List.getElem?_take] at hother
      split at hother
      · exact h.entries j other hother
      · cases hother
  | on key hnext =>
    have hkeys : w.paging.entered ⟨w.paging.page + 1, some key, .forward⟩ =
        .sound (w.paging.previous ++ [key]) := by
      have htake : (w.paging.page + 1 - 2).toNat = w.paging.previous.length := by omega
      simp only [Paging.entered, if_neg (show ¬ w.paging.page + 1 ≤ 1 by omega), htake,
        List.take_length]
    refine ⟨_, Paging.commit_of_endsIn shown.ends hkeys, ?_, fun j other hother => ?_, rfl⟩
    · simp only [Paging.Stacked, List.length_append, List.length_singleton]
      omega
    · by_cases hlast : j = w.paging.previous.length
      · subst hlast
        rw [List.getElem?_concat_length] at hother
        have hpage : ((w.paging.previous.length : Nat) : Int) + 2 = w.paging.page + 1 := by omega
        rw [hpage]
        exact ⟨_, lastForward?_cons_self _ rfl, hother⟩
      · have hlt := (List.getElem?_eq_some_iff.mp hother).1
        rw [List.length_append, List.length_singleton] at hlt
        rw [lastForward?_cons_of_ne _ (.inr (by dsimp only; omega))]
        rw [List.getElem?_append_left (by omega)] at hother
        exact h.entries j other hother

/-- Starting over never fails. -/
theorem reset_eq (p : Paging) (pageSize : Option Int) :
    ∃ size, p.reset (.ofOption .int pageSize) = .sound (.start size) := by
  unfold Paging.reset
  cases pageSize with
  | none => exact ⟨p.pageSize, rfl⟩
  | some n =>
    by_cases hn : (Value.int n).isTrue
    · exact ⟨n, if_pos hn⟩
    · exact ⟨p.pageSize, if_neg hn⟩

/-- What a step of a walk leaves for the next. -/
theorem Remembers.take (h : w.Remembers last) (steps : List WalkStep) (step : WalkStep) :
    ∃ t, w.take step = .ok t ∧ t.Remembers (lastKey? (steps ++ [step])) := by
  unfold lastKey?
  rw [List.getLast?_concat]
  cases step with
  | reset pageSize =>
    obtain ⟨size, hsize⟩ := reset_eq w.paging pageSize
    exact ⟨_, by rw [Walk.take, hsize]; rfl, remembers_start size w.moves⟩
  | visit target shown =>
    obtain ⟨q, hq, hremembers⟩ := h.commit (h.stacked.route_plan target) shown
    exact ⟨_, by rw [Walk.take, hq]; rfl, hremembers⟩

theorem remembers_run (pageSize : Int) (steps : List WalkStep) :
    ∃ w, (start pageSize).run steps = .ok w ∧ w.Remembers (lastKey? steps) := by
  induction steps using List.reverseRecOn with
  | nil => exact ⟨_, rfl, remembers_start pageSize []⟩
  | append_singleton steps step ih =>
    obtain ⟨w, hrun, hremembers⟩ := ih
    obtain ⟨t, ht, hlater⟩ := hremembers.take steps step
    refine ⟨t, ?_, hlater⟩
    rw [run, List.foldlM_append]
    rw [run] at hrun
    rw [hrun]
    simp only [bind, Except.bind, List.foldlM_cons, ht, List.foldlM_nil, pure, Except.pure]

/-! ## The law -/

/-- The key by which a walk last went forward into a page; there is none for the first page. -/
def entryKey? (w : Walk) (page : Int) : Option RowKey :=
  if page ≤ 1 then none else (w.lastForward? page).bind (·.cursor)

/-- The move to a page that is asked for, when the rows shown end with the key. -/
def destination (w : Walk) (last : Option RowKey) (target : Int) : PageMove :=
  let page := w.paging.page
  if target ≤ 1 then ⟨1, none, .first⟩
  else if target ≤ page then
    ⟨target, w.entryKey? target, if target = page then .reload else .backward⟩
  else match last with
    | some key => ⟨page + 1, some key, .forward⟩
    | none => ⟨page, w.entryKey? page, .reload⟩

theorem Remembers.entryKey?_eq (h : w.Remembers last) {i : Nat} {key : RowKey}
    (hkey : w.paging.previous[i]? = some key) : w.entryKey? ((i : Int) + 2) = some key := by
  obtain ⟨move, hmove, hcursor⟩ := h.entries i key hkey
  rw [entryKey?, if_neg (by omega), hmove]
  exact hcursor

theorem Remembers.entryCursor_eq (h : w.Remembers last) :
    w.paging.entryCursor w.paging.page = w.entryKey? w.paging.page := by
  by_cases hfirst : w.paging.page ≤ 1
  · rw [Paging.entryCursor, entryKey?, if_pos hfirst, if_pos hfirst]
  · obtain ⟨key, hkey, hentry⟩ := h.stacked.entryCursor (by omega) (le_refl w.paging.page)
    have hforward := h.entryKey?_eq hkey
    rw [show ((w.paging.page - 2).toNat : Int) + 2 = w.paging.page by omega] at hforward
    rw [hentry, hforward]

theorem Remembers.plan_eq (h : w.Remembers last) (target : Int) :
    w.paging.plan target = w.destination last target := by
  unfold destination
  by_cases hhome : target ≤ 1
  · rw [if_pos hhome, Paging.plan_of_le_one hhome]
  by_cases hentered : target ≤ w.paging.page
  · obtain ⟨key, hkey, hplan⟩ := h.stacked.plan_of_le_page (by omega) hentered
    have hforward := h.entryKey?_eq hkey
    rw [show ((target - 2).toNat : Int) + 2 = target by omega] at hforward
    rw [if_neg hhome, if_pos hentered, hplan, hforward]
  · rw [if_neg hhome, if_neg hentered, Paging.plan_of_page_lt (by omega) (by omega), h.next,
      h.entryCursor_eq]
    cases last <;> rfl

/-- Going back to a page, or staying on one behind the first, takes a walk there by the key it last
went forward into the page with. -/
theorem Remembers.reentry (h : w.Remembers last) {move : PageMove} (hroute : w.paging.Route move)
    (hpage : 2 ≤ move.page) (hforward : move.direction ≠ .forward) :
    ∃ earlier key, w.lastForward? move.page = some earlier ∧ earlier.cursor = some key ∧
      move.cursor = some key := by
  cases hroute with
  | home => exact absurd hpage (by dsimp only; decide)
  | back i key direction hkey =>
    obtain ⟨earlier, hearlier, hcursor⟩ := h.entries i key hkey
    exact ⟨earlier, key, hearlier, hcursor, rfl⟩
  | on => exact absurd rfl hforward

/-- A walk through pages of rows that end with a key or without one never fails, however it goes. It
remembers one key for every page from the second to the one shown: that of its latest move forward
into the page. By this key a page behind the first is entered again, whether the walk goes back to it
or stays on it. And from every place a walk goes just where it is asked to, but for pages that were
not entered yet: it goes one page on behind the last key, and nowhere if there is none. -/
theorem pages_are_entered_again_by_their_keys (pageSize : Int) (steps : List WalkStep) :
    ∃ w, (start pageSize).run steps = .ok w ∧
      w.paging.page = w.paging.previous.length + 1 ∧
      (∀ (i : Nat) key, w.paging.previous[i]? = some key →
        ∃ move, w.lastForward? ((i : Int) + 2) = some move ∧ move.cursor = some key) ∧
      (∀ target, let move := w.paging.plan target
        2 ≤ move.page → move.direction ≠ .forward →
          ∃ earlier key, w.lastForward? move.page = some earlier ∧ earlier.cursor = some key ∧
            move.cursor = some key) ∧
      ∀ target, w.paging.plan target = w.destination (lastKey? steps) target := by
  obtain ⟨w, hrun, hremembers⟩ := remembers_run pageSize steps
  exact ⟨w, hrun, hremembers.stacked, hremembers.entries,
    fun target => hremembers.reentry (hremembers.stacked.route_plan target), hremembers.plan_eq⟩

/-- A page of one document. -/
def oneRow (id : Int) : PageRows :=
  ⟨[.object [("id", .int id)]], some (.int id), ⟨_, rfl, rfl⟩⟩

example :
    ((start 1).run
      [.visit 1 (oneRow 10), .visit 2 (oneRow 20), .visit 9 (oneRow 30), .visit 2 (oneRow 20)]).map
      Walk.paging = .ok ⟨2, 1, some (.int 20), [.int 10]⟩ := rfl

end Walk

end Folio
