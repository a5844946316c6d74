-- Walking through pages that can only be entered behind a key. For every page that has been
-- entered the key is remembered, so that the page can be entered the same way again.
import Folio.Collection.Answer
import Folio.Fault
import Folio.Query.RowKey

namespace Folio

/-- How a page is reached from the one before. -/
inductive Direction where
  | first
  | forward
  | backward
  | reload
  deriving DecidableEq

namespace Direction

def all : List Direction := [first, forward, backward, reload]

def name : Direction → String
  | first => "first"
  | forward => "forward"
  | backward => "backward"
  | reload => "reload"

def ofName? (name : String) : Option Direction := all.find? (·.name == name)

end Direction

/-- A step to a page. -/
structure PageMove where
  page : Int
  /-- The key behind which the page starts. -/
  cursor : Option RowKey
  direction : Direction
  deriving DecidableEq

namespace PageMove

def toValue (m : PageMove) : Value := .object [
  ("page", .int m.page),
  ("cursor", .ofOption RowKey.toValue m.cursor),
  ("direction", .text m.direction.name)]

def read : Reader PageMove := Reader.object fun fields =>
  mk <$> fields.needed "page" Reader.whole
    <*> fields.optional "cursor" none (Reader.nullable RowKey.read)
    <*> fields.needed "direction" (Reader.word Direction.ofName?)

end PageMove

/-- Where a walk stands. -/
structure Paging where
  page : Int
  pageSize : Int
  /-- The key of the last document shown, behind which the next page starts. -/
  next : Option RowKey
  /-- The keys by which the pages from the second on were entered. -/
  previous : List RowKey
  deriving DecidableEq

namespace Paging

/-- The first page, with nothing shown yet. -/
def start (pageSize : Int) : Paging := ⟨1, pageSize, none, []⟩

def toValue (p : Paging) : Value := .object [
  ("current_page", .int p.page),
  ("page_size", .int p.pageSize),
  ("next_cursor", .ofOption RowKey.toValue p.next),
  ("previous_cursors", .list (p.previous.map RowKey.toValue))]

/-- The key by which a page was entered. -/
def entryCursor (p : Paging) (page : Int) : Option RowKey :=
  if page ≤ 1 then none else p.previous[(page - 2).toNat]?

/-- The key by which a page was entered, for a page of any kind. Numbers with a fraction have an
order but are no places. -/
def entryCursorOf (p : Paging) (page : Value) : Except Failure Value :=
  match page with
  | .int n => .ok (.ofOption RowKey.toValue (p.entryCursor n))
  | .flag _ => .ok .null
  | .float x =>
    if x ≤ 1.0 || !(x - 2.0 < Float.ofNat p.previous.length) then .ok .null
    else .error ⟨.badType, "list indices must be integers or slices, not float"⟩
  | v => .error (.unordered ⟨.atMost, v.kindName, "int"⟩)

/-- Starts over with the same page size. -/
def restart (p : Paging) : Paging := start p.pageSize

/-- Starts over with a page size, or with the same if none is given. -/
def reset (p : Paging) (pageSize : Value) : Checked Paging :=
  if pageSize.isTrue then (Reader.whole pageSize).within "page_size" |>.map start
  else .sound p.restart

/-! ## Moves -/

/-- The page that a request for one leads to: never further than one behind the page shown, and no
further at all if no document is shown from which to go on. -/
def plan (p : Paging) (target : Int) : PageMove :=
  let target := max 1 target
  if target = 1 then ⟨1, none, .first⟩
  else if target = p.page then ⟨p.page, p.entryCursor p.page, .reload⟩
  else if target > p.page then
    match p.next with
    | none => ⟨p.page, p.entryCursor p.page, .reload⟩
    | some key => ⟨p.page + 1, some key, .forward⟩
  else
    match p.entryCursor target with
    | none => ⟨1, none, .first⟩
    | some key => ⟨target, some key, .backward⟩

/-- The key of a row. -/
def keyOfRow (row : Value) : Except Failure Value :=
  match row with
  | .object fields => .ok (Fields.get fields "id")
  | v => .error (.noMethod v "get")

/-- The keys by which the pages up to the one moved to were entered. -/
def entered (p : Paging) (move : PageMove) : Checked (List RowKey) :=
  if move.page ≤ 1 then .sound []
  else match move.cursor with
    | some key => .sound (p.previous.take (move.page - 2).toNat ++ [key])
    | none => Checked.refused.within "previous_cursors"

/-- Takes note of a page that has been fetched. -/
def commit (p : Paging) (move : PageMove) (rows : List Value) : Except Fault Paging := do
  let last ← match rows.getLast? with
    | some row => (keyOfRow row).mapError Fault.failure
    | none => pure .null
  let next := (Reader.nullable RowKey.read last).within "next_cursor"
  Checked.orFault (mk move.page p.pageSize <$> next <*> p.entered move)

/-! ## Numbers of pages -/

def wholeDivisionByZero : Failure := ⟨.divisionByZero, "division by zero"⟩

def quotientTooLarge : Failure := ⟨.overflow, "integer division result too large for a float"⟩

/-- A floating number rounded up. -/
def roundedUp (x : Float) : Except Failure Int :=
  match Number.magnitude x with
  | .finite q => .ok (-((-q).floor))
  | .infinite _ => .error .infiniteWhole
  | .undefined => .error .undefinedWhole

/-- How many pages a number of documents fills; the quotient is rounded to a floating number
before it is rounded up. -/
def pageCount (p : Paging) (total : Int) : Except Failure Int :=
  if p.pageSize = 0 then .error wholeDivisionByZero
  else match Number.nearest? (mkRat total 1 / p.pageSize) with
    | some x => roundedUp x
    | none => .error quotientTooLarge

/-- The number of pages for a number of any kind. -/
def pageCountOf (p : Paging) (total : Value) : Except Failure Value :=
  match total with
  | .null => .ok .null
  | .int n => .int <$> p.pageCount n
  | .flag b => .int <$> p.pageCount (if b then 1 else 0)
  | .float x => do
    let size ← (Collection.Amount.whole p.pageSize).toFloat
    if size == 0.0 then throw .zeroDivision
    return .int (← roundedUp (x / size))
  | v => .error (.noOperation "/" v.kindName "int")

end Paging

end Folio
