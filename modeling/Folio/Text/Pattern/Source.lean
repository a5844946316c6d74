-- The text of a pattern under reading: its tokens, a backslash with what follows it being one
-- token, and what has been learned about its groups.
import Folio.Character.Name
import Folio.Text.Pattern.Basic
import Folio.Text.Quoted

namespace Folio.Text.Pattern

/-- A character, or a backslash and a character. -/
abbrev Token := List Char

/-- The state of reading. -/
structure Source where
  chars : Array Char
  /-- Where the text goes on behind the next token. -/
  index : Nat
  next : Option Token
  /-- The options for the whole pattern. -/
  options : Options
  /-- How many groups have been opened. -/
  groups : Nat
  names : List (String × Nat)
  widths : GroupWidths
  /-- Inside a look behind: the number of groups opened before it. -/
  groupsBeforeLook : Option Nat
  /-- Groups asked about by number, with the place where it was done first. -/
  asked : List (Nat × Nat)

/-- A step of reading. -/
abbrev Reading := StateT Source (Except Refusal)

namespace Reading

/-- Where the next token starts. -/
def place : Reading Nat := do
  let s ← get
  return s.index - (s.next.getD []).length

/-- Refuses the pattern at a place so far before the next token. -/
def refuse {α : Type} (complaint : String) (back : Nat) : Reading α := do
  throw (.malformed complaint ((← place) - back))

/-- Moves to the next token. -/
def advance : Reading Unit := do
  let s ← get
  match s.chars[s.index]? with
  | none => set { s with next := none }
  | some '\\' =>
    match s.chars[s.index + 1]? with
    | some c => set { s with next := some ['\\', c], index := s.index + 2 }
    | none => throw (.malformed "bad escape (end of pattern)" (s.chars.size - 1))
  | some c => set { s with next := some [c], index := s.index + 1 }

def peek : Reading (Option Token) := return (← get).next

/-- Takes the next token. -/
def take : Reading (Option Token) := do
  let token ← peek
  advance
  return token

/-- Takes the next token if it is the given character. -/
def accept (c : Char) : Reading Bool := do
  if (← peek) == some [c] then
    advance
    return true
  return false

/-- Goes back to a place. -/
def seek (index : Nat) : Reading Unit := do
  modify (fun s => { s with index := index })
  advance

/-- Takes at most so many characters of a kind. -/
def takeWhile (kind : Char → Bool) : Nat → Reading (List Char)
  | 0 => return []
  | n + 1 => do
    match ← peek with
    | some [c] =>
      if kind c then
        advance
        return c :: (← takeWhile kind n)
      return []
    | _ => return []

/-- Takes a name up to the character that ends it. -/
def takeName (closing : Char) (what : String) : Nat → List Char → Reading (List Char)
  | 0, read => return read
  | fuel + 1, read => do
    match ← take with
    | none =>
      if read.isEmpty then refuse s!"missing {what}" 0
      else refuse s!"missing {closing}, unterminated name" read.length
    | some token =>
      if token == [closing] then
        if read.isEmpty then refuse s!"missing {what}" 1
        return read
      takeName closing what fuel (read ++ token)

/-- The number of characters of the pattern, which bounds every loop over it. -/
def size : Reading Nat := return (← get).chars.size

/-! ## Groups -/

/-- Refuses a name that groups cannot have. -/
def checkName (name : List Char) : Reading Unit := do
  if !Character.isName name then
    refuse ("bad character in group name " ++ String.ofList (quoted name)) (name.length + 1)

/-- Opens a group and gives its number. -/
def openGroup (name : Option (List Char)) : Reading Nat := do
  let s ← get
  let number := s.groups + 1
  match name with
  | none => set { s with groups := number }
  | some letters =>
    let word := String.ofList letters
    match s.names.lookup word with
    | some old =>
      let shown := String.ofList (quoted letters)
      refuse s!"redefinition of group name {shown} as group {number}; was group {old}"
        (letters.length + 1)
    | none => set { s with groups := number, names := s.names ++ [(word, number)] }
  return number

def closeGroup (number : Nat) (body : List Part) : Reading Unit :=
  modify (fun s => { s with widths := (number, widthOf s.widths body) :: s.widths })

/-- Whether a group has been closed. -/
def isClosed (number : Nat) : Reading Bool := return ((← get).widths.lookup number).isSome

/-- Inside a look behind only groups from before it may be used. -/
def checkLook (number : Nat) : Reading Unit := do
  match (← get).groupsBeforeLook with
  | none => return
  | some before =>
    if !(← isClosed number) then refuse "cannot refer to an open group" 0
    if number > before then
      refuse "cannot refer to group defined in the same lookbehind subpattern" 0

end Reading

end Folio.Text.Pattern
