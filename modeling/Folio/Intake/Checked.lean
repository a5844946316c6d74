-- Checking given values against what is expected. Everything that is wrong is collected, each
-- flaw with the field it was found in.
import Folio.Ordered
import Folio.Value.Basic

namespace Folio

/-- One thing wrong with the given values. -/
structure Flaw where
  /-- The outermost field it was found in; none if the whole is wrong. -/
  place : Option String
  /-- What the rules of this library have to say about it, if it is one of them. -/
  note : Option String
  deriving DecidableEq

/-- A value that has been checked, or what is wrong with it. -/
inductive Checked (α : Type) where
  | sound (a : α)
  | flawed (flaws : List Flaw)

namespace Checked

def map {α β : Type} (f : α → β) : Checked α → Checked β
  | sound a => sound (f a)
  | flawed flaws => flawed flaws

/-- Two checks side by side: the flaws of both count. -/
def both {α β : Type} (f : Checked (α → β)) (a : Checked α) : Checked β :=
  match f, a with
  | sound f, sound a => sound (f a)
  | flawed first, flawed second => flawed (first ++ second)
  | flawed flaws, _ => flawed flaws
  | _, flawed flaws => flawed flaws

instance : Applicative Checked where
  pure := sound
  map := map
  seq f a := both f (a ())

/-- A flaw of the value itself. -/
def refused {α : Type} : Checked α := flawed [⟨none, none⟩]

/-- Whatever is wrong was found in a field. -/
def within {α : Type} (field : String) : Checked α → Checked α
  | sound a => sound a
  | flawed flaws => flawed (flaws.map (fun flaw => { flaw with place := some field }))

/-- One more check, made when all others have passed. -/
def andThen {α β : Type} (a : Checked α) (f : α → Checked β) : Checked β :=
  match a with
  | sound a => f a
  | flawed flaws => flawed flaws

/-- Refuses a value that a rule has something to say about. -/
def holding {α : Type} (a : Checked α) (complaint? : α → Option String) : Checked α :=
  a.andThen fun a => match complaint? a with
    | some note => flawed [⟨none, some note⟩]
    | none => sound a

/-- Refuses a value without a property. -/
def having {α : Type} (a : Checked α) (property : α → Bool) : Checked α :=
  a.andThen fun a => if property a then sound a else refused

def toExcept {α : Type} : Checked α → Except (List Flaw) α
  | sound a => .ok a
  | flawed flaws => .error flaws

end Checked

/-- The fields in which something is wrong, sorted and each once. -/
def flawedFields (flaws : List Flaw) : List String :=
  (sortedBy (fun a b => decide (a ≤ b)) (flaws.filterMap (·.place))).eraseDups

/-- What the rules of this library have to say about the flaws. -/
def flawNotes (flaws : List Flaw) : String := "; ".intercalate (flaws.filterMap (·.note))

end Folio
