-- Readers of single fields. They are lenient where nothing is lost: a whole number may be given
-- as a text or as a floating number without a fraction, truth as a word or a digit.
import Folio.Intake.Checked
import Folio.Intake.Numeral
import Folio.Value.Same

namespace Folio

/-- A check of one value. -/
abbrev Reader (α : Type) := Value → Checked α

namespace Reader

/-! ## Scalars -/

def any : Reader Value := .sound

def text : Reader String
  | .text s => .sound s
  | _ => .refused

/-- A text that is not empty. -/
def name : Reader String := fun v => (text v).having (· != "")

/-- Floating numbers are taken for whole ones between this bound and its negative. -/
def wholeBound : Int := (Nat.pow 2 63 : Nat)

/-- The whole number that a floating number is. -/
def wholeOf? (x : Float) : Option Int :=
  match Number.magnitude x with
  | .finite q =>
    if q.den == 1 && -wholeBound < q.num && q.num < wholeBound then some q.num else none
  | _ => none

def ofOption {α : Type} : Option α → Checked α
  | some a => .sound a
  | none => .refused

def whole : Reader Int
  | .int n => .sound n
  | .flag b => .sound (if b then 1 else 0)
  | .float x => ofOption (wholeOf? x)
  | .text s => ofOption (Intake.wholeOfText? s.toList)
  | _ => .refused

/-- A whole number between two bounds. -/
def wholeIn (least : Int) (greatest : Option Int) : Reader Int := fun v =>
  (whole v).having (fun n => decide (least ≤ n) && match greatest with
    | some m => decide (n ≤ m)
    | none => true)

def number : Reader Float
  | .int n => ofOption (Number.ofInt? n)
  | .flag b => .sound (if b then 1.0 else 0.0)
  | .float x => .sound x
  | .text s => ofOption (Intake.floatOfText? s.toList)
  | _ => .refused

def trueWords : List String := ["1", "on", "t", "true", "y", "yes"]

def falseWords : List String := ["0", "off", "f", "false", "n", "no"]

def flagOfWhole : Int → Checked Bool
  | 0 => .sound false
  | 1 => .sound true
  | _ => .refused

def flag : Reader Bool
  | .flag b => .sound b
  | .int n => flagOfWhole n
  | .float x => (ofOption (wholeOf? x)).andThen flagOfWhole
  | .text s =>
    let word := String.ofList (s.toList.map Number.smallLetter)
    if trueWords.contains word then .sound true
    else if falseWords.contains word then .sound false
    else .refused
  | _ => .refused

/-- One of several words. -/
def word {α : Type} (ofName? : String → Option α) : Reader α
  | .text s => ofOption (ofName? s)
  | _ => .refused

/-! ## Values with parts -/

/-- Null, or what another reader takes. -/
def nullable {α : Type} (read : Reader α) : Reader (Option α)
  | .null => .sound none
  | v => (read v).map some

/-- A list of what another reader takes. -/
def listOf {α : Type} (read : Reader α) : Reader (List α)
  | .list items =>
    items.foldr (fun v rest => Checked.both ((read v).map List.cons) rest) (.sound [])
  | _ => .refused

/-- An object of any fields. -/
def fields : Reader Fields
  | .object fields => .sound fields
  | _ => .refused

/-- Two numbers in a list. -/
def pair {α : Type} (read : Reader α) : Reader (α × α)
  | .list [a, b] => Checked.both ((read a).map Prod.mk) (read b)
  | _ => .refused

end Reader

namespace Fields

/-- Reads a field that has to be there. -/
def needed {α : Type} (fields : Fields) (name : String) (read : Reader α) : Checked α :=
  match fields.get? name with
  | some v => (read v).within name
  | none => Checked.refused.within name

/-- Reads a field that may be missing. -/
def optional {α : Type} (fields : Fields) (name : String) (default : α) (read : Reader α) :
    Checked α :=
  match fields.get? name with
  | some v => (read v).within name
  | none => .sound default

end Fields

/-- Reads an object field by field. -/
def Reader.object {α : Type} (read : Fields → Checked α) : Reader α
  | .object fields => read fields
  | _ => .refused

end Folio
