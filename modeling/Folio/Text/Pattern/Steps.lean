-- The steps by which a pattern is matched. Options are settled for each step, groups become marks
-- at their two edges, and the repetition of a single character is kept apart from loops.
import Folio.Character.Blank
import Folio.Text.Pattern.Reader

namespace Folio.Text.Pattern

/-! ## Tests of characters -/

/-- How letters are compared. -/
def Options.case (o : Options) : Character.Case :=
  if o.ignoreCase then (if o.plain then .plain else .every) else .exact

def isPlainDigit (c : Char) : Bool := '0' ≤ c && c ≤ '9'

/-- Whether a character has a property; the plain option looks at plain characters alone. -/
def Property.holds (p : Property) (plain : Bool) (c : Char) : Bool :=
  match p with
  | .digit => if plain then isPlainDigit c else Character.isDecimal c
  | .space => if plain then Number.isLayout c else Character.isBlank c
  | .word =>
    if plain then isPlainDigit c || isPlainLetter c || c == '_' else Character.isWord c

def Member.holds (o : Options) (c : Char) : Member → Bool
  | .char code => o.case.isOneOf code c.toNat
  | .range low high => o.case.inRange low high c.toNat
  | .property negated p => p.holds o.plain c != negated

/-- A test of one character. -/
structure Test where
  single : Single
  options : Options

/-- Whether a character passes a test. -/
def Test.holds (t : Test) (c : Char) : Bool :=
  match t.single with
  | .char code => t.options.case.same code c.toNat
  | .notChar code => !t.options.case.same code c.toNat
  | .any => t.options.dotAll || c != '\n'
  | .oneOf negated members => members.any (·.holds t.options c) != negated

/-! ## Steps -/

/-- A step of matching. -/
inductive Step where
  | take (t : Test)
  | place (p : Place) (o : Options)
  /-- The text of a group once more. -/
  | again (group : Nat) (o : Options)
  /-- The edge of a group is here. -/
  | mark (edge : Nat)
  | choice (branches : List (List Step))
  /-- A repeated character. -/
  | span (greed : Greed) (least : Nat) (most : Option Nat) (t : Test)
  | loop (greed : Greed) (least : Nat) (most : Option Nat) (body : List Step)
  /-- A look at what starts so many characters before. -/
  | look (back : Nat) (negated : Bool) (body : List Step)
  | atomic (body : List Step)
  | conditional (group : Nat) (yes no : List Step)

/-- The edge at which a group starts. -/
def startEdge (group : Nat) : Nat := 2 * (group - 1)

/-- The edge at which a group ends. -/
def endEdge (group : Nat) : Nat := startEdge group + 1

mutual

/-- The test that a part is, if it stands for one character and captures nothing. -/
def Part.test? (o : Options) : Part → Option Test
  | .single s => some ⟨s, o⟩
  | .group none change body => testOf? (o.change change) body
  | _ => none

def testOf? (o : Options) : List Part → Option Test
  | [part] => part.test? o
  | _ => none

end

/-- No look goes back further. -/
def lookLimit : Nat := 4294967295

/-- How far a look behind goes back: the only width that its body has. -/
def lookBack (w : Width) : Except Refusal Nat :=
  if w.least > lookLimit then .error .wideLook
  else if w.least != w.greatest then .error .unevenLook
  else .ok w.least

mutual

/-- The steps of one part. -/
def Part.steps (widths : GroupWidths) (o : Options) : Part → Except Refusal (List Step)
  | .single s => return [.take ⟨s, o⟩]
  | .place p => return [.place p o]
  | .again n => return [.again n o]
  | .group number change body => do
    let inner ← stepsOf widths (o.change change) body
    match number with
    | some n => return .mark (startEdge n) :: inner ++ [.mark (endEdge n)]
    | none => return inner
  | .choice branches => do return [.choice (← stepsOfBranches widths o branches)]
  | .repeated greed least most body => do
    if o.template then throw (.repeatedTemplate greed)
    match testOf? o body with
    | some t => return [.span greed least most t]
    | none => return [.loop greed least most (← stepsOf widths o body)]
  | .look behind negated body => do
    let back ← if behind then lookBack (widthOf widths body) else pure 0
    return [.look back negated (← stepsOf widths o body)]
  | .atomic body => do return [.atomic (← stepsOf widths o body)]
  | .conditional n yes no => do
    let first ← stepsOf widths o yes
    return [.conditional n first (← stepsOf widths o no)]

/-- The steps of parts that follow each other. -/
def stepsOf (widths : GroupWidths) (o : Options) : List Part → Except Refusal (List Step)
  | [] => return []
  | part :: rest => do
    let first ← part.steps widths o
    return first ++ (← stepsOf widths o rest)

def stepsOfBranches (widths : GroupWidths) (o : Options) :
    List (List Part) → Except Refusal (List (List Step))
  | [] => return []
  | branch :: rest => do
    let first ← stepsOf widths o branch
    return first :: (← stepsOfBranches widths o rest)

end

/-! ## The first character -/

mutual

/-- The character with which a part begins, if it is compared as it is. The outer option is none
where the part takes nothing. -/
def Part.lead? (o : Options) : Part → Option (Option Nat)
  | .single (.char code) => some (if o.case.isCased code then none else some code)
  | .group _ change body => leadOf? (o.change change) body
  | _ => some none

def leadOf? (o : Options) : List Part → Option (Option Nat)
  | [] => none
  | part :: rest => (part.lead? o).orElse (fun _ => leadOf? o rest)

end

/-- Whether a member of a set of characters has other forms. -/
def Member.isCased (o : Options) : Member → Bool
  | .char code => o.case.isCased code
  | .range low high =>
    high > Character.lastBasic
      || (List.range (high + 1 - low)).any (fun k => o.case.isCased (low + k))
  | .property _ _ => false

/-- The character with which a branch begins, if it is compared as it is. -/
def branchLead? (o : Options) : List Part → Option Single
  | .single (.char code) :: _ => if o.case.isCased code then none else some (.char code)
  | _ => none

mutual

/-- The characters with which a part can begin, if they are compared as they are. -/
def Part.leads? (o : Options) : Part → Option (List Single)
  | .group _ change body => leadsOf? (o.change change) body
  | .choice branches => branches.mapM (branchLead? o)
  | .single (.oneOf negated members) =>
    if o.ignoreCase && members.any (·.isCased o) then none else some [.oneOf negated members]
  | _ => none

def leadsOf? (o : Options) : List Part → Option (List Single)
  | part :: _ => part.leads? o
  | [] => none

end

/-! ## Programs -/

/-- A pattern ready to be searched for. -/
structure Program where
  steps : List Step
  /-- No match is shorter. -/
  least : Nat
  /-- A match begins with a character that passes one of these tests; if there are none, nothing
  is known about it. -/
  leads : List Test

/-- The tests that a first character is screened with. They are made under the options of the
whole pattern, whatever options stand around the character itself. -/
def Whole.leads (w : Whole) : List Test :=
  let singles : List Single := match leadOf? w.options w.parts with
    | some (some code) => [.char code]
    | _ => (leadsOf? w.options w.parts).getD []
  singles.map (fun s => ⟨s, { w.options with ignoreCase := false }⟩)

def Whole.program (w : Whole) : Except Refusal Program := do
  let least := (widthOf w.widths w.parts).least
  let leads := if least == 0 then [] else w.leads
  return ⟨← stepsOf w.widths w.options w.parts, least, leads⟩

/-- Reads a pattern and lays out its steps, or says why it is none. -/
def compile (text : List Char) : Except Refusal Program := do (← read text).program

end Folio.Text.Pattern
