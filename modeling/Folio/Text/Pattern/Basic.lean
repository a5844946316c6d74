-- Search patterns: what they are made of, how wide the texts are that they stand for, and why
-- one is refused. Characters of a pattern are code points, since a pattern may name a code point
-- that no text holds.
import Folio.Character.Fold
import Folio.Number.Reading
import Folio.Text.Words

namespace Folio.Text.Pattern

/-! ## Parts of a pattern -/

/-- Properties of characters that a pattern names. -/
inductive Property where
  | digit
  | space
  | word
  deriving DecidableEq

/-- A member of a set of characters. -/
inductive Member where
  | char (code : Nat)
  | range (low high : Nat)
  | property (negated : Bool) (p : Property)
  deriving DecidableEq

/-- What stands for one character. -/
inductive Single where
  | char (code : Nat)
  | notChar (code : Nat)
  | any
  | oneOf (negated : Bool) (members : List Member)
  deriving DecidableEq

/-- Places in the text. -/
inductive Place where
  /-- The start of the text, or of a line. -/
  | lineStart
  /-- The end of the text or of a line; also before a line break that ends the text. -/
  | lineEnd
  | textStart
  | textEnd
  | wordEdge
  | noWordEdge
  deriving DecidableEq

/-- How a pattern is read and compared. -/
structure Options where
  ignoreCase : Bool
  lines : Bool
  dotAll : Bool
  verbose : Bool
  /-- Only plain characters are letters and figures. -/
  plain : Bool
  /-- Characters of every script are, which is so anyway unless the plain option is on. -/
  everyScript : Bool
  /-- Nothing may be repeated. -/
  template : Bool
  deriving DecidableEq

def Options.none : Options := ⟨false, false, false, false, false, false, false⟩

/-- The options of either. -/
def Options.join (a b : Options) : Options where
  ignoreCase := a.ignoreCase || b.ignoreCase
  lines := a.lines || b.lines
  dotAll := a.dotAll || b.dotAll
  verbose := a.verbose || b.verbose
  plain := a.plain || b.plain
  everyScript := a.everyScript || b.everyScript
  template := a.template || b.template

/-- Options turned on and off inside a group. -/
structure Change where
  on : Options
  off : Options
  deriving DecidableEq

def Change.none : Change := ⟨.none, .none⟩

/-- The options inside a group. -/
def Options.change (o : Options) (c : Change) : Options where
  ignoreCase := (o.ignoreCase || c.on.ignoreCase) && !c.off.ignoreCase
  lines := (o.lines || c.on.lines) && !c.off.lines
  dotAll := (o.dotAll || c.on.dotAll) && !c.off.dotAll
  verbose := (o.verbose || c.on.verbose) && !c.off.verbose
  plain := (o.plain || c.on.plain) && !c.on.everyScript
  everyScript := o.everyScript || c.on.everyScript
  template := o.template

/-- How the repetitions of a part are tried. -/
inductive Greed where
  /-- As many as possible first. -/
  | greedy
  /-- As few as possible first. -/
  | lazy
  /-- As many as possible, and never fewer. -/
  | possessive
  deriving DecidableEq

/-- A part of a pattern. -/
inductive Part where
  | single (s : Single)
  | place (p : Place)
  /-- The text that a group stood for. -/
  | again (group : Nat)
  | group (number : Option Nat) (change : Change) (body : List Part)
  | choice (branches : List (List Part))
  | repeated (greed : Greed) (least : Nat) (most : Option Nat) (body : List Part)
  /-- What follows, or what stands before, without taking it. -/
  | look (behind negated : Bool) (body : List Part)
  /-- The first way to match the body, and no other. -/
  | atomic (body : List Part)
  /-- One or the other, as a group has matched or not. -/
  | conditional (group : Nat) (yes no : List Part)

/-! ## Widths -/

/-- The least and the greatest number of characters that a part takes. -/
structure Width where
  least : Nat
  greatest : Nat
  deriving DecidableEq

/-- Widths are not told apart beyond this one. -/
def widthLimit : Nat := Nat.pow 2 64

def Width.add (v w : Width) : Width :=
  ⟨min (v.least + w.least) widthLimit, min (v.greatest + w.greatest) widthLimit⟩

def Width.orElse (v w : Width) : Width := ⟨min v.least w.least, max v.greatest w.greatest⟩

/-- The width of a body that is repeated. -/
def Width.times (w : Width) (least : Nat) (most : Option Nat) : Width :=
  ⟨min (w.least * least) widthLimit,
    match most with
    | some n => min (w.greatest * n) widthLimit
    | none => if w.greatest == 0 then 0 else widthLimit⟩

/-- The widths of the groups that have been closed. -/
abbrev GroupWidths := List (Nat × Width)

mutual

/-- The width of one part. -/
def Part.width (groups : GroupWidths) : Part → Width
  | .single _ => ⟨1, 1⟩
  | .place _ | .look _ _ _ => ⟨0, 0⟩
  | .again n => (groups.lookup n).getD ⟨0, 0⟩
  | .group _ _ body | .atomic body => widthOf groups body
  | .choice branches => widthOfBranches groups branches
  | .repeated _ least most body => (widthOf groups body).times least most
  | .conditional _ yes no => (widthOf groups yes).orElse (widthOf groups no)

/-- The width of parts that follow each other. -/
def widthOf (groups : GroupWidths) : List Part → Width
  | [] => ⟨0, 0⟩
  | part :: rest => (part.width groups).add (widthOf groups rest)

def widthOfBranches (groups : GroupWidths) : List (List Part) → Width
  | [] => ⟨0, 0⟩
  | [branch] => widthOf groups branch
  | branch :: rest => (widthOf groups branch).orElse (widthOfBranches groups rest)

end

/-! ## Simpler forms -/

/-- A set of characters: each member once, and a set of one character as that character. -/
def Part.ofMembers (negated : Bool) (members : List Member) : Part :=
  match members.eraseDups with
  | [.char code] => .single (if negated then .notChar code else .char code)
  | distinct => .single (.oneOf negated distinct)

/-- Whether two parts are known to be the same: parts with a body never are. -/
def Part.isSame : Part → Part → Bool
  | .single a, .single b => a == b
  | .place a, .place b => a == b
  | .again a, .again b => a == b
  | _, _ => false

/-- The part with which every branch begins. -/
def commonStart? : List (List Part) → Option Part
  | (first :: _) :: others =>
    if others.all (fun branch => match branch with
      | part :: _ => part.isSame first
      | [] => false)
    then some first else none
  | _ => none

/-- The members of a branch that stands for one character of a set that is not negated. -/
def membersOf? : List Part → Option (List Member)
  | [.single (.char code)] => some [.char code]
  | [.single (.oneOf false members)] => some members
  | _ => none

/-- Branches as parts: what all begin with stands before the choice, and a choice between single
characters is a set. The fuel bounds the length of the common beginning. -/
def joinBranches : Nat → List (List Part) → List Part
  | 0, branches => [.choice branches]
  | fuel + 1, branches =>
    match commonStart? branches with
    | some first => first :: joinBranches fuel (branches.map (·.drop 1))
    | none =>
      match branches.mapM membersOf? with
      | some members => [.single (.oneOf false members.flatten.eraseDups)]
      | none => [.choice branches]

/-- Groups that neither capture nor change anything are only their bodies. -/
def unpacked (parts : List Part) : List Part :=
  parts.flatMap fun part => match part with
    | .group none change body => if change == .none then body else [part]
    | _ => [part]

/-! ## Refusals -/

/-- Why a pattern is refused. -/
inductive Refusal where
  /-- A complaint about a place of the pattern. -/
  | malformed (complaint : String) (place : Nat)
  /-- A look behind whose body has no single width. -/
  | unevenLook
  /-- A look behind that is too wide. -/
  | wideLook
  /-- A number of repetitions beyond the greatest one. -/
  | tooManyRepeats
  /-- A number of repetitions with too many figures. -/
  | tooManyFigures (figures : Nat)
  /-- The number of a code point far beyond the last one. -/
  | tooLargeCode
  /-- Plain characters and those of every script are both asked for. -/
  | mixedScripts
  /-- A repetition where nothing may be repeated. -/
  | repeatedTemplate (greed : Greed)
  deriving DecidableEq

def Greed.name : Greed → String
  | .greedy => "MAX_REPEAT"
  | .lazy => "MIN_REPEAT"
  | .possessive => "POSSESSIVE_REPEAT"

/-- The words of a refusal. If the pattern has several lines, the place is given by line and
column as well. -/
def Refusal.message (pattern : List Char) : Refusal → String
  | .malformed complaint place =>
    let before := pattern.take place
    let lines := pieces '\n' before
    let line := lines.length
    let column := (lines.getLast?.getD []).length + 1
    let spot := s!"{complaint} at position {place}"
    if pattern.contains '\n' then s!"{spot} (line {line}, column {column})" else spot
  | .unevenLook => "look-behind requires fixed-width pattern"
  | .wideLook => "looks too much behind"
  | .tooManyRepeats => "the repetition number is too large"
  | .tooManyFigures figures => Number.tooLongMessage figures
  | .tooLargeCode => "Python int too large to convert to C int"
  | .mixedScripts => "ASCII and UNICODE flags are incompatible"
  | .repeatedTemplate greed => "internal: unsupported template operator " ++ greed.name

end Folio.Text.Pattern
