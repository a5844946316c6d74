-- Searching for a pattern. What is left to do is kept as a stack of frames: steps to be taken, and
-- loops whose body has just been matched. Attempts are made in order, and what a failed one has
-- remembered about groups goes on to the next.
import Folio.Text.Pattern.Marks

namespace Folio.Text.Pattern

/-! ## Places -/

def isWordAt (o : Options) (c : Option Char) : Bool := c.any (Property.word.holds o.plain)

/-- The character before a place. -/
def charBefore (text : Array Char) (i : Nat) : Option Char :=
  if i == 0 then none else text[i - 1]?

/-- Whether a place of the text is one of a kind. An empty text has no edges, and no place
without one. -/
def Place.holds (o : Options) (text : Array Char) (i : Nat) : Place → Bool
  | .lineStart => i == 0 || o.lines && charBefore text i == some '\n'
  | .lineEnd =>
    i == text.size || i + 1 == text.size && text[i]? == some '\n' || o.lines && text[i]? == some '\n'
  | .textStart => i == 0
  | .textEnd => i == text.size
  | .wordEdge => isWordAt o (charBefore text i) != isWordAt o text[i]?
  | .noWordEdge => !text.isEmpty && isWordAt o (charBefore text i) == isWordAt o text[i]?

/-- How many characters from a place on pass a test, at most so many. -/
def Test.count (t : Test) (text : Array Char) (i : Nat) (most : Option Nat) : Nat :=
  let there := match most with
    | some n => text.extract i (i + n)
    | none => text.extract i text.size
  (there.toList.takeWhile t.holds).length

/-- Whether the text between two places stands at a third one as well. -/
def standsAt (how : Character.Case) (text : Array Char) (first last i : Nat) : Bool :=
  let wanted := (text.extract first last).toList.map (how.key ·.toNat)
  (text.extract i (i + (last - first))).toList.map (how.key ·.toNat) == wanted

/-! ## Attempts -/

/-- Something left to do. -/
inductive Frame where
  | steps (left : List Step)
  /-- A loop whose body has been matched so many times, and the place where the last of these
  matches began, unless it had to be made. -/
  | loop (greed : Greed) (least : Nat) (most : Option Nat) (body : List Step) (done : Nat)
    (last : Option Nat)

def Frame.isLoop : Frame → Bool
  | .loop _ _ _ _ _ _ => true
  | .steps _ => false

/-- The end of an attempt: the place it has come to, unless it failed, and what it remembers. -/
structure Outcome where
  place : Option Nat
  marks : Marks

def Outcome.failed (marks : Marks) : Outcome := ⟨none, marks⟩

/-- The first attempt that does not fail. -/
def firstOf {α : Type} (attempt : α → Marks → Outcome) (undo : Marks → Marks) :
    List α → Marks → Outcome
  | [], marks => .failed marks
  | a :: rest, marks =>
    let outcome := attempt a marks
    if outcome.place.isSome then outcome else firstOf attempt undo rest (undo outcome.marks)

/-- Repeats a body as often as possible, each time for good. The fuel bounds the number of
repetitions. -/
def repeatFully (attempt : Nat → Marks → Outcome) (least : Nat) (most : Option Nat) :
    Nat → Nat → Option Nat → Nat → Marks → Outcome
  | 0, _, _, _, marks => .failed marks
  | fuel + 1, done, last, i, marks =>
    let required := done < least
    if required || most.all (done < ·) && last != some i then
      let outcome := attempt i marks
      match outcome.place with
      | some j =>
        repeatFully attempt least most fuel (done + 1) (if required then last else some i) j
          outcome.marks
      | none => if required then .failed outcome.marks else ⟨some i, marks⟩
    else ⟨some i, marks⟩

/-- The lengths to be tried for a span of so many characters. -/
def spanLengths (greed : Greed) (least found : Nat) : List Nat :=
  let lengths := (List.range (found + 1 - least)).map (least + ·)
  if greed == .lazy then lengths else lengths.reverse

/-- Does what is left from a place on. It matters whether all of it stands inside a repetition.
The fuel bounds the number of steps on the way to the end. -/
def run (text : Array Char) : Nat → Bool → List Frame → Nat → Marks → Outcome
  | 0, _, _, _, marks => .failed marks
  | _ + 1, _, [], i, marks => ⟨some i, marks⟩
  | fuel + 1, inside, .loop greed least most body done last :: rest, i, marks =>
    let again (last : Option Nat) (marks : Marks) :=
      run text fuel inside
        (.steps body :: .loop greed least most body (done + 1) last :: rest) i marks
    let mayRepeat := most.all (done < ·) && last != some i
    if done < least then again last marks
    else if greed == .lazy then
      let left := run text fuel inside rest i marks
      if left.place.isSome then left
      else
        let marks := marks.afterFailure (inside || rest.any Frame.isLoop) left.marks
        if mayRepeat then again (some i) marks else .failed marks
    else if mayRepeat then
      let repeated := again (some i) marks
      if repeated.place.isSome then repeated else run text fuel inside rest i marks
    else run text fuel inside rest i marks
  | fuel + 1, inside, .steps [] :: rest, i, marks => run text fuel inside rest i marks
  | fuel + 1, inside, .steps (step :: left) :: rest, i, marks =>
    let next : List Frame := .steps left :: rest
    let repeating := inside || rest.any Frame.isLoop
    match step with
    | .take t =>
      if (text[i]?).any t.holds then run text fuel inside next (i + 1) marks else .failed marks
    | .place p o =>
      if p.holds o text i then run text fuel inside next i marks else .failed marks
    | .again n o =>
      match marks.group? n with
      | some (first, last) =>
        if standsAt o.case text first last i then
          run text fuel inside next (i + (last - first)) marks
        else .failed marks
      | none => .failed marks
    | .mark edge => run text fuel inside next i (marks.put edge i)
    | .choice branches =>
      firstOf (fun branch => run text fuel inside (.steps branch :: next) i)
        (marks.afterFailure repeating) branches marks
    | .span greed least most t =>
      let found := t.count text i most
      if greed == .possessive then
        if found < least then .failed marks else run text fuel inside next (i + found) marks
      else
        firstOf (fun length => run text fuel inside next (i + length))
          (marks.afterFailure repeating) (spanLengths greed least found) marks
    | .loop greed least most body =>
      if greed == .possessive then
        let outcome := repeatFully (run text fuel repeating [.steps body]) least most
          (least + text.size + 3) 0 none i marks
        match outcome.place with
        | some j => run text fuel inside next j outcome.marks
        | none => outcome
      else run text fuel inside (.loop greed least most body 0 none :: next) i marks
    | .look back negated body =>
      if i < back then
        if negated then run text fuel inside next i marks else .failed marks
      else
        let seen := run text fuel repeating [.steps body] (i - back) marks
        if seen.place.isSome == negated then
          if negated then .failed seen.marks else seen
        else
          run text fuel inside next i
            (if negated then marks.afterFailure repeating seen.marks else seen.marks)
    | .atomic body =>
      let outcome := run text fuel repeating [.steps body] i marks
      match outcome.place with
      | some j => run text fuel inside next j outcome.marks
      | none => outcome
    | .conditional n yes no =>
      let chosen := if (marks.group? n).isSome then yes else no
      run text fuel inside (.steps chosen :: next) i marks

/-! ## Searching -/

mutual

/-- How many frames a step can lead through on the way to an end, in a text of a given size. -/
def Step.cost (size : Nat) : Step → Nat
  | .choice branches => costOfBranches size branches + 1
  | .loop _ least _ body => (least + size + 3) * (costOf size body + 1) + 1
  | .look _ _ body | .atomic body => costOf size body + 1
  | .conditional _ yes no => costOf size yes + costOf size no + 1
  | _ => 1

def costOf (size : Nat) : List Step → Nat
  | [] => 1
  | step :: rest => step.cost size + costOf size rest

def costOfBranches (size : Nat) : List (List Step) → Nat
  | [] => 0
  | branch :: rest => costOf size branch + costOfBranches size rest

end

/-- Whether a match can begin at a place, as far as its first character tells. -/
def Program.mayBeginAt (p : Program) (text : Array Char) (i : Nat) : Bool :=
  p.leads.isEmpty || (text[i]?).any (fun c => p.leads.any (·.holds c))

/-- How many places a match is looked for at. -/
def Program.starts (p : Program) (size : Nat) : Nat :=
  if p.leads.isEmpty then size - (p.least - 1) + 1 else size

/-- What the first match in the text remembers, if there is a match. -/
def Program.firstMatch? (p : Program) (text : List Char) : Option Marks :=
  let chars := text.toArray
  let fuel := costOf chars.size p.steps + 2
  if chars.size < p.least then none
  else (List.range (p.starts chars.size)).findSome? fun i =>
    if p.mayBeginAt chars i then
      let outcome := run chars fuel false [.steps p.steps] i []
      outcome.place.map (fun _ => outcome.marks)
    else none

/-- Whether the pattern matches somewhere in the text. -/
def Program.foundIn (p : Program) (text : List Char) : Bool := (p.firstMatch? text).isSome

end Folio.Text.Pattern
