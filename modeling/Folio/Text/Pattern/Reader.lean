-- Reading a search pattern. Alternatives hold sequences, a sequence holds parts, and a mark of
-- repetition changes the part before it.
import Folio.Character.Title
import Folio.Text.Pattern.Source

namespace Folio.Text.Pattern

open Reading

/-! ## Escapes -/

/-- What an escape stands for. -/
inductive Escaped where
  | char (code : Nat)
  | property (negated : Bool) (p : Property)
  | place (p : Place)
  | again (group : Nat)

/-- Escapes for single characters, inside and outside of sets. -/
def controlEscape? : Char → Option Char
  | 'a' => some '\x07'
  | 'b' => some '\x08'
  | 'f' => some '\x0c'
  | 'n' => some '\n'
  | 'r' => some '\r'
  | 't' => some '\t'
  | 'v' => some '\x0b'
  | '\\' => some '\\'
  | _ => none

def propertyEscape? : Char → Option Escaped
  | 'd' => some (.property false .digit)
  | 'D' => some (.property true .digit)
  | 's' => some (.property false .space)
  | 'S' => some (.property true .space)
  | 'w' => some (.property false .word)
  | 'W' => some (.property true .word)
  | _ => none

def placeEscape? : Char → Option Place
  | 'A' => some .textStart
  | 'b' => some .wordEdge
  | 'B' => some .noWordEdge
  | 'Z' => some .textEnd
  | _ => none

def isOctal (c : Char) : Bool := '0' ≤ c && c ≤ '7'

def isHex (c : Char) : Bool := (hexValue? c).isSome

def isPlainLetter (c : Char) : Bool := ('a' ≤ c && c ≤ 'z') || ('A' ≤ c && c ≤ 'Z')

def octalValue (text : List Char) : Nat := text.foldl (fun n c => 8 * n + (c.toNat - 48)) 0

/-- Larger numbers are not even considered as code points. -/
def codeLimit : Nat := 0x7FFFFFFF

/-- A character by the number of its code point, written in so many hexadecimal digits. -/
def hexEscape (letter : Char) (width : Nat) : Reading Escaped := do
  let figures ← takeWhile isHex width
  let written := '\\' :: letter :: figures
  if figures.length != width then
    refuse (String.ofList ("incomplete escape ".toList ++ written)) written.length
  let code := (hexNumber? figures).getD 0
  if code > codeLimit then throw .tooLargeCode
  if code ≥ 0x110000 then
    refuse (String.ofList ("bad escape ".toList ++ written)) written.length
  return .char code

/-- A character by its name. -/
def namedEscape : Reading Escaped := do
  if !(← accept '\x7b') then refuse "missing \x7b" 0
  let name ← takeName '\x7d' "character name" ((← size) + 1) []
  match Character.titled? name with
  | some code => return .char code
  | none =>
    refuse ("undefined character name " ++ String.ofList (quoted name)) (name.length + 4)

/-- An escape of octal digits beyond the characters of one byte is refused. -/
def octalEscape (figures : List Char) : Reading Escaped := do
  let n := octalValue figures
  if n > 0o377 then
    let written := String.ofList ('\\' :: figures)
    refuse s!"octal escape value {written} outside of range 0-0o377" (figures.length + 1)
  return .char n

/-- Escapes with figures, and those that stand for the character itself. -/
def plainEscape (c : Char) : Reading Escaped := do
  if c == 'x' then hexEscape c 2
  else if c == 'u' then hexEscape c 4
  else if c == 'U' then hexEscape c 8
  else if c == 'N' then namedEscape
  else if isPlainLetter c then refuse (String.ofList ("bad escape \\".toList ++ [c])) 2
  else return .char c.toNat

/-- An escape inside a set of characters. -/
def setEscape (c : Char) : Reading Escaped := do
  match controlEscape? c, propertyEscape? c with
  | some d, _ => return .char d.toNat
  | none, some p => return p
  | none, none =>
    if isOctal c then octalEscape (c :: (← takeWhile isOctal 2))
    else if c.isDigit then refuse (String.ofList ("bad escape \\".toList ++ [c])) 2
    else plainEscape c

/-- The text of a group that was matched before. -/
def groupEscape (figures : List Char) : Reading Escaped := do
  let number := Number.valueOf figures
  if number ≤ (← get).groups then
    if !(← isClosed number) then refuse "cannot refer to an open group" (figures.length + 1)
    checkLook number
    return .again number
  refuse s!"invalid group reference {number}" figures.length

/-- An escape of digits: three octal ones name a character, others a group. -/
def numberEscape (c : Char) : Reading Escaped := do
  match ← peek with
  | some [d] =>
    if d.isDigit then
      advance
      match ← peek with
      | some [e] =>
        if isOctal c && isOctal d && isOctal e then
          advance
          octalEscape [c, d, e]
        else groupEscape [c, d]
      | _ => groupEscape [c, d]
    else groupEscape [c]
  | _ => groupEscape [c]

/-- An escape outside of sets. -/
def escape (c : Char) : Reading Escaped := do
  match propertyEscape? c, placeEscape? c, controlEscape? c with
  | some p, _, _ => return p
  | none, some p, _ => return .place p
  | none, none, some d => return .char d.toNat
  | none, none, none =>
    if c == '0' then return .char (octalValue (c :: (← takeWhile isOctal 2)))
    else if c.isDigit then numberEscape c
    else plainEscape c

def Escaped.part : Escaped → Part
  | .char code => .single (.char code)
  | .property negated p => .single (.oneOf false [.property negated p])
  | .place p => .place p
  | .again n => .again n

/-! ## Sets of characters -/

/-- A member of a set from a token. -/
def setMember (token : Token) : Reading Escaped :=
  match token with
  | ['\\', c] => setEscape c
  | c :: _ => return .char c.toNat
  | [] => refuse "unterminated character set" 0

def Escaped.member? : Escaped → Option Member
  | .char code => some (.char code)
  | .property negated p => some (.property negated p)
  | _ => none

/-- The members of a set up to its closing bracket; `start` is where the set was opened. A
closing bracket at the start is a member, and so is a dash at the end. -/
def setMembers (start : Nat) : Nat → List Member → Reading (List Member)
  | 0, members => return members
  | fuel + 1, members => do
    let unterminated : Reading (List Member) := do
      refuse "unterminated character set" ((← place) - start)
    let some token ← take | unterminated
    if token == [']'] && !members.isEmpty then return members
    let first ← setMember token
    if ← accept '-' then
      let some closing ← take | unterminated
      if closing == [']'] then
        return members ++ first.member?.toList ++ [.char '-'.toNat]
      let second ← setMember closing
      let wrong : Reading (List Member) := do
        let shown := String.ofList (token ++ '-' :: closing)
        refuse s!"bad character range {shown}" (token.length + 1 + closing.length)
      match first, second with
      | .char low, .char high =>
        if high < low then wrong
        else setMembers start fuel (members ++ [.range low high])
      | _, _ => wrong
    else setMembers start fuel (members ++ first.member?.toList)

/-! ## Options -/

/-- An option by its letter. -/
def optionOf? : Char → Option Options
  | 'i' => some { Options.none with ignoreCase := true }
  | 'm' => some { Options.none with lines := true }
  | 's' => some { Options.none with dotAll := true }
  | 'x' => some { Options.none with verbose := true }
  | 'a' => some { Options.none with plain := true }
  | 'u' => some { Options.none with everyScript := true }
  | 't' => some { Options.none with template := true }
  | 'L' => some .none
  | _ => none

/-- The letter of an option; else it is said what is missing. -/
def optionLetter (token : Token) (missing : String) : Reading Char := do
  match token with
  | [c] =>
    if (optionOf? c).isSome then return c
    refuse (if Character.isLetter c then "unknown flag" else missing) 1
  | _ => refuse missing token.length

/-- The options turned off, from a letter up to the colon. -/
def optionsOff : Nat → Char → Options → Reading Options
  | 0, _, off => return off
  | fuel + 1, c, off => do
    if c == 'a' || c == 'u' || c == 'L' then
      refuse "bad inline flags: cannot turn off flags 'a', 'u' and 'L'" 0
    let off := off.join ((optionOf? c).getD .none)
    match ← take with
    | none => refuse "missing :" 0
    | some [':'] => return off
    | some token => optionsOff fuel (← optionLetter token "missing :") off

/-- The options turned on, from a letter up to the character that ends them, which is given
as well. -/
def optionsOn : Nat → Char → Options → Reading (Options × Char)
  | 0, c, on => return (on, c)
  | fuel + 1, c, on => do
    if c == 'L' then refuse "bad inline flags: cannot use 'L' flag with a str pattern" 0
    let on := on.join ((optionOf? c).getD .none)
    if on.plain && on.everyScript then
      refuse "bad inline flags: flags 'a', 'u' and 'L' are incompatible" 0
    match ← take with
    | none => refuse "missing -, : or )" 0
    | some token =>
      match token with
      | [')'] => return (on, ')')
      | ['-'] => return (on, '-')
      | [':'] => return (on, ':')
      | _ => optionsOn fuel (← optionLetter token "missing -, : or )") on

/-- Reads options behind a question mark: none for the whole pattern, else those of a group. -/
def options (c : Char) : Reading (Option Change) := do
  let fuel := (← size) + 1
  let (on, closing) ← if c == '-' then pure (Options.none, c) else optionsOn fuel c .none
  if closing == ')' then
    modify (fun s => { s with options := s.options.join on })
    return none
  if on.template then refuse "bad inline flags: cannot turn on global flag" 1
  if closing != '-' then return some ⟨on, .none⟩
  let some token ← take | refuse "missing flag" 0
  let off ← optionsOff fuel (← optionLetter token "missing flag") .none
  if off.template then refuse "bad inline flags: cannot turn off global flag" 1
  if on.ignoreCase && off.ignoreCase || on.lines && off.lines
      || on.dotAll && off.dotAll || on.verbose && off.verbose then
    refuse "bad inline flags: flag turned on and off" 1
  return some ⟨on, off⟩

/-! ## Repetitions -/

/-- No part may be repeated more often. -/
def repeatLimit : Nat := 4294967295

/-- How often a part is repeated. -/
structure Times where
  least : Nat
  most : Option Nat

/-- The number that figures write; none are zero. -/
def count (figures : List Char) : Reading Nat := do
  if figures.length > Number.digitLimit then throw (.tooManyFigures figures.length)
  let n := Number.valueOf figures
  if n ≥ repeatLimit then throw .tooManyRepeats
  return n

/-- The numbers between braces, the first brace having been read; none if no repetition is
written there. -/
def counted (here : Nat) : Reading (Option Times) := do
  let fuel := (← size) + 1
  let low ← takeWhile Char.isDigit fuel
  let comma ← accept ','
  let high ← if comma then takeWhile Char.isDigit fuel else pure low
  if !(← accept '\x7d') then
    seek here
    return none
  let least ← count low
  if high.isEmpty then return some ⟨least, none⟩
  let most ← count high
  if most < least then refuse "min repeat greater than max repeat" ((← place) - here)
  return some ⟨least, some most⟩

/-- The mark behind a repetition that says how it is tried. -/
def greedMark : Reading Greed := do
  if ← accept '?' then return .lazy
  if ← accept '+' then return .possessive
  return .greedy

/-- Repeats the last part read; the parts are held backwards. -/
def repeatLast (here : Nat) (times : Times) (parts : List Part) : Reading (List Part) := do
  let back := (← place) - here + 1
  match parts with
  | [] | .place _ :: _ => refuse "nothing to repeat" back
  | .repeated _ _ _ _ :: _ => refuse "multiple repeat" back
  | part :: rest => return .repeated (← greedMark) times.least times.most (unpacked [part]) :: rest

/-! ## Groups -/

/-- What the marks behind an opening parenthesis announce. -/
inductive Opening where
  /-- Nothing to match: a comment, or options for the whole pattern. -/
  | nothing
  | part (p : Part)
  | group (captured : Bool) (name : Option (List Char)) (change : Change)
  | atomic
  | look (behind negated : Bool)
  | conditional (group : Nat)

/-- Skips a comment up to its closing parenthesis. -/
def skipComment (start : Nat) : Nat → Reading Unit
  | 0 => return
  | fuel + 1 => do
    match ← peek with
    | none => refuse "missing ), unterminated comment" ((← place) - start)
    | some token =>
      advance
      if token != [')'] then skipComment start fuel

/-- A group by its name, or an earlier text by the name of its group. -/
def namedOpening : Reading Opening := do
  let fuel := (← size) + 1
  if ← accept '<' then
    let name ← takeName '>' "group name" fuel []
    checkName name
    return .group true (some name) .none
  if ← accept '=' then
    let name ← takeName ')' "group name" fuel []
    checkName name
    let some number := (← get).names.lookup (String.ofList name)
      | refuse ("unknown group name " ++ String.ofList (quoted name)) (name.length + 1)
    if !(← isClosed number) then refuse "cannot refer to an open group" (name.length + 1)
    checkLook number
    return .part (.again number)
  match ← take with
  | none => refuse "unexpected end of pattern" 0
  | some token =>
    refuse (String.ofList ("unknown extension ?P".toList ++ token)) (token.length + 2)

/-- No pattern has as many groups. -/
def groupLimit : Nat := 1073741823

/-- A group that is asked about, by name or number. -/
def askedOpening : Reading Opening := do
  let name ← takeName ')' "group name" ((← size) + 1) []
  let shown := String.ofList (quoted name)
  if Character.isName name then
    let some number := (← get).names.lookup (String.ofList name)
      | refuse s!"unknown group name {shown}" (name.length + 1)
    checkLook number
    return .conditional number
  match Number.readWhole? name with
  | some (.ofNat number) =>
    if number == 0 then refuse "bad group number" (name.length + 1)
    if number ≥ groupLimit then refuse s!"invalid group reference {number}" (name.length + 1)
    let here := (← place) - name.length - 1
    modify (fun s =>
      if (s.asked.lookup number).isSome then s else { s with asked := s.asked ++ [(number, here)] })
    checkLook number
    return .conditional number
  | _ => refuse s!"bad character in group name {shown}" (name.length + 1)

/-- Reads the marks behind an opening parenthesis. Options for the whole pattern may stand only
at its start. -/
def opening (start : Nat) (atStart : Bool) : Reading Opening := do
  if !(← accept '?') then return .group true none .none
  let some token ← take | refuse "unexpected end of pattern" 0
  match token with
  | ['P'] => namedOpening
  | [':'] => return .group false none .none
  | ['#'] =>
    skipComment start ((← size) + 1)
    return .nothing
  | ['='] => return .look false false
  | ['!'] => return .look false true
  | ['<'] =>
    match ← take with
    | none => refuse "unexpected end of pattern" 0
    | some ['='] => return .look true false
    | some ['!'] => return .look true true
    | some other =>
      refuse (String.ofList ("unknown extension ?<".toList ++ other)) (other.length + 2)
  | ['('] => askedOpening
  | ['>'] => return .atomic
  | _ =>
    let unknown : Reading Opening :=
      refuse (String.ofList ("unknown extension ?".toList ++ token)) (token.length + 1)
    match token with
    | [c] =>
      if c == '-' || (optionOf? c).isSome then
        match ← options c with
        | some change => return .group false none change
        | none =>
          if !atStart then
            refuse "global flags not at the start of the expression" ((← place) - start)
          return .nothing
      else unknown
    | _ => unknown

/-! ## Sequences and alternatives -/

/-- Skips the rest of a line of a pattern with comments. -/
def skipLine : Nat → Reading Unit
  | 0 => return
  | fuel + 1 => do
    match ← take with
    | none | some ['\n'] => return
    | some _ => skipLine fuel

/-- The parenthesis that closes what was opened at a place. -/
def closing (start : Nat) : Reading Unit := do
  if !(← accept ')') then
    refuse "missing ), unterminated subpattern" ((← place) - start)

mutual

/-- Alternatives up to a closing parenthesis or the end. -/
def alternatives (fuel : Nat) (verbose outermost : Bool) : Reading (List Part) :=
  match fuel with
  | 0 => return []
  | fuel + 1 => do
    let first ← sequence fuel verbose outermost []
    let others ← moreAlternatives fuel verbose outermost
    return if others.isEmpty then first else joinBranches (first.length + 1) (first :: others)

def moreAlternatives (fuel : Nat) (verbose outermost : Bool) : Reading (List (List Part)) :=
  match fuel with
  | 0 => return []
  | fuel + 1 => do
    if !(← accept '|') then return []
    let s ← get
    let inner := if outermost then s.options.verbose else verbose
    let branch ← sequence fuel inner false []
    return branch :: (← moreAlternatives fuel verbose outermost)

/-- The parts up to a bar, a closing parenthesis or the end; those read so far are held
backwards. -/
def sequence (fuel : Nat) (verbose atStart : Bool) (parts : List Part) : Reading (List Part) :=
  match fuel with
  | 0 => return unpacked parts.reverse
  | fuel + 1 => do
    let some token ← peek | return unpacked parts.reverse
    if token == ['|'] || token == [')'] then return unpacked parts.reverse
    advance
    match token with
    | ['\\', c] =>
      let escaped ← escape c
      sequence fuel verbose atStart (escaped.part :: parts)
    | [c] =>
      if verbose && Number.isLayout c then sequence fuel verbose atStart parts
      else if verbose && c == '#' then
        skipLine ((← size) + 1)
        sequence fuel verbose atStart parts
      else if c == '[' then
        let start := (← place) - 1
        let negated ← accept '^'
        let members ← setMembers start ((← size) + 1) []
        sequence fuel verbose atStart (Part.ofMembers negated members :: parts)
      else if c == '*' || c == '+' || c == '?' then
        let here ← place
        let times : Times := ⟨if c == '+' then 1 else 0, if c == '?' then some 1 else none⟩
        sequence fuel verbose atStart (← repeatLast here times parts)
      else if c == '\x7b' then
        let here ← place
        if (← peek) == some ['\x7d'] then sequence fuel verbose atStart (.single (.char c.toNat) :: parts)
        else
          match ← counted here with
          | none => sequence fuel verbose atStart (.single (.char c.toNat) :: parts)
          | some times => sequence fuel verbose atStart (← repeatLast here times parts)
      else if c == '.' then sequence fuel verbose atStart (.single .any :: parts)
      else if c == '^' then sequence fuel verbose atStart (.place .lineStart :: parts)
      else if c == '$' then sequence fuel verbose atStart (.place .lineEnd :: parts)
      else if c == '(' then
        let start := (← place) - 1
        match ← opening start (atStart && parts.isEmpty) with
        | .nothing =>
          let s ← get
          sequence fuel (verbose || atStart && s.options.verbose) atStart parts
        | .part p => sequence fuel verbose atStart (p :: parts)
        | opened =>
          let part ← grouped fuel verbose start opened
          sequence fuel verbose atStart (part :: parts)
      else sequence fuel verbose atStart (.single (.char c.toNat) :: parts)
    | _ => return unpacked parts.reverse

/-- The body of a group and the parenthesis that closes it. -/
def grouped (fuel : Nat) (verbose : Bool) (start : Nat) (opened : Opening) : Reading Part :=
  match fuel with
  | 0 => return .choice []
  | fuel + 1 => do
    match opened with
    | .group captured name change =>
      let number ← if captured then some <$> openGroup name else pure none
      let inner := (verbose || change.on.verbose) && !change.off.verbose
      let body ← alternatives fuel inner false
      closing start
      if let some n := number then closeGroup n body
      return .group number change body
    | .atomic =>
      let body ← alternatives fuel verbose false
      closing start
      return .atomic body
    | .look behind negated =>
      let before := (← get).groupsBeforeLook
      if behind && before.isNone then
        modify (fun s => { s with groupsBeforeLook := some s.groups })
      let body ← alternatives fuel verbose false
      if behind && before.isNone then modify (fun s => { s with groupsBeforeLook := none })
      closing start
      return .look behind negated body
    | .conditional n =>
      let yes ← sequence fuel verbose false []
      if ← accept '|' then
        let no ← sequence fuel verbose false []
        if (← peek) == some ['|'] then
          refuse "conditional backref with more than two branches" 0
        closing start
        return .conditional n yes no
      closing start
      return .conditional n yes []
    | .nothing | .part _ => return .choice []

end

/-! ## Whole patterns -/

/-- A pattern that has been read. -/
structure Whole where
  options : Options
  widths : GroupWidths
  parts : List Part

/-- The whole pattern: nothing may follow, and every group that is asked about must exist. -/
def whole : Reading Whole := do
  advance
  let parts ← alternatives (4 * (← size) + 8) false true
  let s ← get
  if s.options.plain && s.options.everyScript then throw .mixedScripts
  if s.next.isSome then refuse "unbalanced parenthesis" 0
  if let some (number, here) := s.asked.find? (fun (number, _) => number > s.groups) then
    throw (.malformed s!"invalid group reference {number}" here)
  return ⟨s.options, s.widths, parts⟩

/-- Reads a pattern, or says why it is none. -/
def read (text : List Char) : Except Refusal Whole :=
  whole.run' ⟨text.toArray, 0, none, .none, 0, [], [], none, []⟩

end Folio.Text.Pattern
