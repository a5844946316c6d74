-- Globs: patterns for whole texts. A star stands for any text, a question mark for any one
-- character, and brackets for one character of a set; a bracket that is never closed stands for
-- itself.
namespace Folio.Text

/-- One part of a glob. -/
inductive Piece where
  /-- Any text. -/
  | star
  /-- Any one character. -/
  | any
  | char (c : Char)
  /-- One character inside or, if negated, outside of a set. The chunks of a set are the texts
  between the dashes that make ranges. -/
  | oneOf (negated : Bool) (chunks : List (List Char))
  deriving DecidableEq

namespace Glob

/-! ## Sets -/

/-- Cuts the text between brackets at the dashes that make ranges. A dash makes a range when it
stands behind at least `least` characters of its chunk. -/
def chunksOf (least : Nat) (text : List Char) : List (List Char) :=
  let chunk := text.take least ++ (text.drop least).takeWhile (· != '-')
  match _h : (text.drop least).dropWhile (· != '-') with
  | [] => [chunk]
  | [_] => [chunk ++ ['-']]
  | _ :: c :: rest => chunk :: chunksOf 2 (c :: rest)
termination_by text.length
decreasing_by
  have suffix : ((text.drop least).dropWhile (· != '-')).length ≤ (text.drop least).length :=
    (List.dropWhile_sublist _).length_le
  rw [_h] at suffix
  simp only [List.length_cons, List.length_drop] at suffix ⊢
  omega

/-- Takes out the ranges whose ends are in the wrong order, with their ends. -/
def withoutEmptyRanges : List (List Char) → List (List Char)
  | [] => []
  | chunk :: rest =>
    match withoutEmptyRanges rest with
    | [] => [chunk]
    | next :: others =>
      match chunk.getLast?, next.head? with
      | some low, some high =>
        if high < low then (chunk.dropLast ++ next.drop 1) :: others else chunk :: next :: others
      | _, _ => chunk :: next :: others

/-- The piece for the text between brackets. An empty set holds no character, and so its negation
holds every one. -/
def setOf (body : List Char) : Piece :=
  match withoutEmptyRanges (chunksOf (if body.head? == some '!' then 2 else 1) body) with
  | ('!' :: chunk) :: rest => if chunk.isEmpty && rest.isEmpty then .any else .oneOf true (chunk :: rest)
  | chunks => .oneOf false chunks

/-- Whether chunks or the ranges between them hold a character. -/
def chunksHold (c : Char) : List (List Char) → Bool
  | [] => false
  | [chunk] => chunk.contains c
  | chunk :: next :: rest =>
    chunk.contains c
      || (match chunk.getLast?, next.head? with
        | some low, some high => low ≤ c && c ≤ high
        | _, _ => false)
      || chunksHold c (next :: rest)

/-! ## Reading -/

/-- The text between an opened bracket and the bracket that closes it. A closing bracket right at
the start belongs to the text. -/
def bracketBody? (text : List Char) : Option (List Char) :=
  let start := if text.head? == some '!' then 1 else 0
  let start := if text[start]? == some ']' then start + 1 else start
  let rest := text.drop start
  if rest.contains ']' then some (text.take start ++ rest.takeWhile (· != ']')) else none

/-- Reads the pieces of a glob, leaving out the first characters. -/
def piecesAfter : Nat → List Char → List Piece
  | _, [] => []
  | skipped + 1, _ :: rest => piecesAfter skipped rest
  | 0, c :: rest =>
    if c == '*' then .star :: piecesAfter 0 rest
    else if c == '?' then .any :: piecesAfter 0 rest
    else if c == '[' then
      match bracketBody? rest with
      | some body => setOf body :: piecesAfter (body.length + 1) rest
      | none => .char '[' :: piecesAfter 0 rest
    else .char c :: piecesAfter 0 rest

/-- The pieces of a glob. -/
def read (glob : List Char) : List Piece := piecesAfter 0 glob

/-! ## Matching -/

/-- Whether a piece stands for one character; a star does not. -/
def stepHolds (c : Char) : Piece → Bool
  | .star => false
  | .any => true
  | .char d => c == d
  | .oneOf negated chunks => chunksHold c chunks != negated

/-- The text and all that is left of it after leaving out characters at the start. -/
def suffixes : List Char → List (List Char)
  | [] => [[]]
  | c :: rest => (c :: rest) :: suffixes rest

/-- Whether the pieces stand for the whole text. -/
def fits : List Piece → List Char → Bool
  | [], text => text.isEmpty
  | .star :: pieces, text => (suffixes text).any (fits pieces)
  | piece :: pieces, text =>
    match text with
    | [] => false
    | c :: rest => stepHolds c piece && fits pieces rest

end Glob

/-- Whether a glob stands for the whole text. -/
def globMatches (glob text : String) : Bool := Glob.fits (Glob.read glob.toList) text.toList

end Folio.Text
