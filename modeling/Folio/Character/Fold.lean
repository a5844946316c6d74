-- Letters compared without regard to case: by their small forms, where some small letters count
-- as one although none is the small form of the other. Characters are given by code point.
import Folio.Character.Lower

namespace Folio.Character

/-- Small letters that have a capital in common. -/
def alikeLetters : List (List Nat) := [
  [0x69, 0x131], [0x73, 0x17F], [0xB5, 0x3BC], [0x345, 0x3B9, 0x1FBE], [0x390, 0x1FD3],
  [0x3B0, 0x1FE3], [0x3B2, 0x3D0], [0x3B5, 0x3F5], [0x3B8, 0x3D1], [0x3BA, 0x3F0],
  [0x3C0, 0x3D6], [0x3C1, 0x3F1], [0x3C2, 0x3C3], [0x3C6, 0x3D5], [0x432, 0x1C80],
  [0x434, 0x1C81], [0x43E, 0x1C82], [0x441, 0x1C83], [0x442, 0x1C84, 0x1C85], [0x44A, 0x1C86],
  [0x463, 0x1C87], [0x1C88, 0xA64B], [0x1E61, 0x1E9B], [0xFB05, 0xFB06]]

/-- A way to compare letters. -/
inductive Case where
  /-- Every character is its own. -/
  | exact
  /-- Plain letters are compared without regard to case. -/
  | plain
  /-- Letters of every script are compared without regard to case. -/
  | every
  deriving DecidableEq

/-- The dotted capital I, whose small form alone is the plain small letter. -/
def dottedCapital : Nat := 0x130

/-- The code point by which a character is compared. -/
def Case.key (how : Case) (n : Nat) : Nat :=
  match how with
  | .exact => n
  | .plain => if 0x41 ≤ n && n ≤ 0x5A then n + 32 else n
  | .every => if n == dottedCapital then 0x69 else lowerCode n

/-- The keys that count as one with a key. -/
def Case.alike (how : Case) (key : Nat) : List Nat :=
  match how with
  | .every => (alikeLetters.find? (·.contains key)).getD [key]
  | _ => [key]

/-- Whether two characters count as one. -/
def Case.same (how : Case) (m n : Nat) : Bool := (how.alike (how.key m)).contains (how.key n)

/-- The code point inside a run of capitals whose small form is given. -/
def CaseRun.capitalOf? (run : CaseRun) (small : Nat) : Option Nat :=
  let capital := ((small : Int) - run.shift).toNat
  if run.first ≤ capital && capital ≤ run.last && (capital - run.first) % run.step == 0
  then some capital else none

/-- The capitals of a small letter of any script. -/
def capitalsOf (small : Nat) : List Nat :=
  (if small == 0x69 then [dottedCapital] else []) ++ caseRuns.filterMap (·.capitalOf? small)

/-- Small letters that are not the small form of their capital: runs of them by first and last,
with the capital of the first. Of a capital written with several letters the first counts. -/
def otherCapitals : List (Nat × Nat × Nat) := [
  (0xB5, 0xB5, 0x39C), (0xDF, 0xDF, 0x53), (0x131, 0x131, 0x49), (0x149, 0x149, 0x2BC),
  (0x17F, 0x17F, 0x53), (0x1F0, 0x1F0, 0x4A), (0x345, 0x345, 0x399), (0x390, 0x390, 0x399),
  (0x3B0, 0x3B0, 0x3A5), (0x3C2, 0x3C2, 0x3A3), (0x3D0, 0x3D0, 0x392), (0x3D1, 0x3D1, 0x398),
  (0x3D5, 0x3D5, 0x3A6), (0x3D6, 0x3D6, 0x3A0), (0x3F0, 0x3F0, 0x39A), (0x3F1, 0x3F1, 0x3A1),
  (0x3F5, 0x3F5, 0x395), (0x587, 0x587, 0x535), (0x1C80, 0x1C80, 0x412), (0x1C81, 0x1C81, 0x414),
  (0x1C82, 0x1C82, 0x41E), (0x1C83, 0x1C84, 0x421), (0x1C85, 0x1C85, 0x422),
  (0x1C86, 0x1C86, 0x42A), (0x1C87, 0x1C87, 0x462), (0x1C88, 0x1C88, 0xA64A),
  (0x1E96, 0x1E96, 0x48), (0x1E97, 0x1E97, 0x54), (0x1E98, 0x1E98, 0x57), (0x1E99, 0x1E99, 0x59),
  (0x1E9A, 0x1E9A, 0x41), (0x1E9B, 0x1E9B, 0x1E60), (0x1F50, 0x1F50, 0x3A5),
  (0x1F52, 0x1F52, 0x3A5), (0x1F54, 0x1F54, 0x3A5), (0x1F56, 0x1F56, 0x3A5),
  (0x1F80, 0x1F87, 0x1F08), (0x1F90, 0x1F97, 0x1F28), (0x1FA0, 0x1FA7, 0x1F68),
  (0x1FB2, 0x1FB2, 0x1FBA), (0x1FB3, 0x1FB3, 0x391), (0x1FB4, 0x1FB4, 0x386),
  (0x1FB6, 0x1FB6, 0x391), (0x1FB7, 0x1FB7, 0x391), (0x1FBE, 0x1FBE, 0x399),
  (0x1FC2, 0x1FC2, 0x1FCA), (0x1FC3, 0x1FC3, 0x397), (0x1FC4, 0x1FC4, 0x389),
  (0x1FC6, 0x1FC6, 0x397), (0x1FC7, 0x1FC7, 0x397), (0x1FD2, 0x1FD2, 0x399),
  (0x1FD3, 0x1FD3, 0x399), (0x1FD6, 0x1FD6, 0x399), (0x1FD7, 0x1FD7, 0x399),
  (0x1FE2, 0x1FE2, 0x3A5), (0x1FE3, 0x1FE3, 0x3A5), (0x1FE4, 0x1FE4, 0x3A1),
  (0x1FE6, 0x1FE6, 0x3A5), (0x1FE7, 0x1FE7, 0x3A5), (0x1FF2, 0x1FF2, 0x1FFA),
  (0x1FF3, 0x1FF3, 0x3A9), (0x1FF4, 0x1FF4, 0x38F), (0x1FF6, 0x1FF6, 0x3A9),
  (0x1FF7, 0x1FF7, 0x3A9), (0xFB00, 0xFB00, 0x46), (0xFB01, 0xFB01, 0x46), (0xFB02, 0xFB02, 0x46),
  (0xFB03, 0xFB03, 0x46), (0xFB04, 0xFB04, 0x46), (0xFB05, 0xFB05, 0x53), (0xFB06, 0xFB06, 0x53),
  (0xFB13, 0xFB13, 0x544), (0xFB14, 0xFB14, 0x544), (0xFB15, 0xFB15, 0x544),
  (0xFB16, 0xFB16, 0x54E), (0xFB17, 0xFB17, 0x544)]

/-- The capital of a small letter; any other code point is its own. -/
def capitalCode (n : Nat) : Nat :=
  match otherCapitals.find? (fun (first, last, _) => first ≤ n && n ≤ last) with
  | some (first, _, capital) => capital + (n - first)
  | none => (caseRuns.findSome? (·.capitalOf? n)).getD n

/-- Whether a character has another form of its letter. -/
def Case.isCased (how : Case) (n : Nat) : Bool :=
  match how with
  | .exact => false
  | .plain => 0x41 ≤ n && n ≤ 0x5A || 0x61 ≤ n && n ≤ 0x7A
  | .every => how.key n != n || capitalCode n != n

/-- The code points that have a key. -/
def Case.withKey (how : Case) (key : Nat) : List Nat :=
  match how with
  | .exact => [key]
  | .plain => if 0x61 ≤ key && key ≤ 0x7A then [key, key - 32] else [key]
  | .every => key :: capitalsOf key

/-- The last code point of the basic plane. -/
def lastBasic : Nat := 0xFFFF

/-- Whether a range of code points holds a character, or one that counts as the same. Of a range
that goes beyond the basic plane, a character and its capital are looked for as well. -/
def Case.inRange (how : Case) (low high n : Nat) : Bool :=
  let holds (m : Nat) := low ≤ m && m ≤ high
  let key := how.key n
  match how with
  | .exact => holds n
  | _ =>
    ((how.alike key).flatMap how.withKey).any (fun m => m ≤ lastBasic && holds m)
      || high > lastBasic && (holds key || holds (capitalCode key))

/-- Whether a character is a given one, or counts as the same. Beyond the basic plane a given
character stands for its own key alone. -/
def Case.isOneOf (how : Case) (given n : Nat) : Bool :=
  if how != .exact && given > lastBasic then how.key n == given else how.same given n

end Folio.Character
