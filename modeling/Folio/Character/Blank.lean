-- Blank characters: what is trimmed from the ends of a text.
import Folio.Character.Range

namespace Folio.Character

/-- The ranges of white space: the spaces, the line and paragraph separators and the control
characters that separate fields or lines. -/
def blankRanges : List (Nat × Nat) := [
  (0x9, 0xD), (0x1C, 0x20), (0x85, 0x85), (0xA0, 0xA0), (0x1680, 0x1680),
  (0x2000, 0x200A), (0x2028, 0x2029), (0x202F, 0x202F), (0x205F, 0x205F), (0x3000, 0x3000)]

/-- White space, in any script. -/
def isBlank (c : Char) : Bool := within blankRanges c.toNat

/-- White space apart from the control characters that separate fields. -/
def isSpace (c : Char) : Bool := isBlank c && !(0x1C ≤ c.toNat && c.toNat ≤ 0x1F)

end Folio.Character
