-- Membership in an ascending list of code point ranges, the form in which the tables of
-- character properties are kept.
namespace Folio.Character

/-- Looks a code point up in ascending ranges, both ends included, and stops at the first
range that starts behind it. -/
def within : List (Nat × Nat) → Nat → Bool
  | [], _ => false
  | (low, high) :: rest, n => if n < low then false else n ≤ high || within rest n

end Folio.Character
