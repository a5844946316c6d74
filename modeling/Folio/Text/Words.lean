-- Joining, cutting and finding texts.
import Folio.Character.Blank

namespace Folio.Text

/-- The texts one after another, with a separator between them. -/
def joined (separator : List Char) : List (List Char) → List Char
  | [] => []
  | [t] => t
  | t :: rest => t ++ separator ++ joined separator rest

/-- The pieces of a text between the occurrences of a character. -/
def pieces (separator : Char) : List Char → List (List Char)
  | [] => [[]]
  | c :: rest =>
    if c == separator then [] :: pieces separator rest
    else match pieces separator rest with
      | first :: others => (c :: first) :: others
      | [] => [[c]]

/-- The text without the blanks at its ends. -/
def trimmed (text : List Char) : List Char :=
  ((text.dropWhile Character.isBlank).reverse.dropWhile Character.isBlank).reverse

/-- Whether a text occurs in another one. -/
def occursIn (part : List Char) : List Char → Bool
  | [] => part.isEmpty
  | c :: rest => part.isPrefixOf (c :: rest) || occursIn part rest

end Folio.Text
