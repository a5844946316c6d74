-- The tokens of a text: its runs of word characters, in small letters.
import Folio.Character.Lower
import Folio.Character.Word
import Folio.Value.Same
import Folio.Value.Text

namespace Folio.Text

/-- The runs of word characters; `run` is the one under way, backwards. -/
def wordRunsFrom (run : List Char) : List Char → List (List Char)
  | [] => if run.isEmpty then [] else [run.reverse]
  | c :: rest =>
    if Character.isWord c then wordRunsFrom (c :: run) rest
    else if run.isEmpty then wordRunsFrom [] rest
    else run.reverse :: wordRunsFrom [] rest

/-- The runs of word characters of a text. -/
def wordRuns (text : List Char) : List (List Char) := wordRunsFrom [] text

/-- The text in which the tokens of a value are looked for: a list by its items, and nothing for
a value that counts as false. -/
def tokenSource : Value → List Char
  | .list items => joined [' '] (items.map (·.shown.toList))
  | v => if v.isTrue then v.shown.toList else []

/-- The tokens of a value. -/
def tokens (v : Value) : List (List Char) := (wordRuns (tokenSource v)).map Character.lowerText

end Folio.Text
