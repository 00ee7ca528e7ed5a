/-!
# Places in a text

A `Position` is how many characters, lines and columns have gone by.
-/

namespace ProgramTags.Text

/-- How many characters stand before a place, on which line it is and in which column, counted
from zero. -/
structure Position where
  index : Nat := 0
  line : Nat := 0
  column : Nat := 0
  deriving DecidableEq, Repr

/-- The position after `index` characters of a text whose lines end in line feeds. -/
def Position.ofIndex (text : List Char) (index : Nat) : Position :=
  let before := text.take index
  { index
    line := before.count '\n'
    column := (before.reverse.takeWhile (· ≠ '\n')).length }

end ProgramTags.Text
