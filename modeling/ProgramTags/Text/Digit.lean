import ProgramTags.Text.Blank

/-!
# Decimal digits

Every script with decimal digits has ten of them in a row. `zeros` lists the first of each row, as
assigned in Unicode 14, and `decimalDigit?` reads a digit of any script.
-/

namespace ProgramTags.Text

/-- The code points of the zeros of all scripts, in ascending order. -/
def zeros : List Nat :=
  [48, 1632, 1776, 1984, 2406, 2534, 2662, 2790, 2918, 3046, 3174, 3302, 3430, 3558, 3664, 3792,
    3872, 4160, 4240, 6112, 6160, 6470, 6608, 6784, 6800, 6992, 7088, 7232, 7248, 42528, 43216,
    43264, 43472, 43504, 43600, 44016, 65296, 66720, 68912, 69734, 69872, 69942, 70096, 70384,
    70736, 70864, 71248, 71360, 71472, 71904, 72016, 72784, 73040, 73120, 92768, 92864, 93008,
    120782, 120792, 120802, 120812, 120822, 123200, 123632, 125264, 130032]

def decimalDigit? (c : Char) : Option Nat :=
  (zeros.find? fun first => first ≤ c.toNat && c.toNat < first + 10).map (c.toNat - ·)

/-- The text of a number in ASCII: digits of any script become those of ASCII, and white space
beyond ASCII becomes a space. A character that is neither is no part of a number and becomes a
question mark. -/
def asciiNumeral (s : List Char) : List Char :=
  s.map fun c =>
    if c.toNat < 127 then c
    else if isBlank c then ' '
    else match decimalDigit? c with
      | some d => Nat.digitChar d
      | none => '?'

theorem decimalDigit?_of_isDigit {c : Char} (h : c.isDigit) :
    decimalDigit? c = some (c.toNat - 48) := by
  have h' : 48 ≤ c.toNat ∧ c.toNat ≤ 57 := by
    simpa [Char.isDigit, UInt32.le_iff_toNat_le] using h
  have : c.toNat < 58 := by omega
  simp [decimalDigit?, zeros, h'.1, this]

end ProgramTags.Text
