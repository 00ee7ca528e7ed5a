/-!
# Integers in decimal

Integers are unbounded, their decimal text is not: an integer of more than `digitLimit` digits has
none.
-/

namespace ProgramTags.Decimal

/-- The greatest number of digits that a decimal text may have, the sign not counted. -/
def digitLimit : Nat := 4300

/-- An integer has too many digits to be written. -/
structure TooLong where
  deriving DecidableEq, Repr

def TooLong.message (_ : TooLong) : String :=
  s!"Exceeds the limit ({digitLimit} digits) for integer string conversion; " ++
    "use sys.set_int_max_str_digits() to increase the limit"

/-- An integer literal has too many digits to be read. -/
structure LiteralTooLong where
  digits : Nat
  deriving DecidableEq, Repr

def LiteralTooLong.message (e : LiteralTooLong) : String :=
  s!"Exceeds the limit ({digitLimit} digits) for integer string conversion: " ++
    s!"value has {e.digits} digits; use sys.set_int_max_str_digits() to increase the limit"

def isTooLong (n : Int) : Bool :=
  Nat.pow 10 digitLimit ≤ n.natAbs

def text (n : Int) : Except TooLong String :=
  if isTooLong n then .error {} else .ok (toString n)

end ProgramTags.Decimal
