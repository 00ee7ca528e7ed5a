import ProgramTags.Value

/-!
# Equal keys

Two keys of a mapping are the same if they are equal as values. Truth values count as the numbers
zero and one, and a floating-point number is equal to the integer of the same size.
-/

namespace ProgramTags

/-- The integer that the finite number `m · 2 ^ q` is, if it is one. -/
def scaledInt? (m : Nat) (q : Int) : Option Int :=
  let whole : Nat := m * Nat.pow 2 q.toNat
  let unit : Nat := Nat.pow 2 (-q).toNat
  if whole % unit = 0 then some (whole / unit : Nat) else none

/-- The integer that a floating-point number is, if it is one. -/
def floatInt? (x : Float) : Option Int :=
  let bits := x.toBits.toNat
  let fraction : Nat := bits % Nat.pow 2 52
  let biased : Nat := bits / Nat.pow 2 52 % Nat.pow 2 11
  let size :=
    if biased = 0x7FF then none
    else if biased = 0 then scaledInt? fraction (-1074)
    else scaledInt? (Nat.pow 2 52 + fraction) ((biased : Int) - 1075)
  if bits / Nat.pow 2 63 = 1 then size.map (-·) else size

namespace Value

/-- A truth value or an integer as an integer. -/
def whole? : Value → Option Int
  | .bool b => some (if b then 1 else 0)
  | .int n => some n
  | _ => none

/-- Two values that are no collections are the same key. -/
def sameKey : Value → Value → Bool
  | .null, .null => true
  | .text s, .text t => s = t
  | .bytes a, .bytes b => a = b
  | .date d, .date e => d = e
  | .dateTime s, .dateTime t => s.sameMoment t
  | .float x, .float y => x == y || (x.isNaN && y.isNaN)
  | .float x, v => (floatInt? x).isSome && floatInt? x = v.whole?
  | v, .float x => (floatInt? x).isSome && floatInt? x = v.whole?
  | v, w => v.whole?.isSome && v.whole? = w.whole?

end Value

end ProgramTags
