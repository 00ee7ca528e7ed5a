/-!
# Shortest decimals

The fewest decimal digits that identify a floating-point number. A finite number is
`m · 2 ^ q` for naturals `m`; the reals that round to it form an interval whose ends are half way
to its neighbours. `Interval.shortest` tries 1, 2, … 17 digits and takes the first grid of
decimals that has a point in the interval, of two such points the nearer one, and of two equally
near ones the even one.
-/

namespace ProgramTags.Decimal

/-- `digits · 10 ^ exponent`. -/
structure Scaled where
  digits : Nat
  exponent : Int
  deriving DecidableEq, Repr

/-- The reals between `low / scale` and `high / scale`, around `value / scale`. The ends belong to
it if `closed`. -/
structure Interval where
  low : Nat
  value : Nat
  high : Nat
  scale : Nat
  closed : Bool
  deriving DecidableEq, Repr

namespace Interval

/-- The reals that round to `m · 2 ^ q`. The neighbour below is twice as near if `narrowBelow`. -/
def ofBinary (m : Nat) (q : Int) (narrowBelow : Bool) : Interval :=
  let unit := Nat.pow 2 (q - 2).toNat
  let scale := Nat.pow 2 (2 - q).toNat
  { low := (4 * m - if narrowBelow then 1 else 2) * unit
    value := 4 * m * unit
    high := (4 * m + 2) * unit
    scale
    closed := m % 2 = 0 }

/-- `digits · 10 ^ exponent` lies in the interval. -/
def has (i : Interval) (d : Scaled) : Bool :=
  let point := d.digits * Nat.pow 10 d.exponent.toNat * i.scale
  let unit := Nat.pow 10 (-d.exponent).toNat
  if i.closed then i.low * unit ≤ point && point ≤ i.high * unit
  else i.low * unit < point && point < i.high * unit

/-- The exponent of the leading decimal digit of the value. -/
def leading (i : Interval) : Int :=
  if i.scale ≤ i.value then (toString (i.value / i.scale)).length - 1
  else -((toString ((i.scale + i.value - 1) / i.value - 1)).length : Int)

/-- The multiple of `10 ^ exponent` next below the value, or the value itself, with twice the
distance to it and the distance between multiples. -/
def below (i : Interval) (exponent : Int) : Nat × Nat × Nat :=
  let num := i.value * Nat.pow 10 (-exponent).toNat
  let den := i.scale * Nat.pow 10 exponent.toNat
  (num / den, 2 * (num % den), den)

/-- A decimal of `n` digits in the interval. -/
def withDigits? (i : Interval) (n : Nat) : Option Scaled :=
  let exponent := i.leading - n + 1
  let (d, twice, den) := i.below exponent
  let down : Scaled := ⟨d, exponent⟩
  let up : Scaled := ⟨d + 1, exponent⟩
  match i.has down, i.has up with
  | true, true =>
    some (if twice < den ∨ (twice = den ∧ d % 2 = 0) then down else up)
  | true, false => some down
  | false, true => some up
  | false, false => none

def shortest (i : Interval) : Scaled :=
  ((List.range 17).findSome? fun n => i.withDigits? (n + 1)).getD
    ⟨(i.below (i.leading - 16)).1, i.leading - 16⟩

end Interval

/-- The decimal without trailing zeros among its digits, at most `fuel` of them taken off. -/
def Scaled.strip : (fuel : Nat) → Scaled → Scaled
  | 0, d => d
  | fuel + 1, d =>
    if d.digits % 10 = 0 then strip fuel ⟨d.digits / 10, d.exponent + 1⟩ else d

/-- The shortest decimal that identifies the finite number with the given bits, which is not
zero. The sign is not looked at. -/
def ofBits (bits : UInt64) : Scaled :=
  let fraction : Nat := bits.toNat % Nat.pow 2 52
  let biased : Nat := bits.toNat / Nat.pow 2 52 % Nat.pow 2 11
  let interval :=
    if biased = 0 then Interval.ofBinary fraction (-1074) false
    else
      Interval.ofBinary (Nat.pow 2 52 + fraction) ((biased : Int) - 1075)
        (fraction = 0 ∧ 1 < biased)
  interval.shortest.strip 17

/-- How numbers are laid out. -/
structure Style where
  /-- The least exponent of the leading digit that is written positionally. -/
  plainFrom : Int
  /-- The least exponent of the leading digit that is too great to be written positionally. -/
  plainBelow : Int
  /-- The least number of digits of an exponent. -/
  exponentWidth : Nat
  deriving DecidableEq, Repr

/-- A decimal laid out: positionally with at least one digit after the point, or with one digit
before the point and a signed exponent. -/
def Style.layout (style : Style) (d : Scaled) : String :=
  let digits := toString d.digits
  let lead : Int := d.exponent + digits.length - 1
  if style.plainFrom ≤ lead ∧ lead < style.plainBelow then
    if lead < 0 then
      "0." ++ String.ofList (List.replicate (-lead - 1).toNat '0') ++ digits
    else if 0 ≤ d.exponent then
      digits ++ String.ofList (List.replicate d.exponent.toNat '0') ++ ".0"
    else
      let whole := digits.toList.take (lead + 1).toNat
      let fraction := digits.toList.drop (lead + 1).toNat
      String.ofList (whole ++ '.' :: fraction)
  else
    let mantissa := match digits.toList with
      | [] => []
      | [c] => [c]
      | c :: rest => c :: '.' :: rest
    let power := (toString lead.natAbs).toList
    let pad := List.replicate (style.exponentWidth - power.length) '0'
    String.ofList (mantissa ++ ['e', if lead < 0 then '-' else '+'] ++ pad ++ power)

/-- Floating-point numbers are positional from `0.0001` to below `10 ^ 16`; exponents have a sign
and two digits. -/
def floatStyle : Style := ⟨-4, 16, 2⟩

/-- The text of a floating-point number: the fewest digits that identify it. -/
def floatText (x : Float) : String :=
  let bits := x.toBits
  let sign := if bits.toNat / Nat.pow 2 63 = 1 then "-" else ""
  let magnitude := bits.toNat % Nat.pow 2 63
  if 0x7FF * Nat.pow 2 52 < magnitude then "nan"
  else if magnitude = 0x7FF * Nat.pow 2 52 then sign ++ "inf"
  else if magnitude = 0 then sign ++ "0.0"
  else sign ++ floatStyle.layout (ofBits bits)

/-- The floating-point number next to `digits · 10 ^ exponent`. Far beyond the greatest and below
the least number the answer is known without computing the power. -/
def toFloat (d : Scaled) : Float :=
  let size := d.exponent + (toString d.digits).length
  if d.digits = 0 then 0
  else if 400 < size then 1 / 0
  else if size < -400 then 0
  else if 0 ≤ d.exponent then Float.ofScientific (d.digits * Nat.pow 10 d.exponent.toNat) false 0
  else Float.ofScientific d.digits true (-d.exponent).toNat

example : floatText 0.1 = "0.1" := by decide +kernel
example : floatText 1e16 = "1e+16" := by decide +kernel

end ProgramTags.Decimal
