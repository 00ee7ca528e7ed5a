import ProgramTags.Decimal.Limit
import ProgramTags.Decimal.Shortest
import ProgramTags.Text.Digit
import ProgramTags.Text.Quoted

/-!
# Numerals

Reads a number from a text that someone wrote: white space around it, a sign, digits of any script
with single underscores between them. `readInteger` reads in a base, and a text in base two, eight
or sixteen may begin with the mark of its base. `readFloat` reads a number with a point or an
exponent, an infinity or no number at all.
-/

namespace ProgramTags.Decimal

inductive NumeralError where
  | notInteger (base : Nat) (text : List Char)
  /-- The text is no floating-point number. -/
  | notFloat (text : List Char)
  /-- The integer has too many digits. -/
  | tooLong (e : LiteralTooLong)
  deriving DecidableEq, Repr

def NumeralError.message : NumeralError → String
  | .notInteger base text =>
    s!"invalid literal for int() with base {base}: " ++
      String.ofList ((Text.quotedChars text).take 200)
  | .notFloat text =>
    "could not convert string to float: " ++ String.ofList (Text.quotedChars text)
  | .tooLong e => e.message

/-- White space of ASCII, as it may stand around a number. -/
def isNumeralSpace (c : Char) : Bool :=
  c = ' ' || (9 ≤ c.toNat && c.toNat ≤ 13)

def trimNumeral (s : List Char) : List Char :=
  ((s.dropWhile isNumeralSpace).reverse.dropWhile isNumeralSpace).reverse

/-- Takes the sign off: whether it is a minus, and the rest. -/
def splitSign : List Char → Bool × List Char
  | '-' :: rest => (true, rest)
  | '+' :: rest => (false, rest)
  | s => (false, s)

/-- The value of a digit, letters counting from ten on. -/
def digitValue? (c : Char) : Option Nat :=
  if '0' ≤ c ∧ c ≤ '9' then some (c.toNat - 48)
  else if 'a' ≤ c ∧ c ≤ 'z' then some (c.toNat - 87)
  else if 'A' ≤ c ∧ c ≤ 'Z' then some (c.toNat - 55)
  else none

def digitIn? (base : Nat) (c : Char) : Option Nat :=
  (digitValue? c).filter (· < base)

/-- The letter after a zero that marks the base. -/
def baseMark? : Nat → Option Char
  | 2 => some 'b'
  | 8 => some 'o'
  | 16 => some 'x'
  | _ => none

/-- Takes the mark of the base off, with an underscore that follows it. -/
def dropBaseMark (base : Nat) : List Char → List Char
  | '0' :: c :: rest =>
    if baseMark? base = some c.toLower then
      match rest with
      | '_' :: rest => rest
      | rest => rest
    else '0' :: c :: rest
  | s => s

/-- Reads digits with single underscores between them, which are the whole text. -/
def readDigits? (base : Nat) : (n : Nat) → List Char → Option Nat
  | n, [] => some n
  | n, '_' :: c :: rest =>
    match digitIn? base c with
    | some d => readDigits? base (n * base + d) rest
    | none => none
  | n, c :: rest =>
    match digitIn? base c with
    | some d => readDigits? base (n * base + d) rest
    | none => none

/-- In a base that is a power of two there may be any number of digits, in every other base as
many as a decimal text may have. -/
def isLimited (base : Nat) : Bool :=
  base ≠ 2 && base ≠ 8 && base ≠ 16

/-- The integer that the text spells in the base. Too many digits are found out before anything
after the digits is looked at. -/
def readInteger (base : Nat) (text : List Char) : Except NumeralError Int :=
  let (negative, unsigned) := splitSign (trimNumeral (Text.asciiNumeral text))
  let digits := dropBaseMark base unsigned
  let run := digits.takeWhile fun c => c = '_' || (digitIn? base c).isSome
  let size := (run.filter (· ≠ '_')).length
  match run, readDigits? base 0 run with
  | c :: _, some n =>
    if c = '_' then .error (.notInteger base text)
    else if isLimited base && digitLimit < size then .error (.tooLong ⟨size⟩)
    else if run.length < digits.length then .error (.notInteger base text)
    else .ok (if negative then -n else n)
  | _, _ => .error (.notInteger base text)

def decimalNumber (digits : List Char) : Nat :=
  digits.foldl (fun n c => n * 10 + (c.toNat - 48)) 0

/-- Reads digits with an optional point and exponent, which is the whole text. -/
def readScaled? (s : List Char) : Option Scaled :=
  let whole := s.takeWhile Char.isDigit
  let (places, rest) := match s.dropWhile Char.isDigit with
    | '.' :: rest => (rest.takeWhile Char.isDigit, rest.dropWhile Char.isDigit)
    | rest => ([], rest)
  if whole.isEmpty && places.isEmpty then none
  else
    let digits := decimalNumber (whole ++ places)
    match rest with
    | [] => some ⟨digits, -places.length⟩
    | c :: rest =>
      let (negative, power) := splitSign rest
      if (c = 'e' ∨ c = 'E') ∧ ¬ power.isEmpty ∧ power.all Char.isDigit then
        let n : Int := decimalNumber power
        some ⟨digits, (if negative then -n else n) - places.length⟩
      else none

/-- The words that are numbers. -/
def floatWord? (s : List Char) : Option Float :=
  let word := s.map Char.toLower
  if word = "inf".toList ∨ word = "infinity".toList then some (1 / 0)
  else if word = "nan".toList then some (0 / 0)
  else none

/-- The floating-point number that the text spells, without underscores. -/
def readFloat (text : List Char) : Except NumeralError Float :=
  let (negative, unsigned) := splitSign (trimNumeral (Text.asciiNumeral text))
  let magnitude := (floatWord? unsigned).orElse fun _ => (readScaled? unsigned).map toFloat
  match magnitude with
  | some x => .ok (if negative then -x else x)
  | none => .error (.notFloat text)

example : (readInteger 16 "0x_1F".toList).toOption = some 31 := by decide +kernel
example : (readInteger 10 " -1_0 ".toList).toOption = some (-10) := by decide +kernel
example : (readInteger 8 "08".toList).toOption = none := by decide +kernel

end ProgramTags.Decimal
