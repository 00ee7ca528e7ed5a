import ProgramTags.Text.LowerCase
import ProgramTags.Yaml.Error
import ProgramTags.Yaml.Timestamp

/-!
# The values of scalars

What the text of a scalar means under each of the standard types. A text that was given its type by
a tag need not be spelled like one, and a text of the right spelling need not have a value.
-/

namespace ProgramTags.Yaml.Scalar

def dropUnderscores (s : List Char) : List Char :=
  s.filter (· ≠ '_')

/-- Takes the sign off a number that is not empty. -/
def splitSign (s : List Char) : Except ScalarError (Bool × List Char) :=
  if s.isEmpty then .error .emptyNumber else .ok (Decimal.splitSign s)

/-- The sum of places in base sixty, the greatest place first. -/
def sixties (places : List Int) : Int :=
  places.foldl (fun n place => n * 60 + place) 0

/-- An integer without its sign: a zero begins the marks of base two and sixteen and numbers of
base eight. -/
def magnitude (s : List Char) : Except ScalarError Int :=
  let read := fun base digits => (Decimal.readInteger base digits).mapError .numeral
  match s with
  | [] => .error .emptyNumber
  | ['0'] => .ok 0
  | '0' :: 'b' :: digits => read 2 digits
  | '0' :: 'x' :: digits => read 16 digits
  | '0' :: _ => read 8 s
  | _ =>
    if s.contains ':' then ((s.splitOn ':').mapM (read 10)).map sixties
    else read 10 s

def int (text : List Char) : Except ScalarError Int := do
  let (negative, s) ← splitSign (dropUnderscores text)
  let n ← magnitude s
  return if negative then -n else n

/-- The sum of places in base sixty, the least place first. The size of a place has to be a
floating-point number. -/
def sixtiesFloat : (size : Nat) → (sum : Float) → List Float → Except ScalarError Float
  | _, sum, [] => .ok sum
  | size, sum, place :: rest =>
    if Nat.pow 2 1024 ≤ size then .error .tooGreat
    else sixtiesFloat (size * 60) (sum + place * Float.ofNat size) rest

/-- The word for what is no number. -/
def noNumber : List Char := ".nan".toList

/-- The text is the word for what is no number. All that it is written for is one and the same,
while what is no number for other reasons is equal to itself alone. -/
def isNoNumber (text : List Char) : Bool :=
  (Decimal.splitSign (Text.lower (dropUnderscores text))).2 = noNumber

def float (text : List Char) : Except ScalarError Float := do
  let (negative, s) ← splitSign (Text.lower (dropUnderscores text))
  let read := fun digits => (Decimal.readFloat digits).mapError ScalarError.numeral
  if s = noNumber then return 0 / 0
  let x ←
    if s = ".inf".toList then pure (1 / 0)
    else if s.contains ':' then do sixtiesFloat 1 0 (← (s.splitOn ':').mapM read).reverse
    else read s
  return if negative then -x else x

/-- The truth value that a word stands for, in whatever letters. -/
def truth (text : List Char) : Except ScalarError Bool :=
  let word := String.ofList (Text.lower text)
  if ["yes", "true", "on"].contains word then .ok true
  else if ["no", "false", "off"].contains word then .ok false
  else .error (.truth word)

def timestamp (text : List Char) : Except ScalarError Value :=
  match Timestamp.read? text with
  | some t => t.value.mapError .calendar
  | none => .error .noTime

def binary (text : List Char) : Except Problem (List UInt8) :=
  let ascii := fun (c : Char) => c.toNat < 128
  match text.dropWhile ascii with
  | c :: rest =>
    .error (.notAscii c (text.takeWhile ascii).length ((c :: rest).takeWhile (!ascii ·)).length)
  | [] => (Text.Base64.decode text).mapError .base64

end ProgramTags.Yaml.Scalar
