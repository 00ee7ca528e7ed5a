import ProgramTags.Json.Error
import ProgramTags.Value
import ProgramTags.Decimal.Numeral
import ProgramTags.Text.Surrogates

/-!
# JSON

Reads a value from a JSON text. The three words `NaN`, `Infinity` and `-Infinity` are numbers too.
Of entries with one name the last one counts, in the place of the first. Every step takes the text
that is left, with the index of its first character, and returns what is left after it.
-/

namespace ProgramTags.Json

/-- What is left of the text, and the index of its first character. -/
structure Rest where
  index : Nat
  chars : List Char
  deriving DecidableEq, Repr

def Rest.drop (r : Rest) (n : Nat) : Rest :=
  ⟨r.index + n, r.chars.drop n⟩

def isSpace (c : Char) : Bool :=
  c = ' ' || c = '\t' || c = '\n' || c = '\r'

def Rest.skip (r : Rest) : Rest :=
  r.drop (r.chars.takeWhile isSpace).length

def hexValue? (c : Char) : Option Nat :=
  if '0' ≤ c ∧ c ≤ '9' then some (c.toNat - 48)
  else if 'a' ≤ c ∧ c ≤ 'f' then some (c.toNat - 87)
  else if 'A' ≤ c ∧ c ≤ 'F' then some (c.toNat - 55)
  else none

def hexNumber? (digits : List Char) : Option Nat :=
  digits.foldlM (fun n c => (hexValue? c).map (n * 16 + ·)) 0

/-- The character after a backslash that stands for one character. -/
def simpleEscape? : Char → Option Char
  | '"' => some '"'
  | '\\' => some '\\'
  | '/' => some '/'
  | 'b' => some '\x08'
  | 'f' => some '\x0c'
  | 'n' => some '\n'
  | 'r' => some '\r'
  | 't' => some '\t'
  | _ => none

/-- The code unit at the head of `chars`, which begin after `\u`. At least one character has to
follow the four digits. -/
def codeUnit? (chars : List Char) : Option Nat :=
  if 4 < chars.length then hexNumber? (chars.take 4) else none

/-- Reads the escape whose backslash is at `index`; `chars` begin after the backslash. Gives the
character and how many characters the escape takes after the backslash. Two code units that form
a pair are one character; `stand` is the character for a surrogate that stands alone. -/
def readEscape (stand : Nat → Char) (start index : Nat) (chars : List Char) :
    Except Error (Char × Nat) :=
  match chars with
  | [] => .error (.malformed .unterminatedString start)
  | 'u' :: rest =>
    match codeUnit? rest with
    | none => .error (.malformed .invalidUnicodeEscape (index + 1))
    | some high =>
      let after := rest.drop 4
      if 0xD800 ≤ high ∧ high < 0xDC00 ∧ 6 < after.length ∧ after.take 2 = ['\\', 'u'] then
        match codeUnit? (after.drop 2) with
        | none => .error (.malformed .invalidUnicodeEscape (index + 7))
        | some low =>
          if 0xDC00 ≤ low ∧ low < 0xE000 then
            .ok (Char.ofNat (0x10000 + (high - 0xD800) * 0x400 + (low - 0xDC00)), 11)
          else .ok (stand high, 5)
      else if 0xD800 ≤ high ∧ high < 0xE000 then .ok (stand high, 5)
      else .ok (Char.ofNat high, 5)
  | c :: _ =>
    match simpleEscape? c with
    | some c => .ok (c, 1)
    | none => .error (.malformed .invalidEscape index)

/-- Reads the characters of a string up to the closing quote. `start` is the index of the opening
quote; each step takes a character, so as much `fuel` as there are characters is enough. -/
def readChars (stand : Nat → Char) (start : Nat) : (fuel : Nat) → (read : List Char) → Rest →
    Except Error (List Char × Rest)
  | 0, _, _ => .error (.malformed .unterminatedString start)
  | fuel + 1, read, r =>
    match r.chars with
    | [] => .error (.malformed .unterminatedString start)
    | '"' :: _ => .ok (read.reverse, r.drop 1)
    | '\\' :: rest =>
      match readEscape stand start r.index rest with
      | .error e => .error e
      | .ok (c, length) => readChars stand start fuel (c :: read) (r.drop (1 + length))
    | c :: _ =>
      if c.toNat < 0x20 then .error (.malformed .controlCharacter r.index)
      else readChars stand start fuel (c :: read) (r.drop 1)

/-- Reads a string; `r` begins after the opening quote. -/
def readString (stand : Nat → Char) (fuel : Nat) (r : Rest) : Except Error (String × Rest) :=
  match readChars stand (r.index - 1) fuel [] r with
  | .ok (chars, r) => .ok (String.ofList chars, r)
  | .error e => .error e

def isDigit (c : Char) : Bool :=
  '0' ≤ c && c ≤ '9'

/-- The digits after the point, with how many characters they and the point take. -/
def fraction (chars : List Char) : List Char :=
  match chars with
  | '.' :: rest => rest.takeWhile isDigit
  | _ => []

/-- The exponent at the head of the text with how many characters it takes; none where there are
no digits. -/
def exponent (chars : List Char) : Int × Nat :=
  match chars with
  | c :: rest =>
    if c = 'e' ∨ c = 'E' then
      let (negative, digits, signs) := match rest with
        | '-' :: rest => (true, rest.takeWhile isDigit, 1)
        | '+' :: rest => (false, rest.takeWhile isDigit, 1)
        | rest => (false, rest.takeWhile isDigit, 0)
      if digits.isEmpty then (0, 0)
      else
        let n : Int := Decimal.decimalNumber digits
        (if negative then -n else n, 1 + signs + digits.length)
    else (0, 0)
  | [] => (0, 0)

/-- Reads a number. A whole number without point and exponent is an integer, every other one a
floating-point number. -/
def readNumber (r : Rest) : Except Error (Value × Rest) :=
  let negative := r.chars.head? = some '-'
  let signs := if negative then 1 else 0
  let unsigned := r.chars.drop signs
  let whole := match unsigned with
    | '0' :: _ => ['0']
    | chars => chars.takeWhile isDigit
  if whole.isEmpty then .error (.malformed .expectingValue r.index)
  else
    let afterWhole := unsigned.drop whole.length
    let places := fraction afterWhole
    let pointed := if places.isEmpty then 0 else 1 + places.length
    let (power, powerLength) := exponent (afterWhole.drop pointed)
    let rest := r.drop (signs + whole.length + pointed + powerLength)
    if pointed = 0 ∧ powerLength = 0 then
      if Decimal.digitLimit < whole.length then .error (.number ⟨whole.length⟩)
      else
        let n : Int := Decimal.decimalNumber whole
        .ok (.int (if negative then -n else n), rest)
    else
      let x := Decimal.toFloat ⟨Decimal.decimalNumber (whole ++ places), power - places.length⟩
      .ok (.float (if negative then -x else x), rest)

def words : List (String × Value) :=
  [("null", .null), ("true", .bool true), ("false", .bool false), ("NaN", .float (0 / 0)),
    ("Infinity", .float (1 / 0)), ("-Infinity", .float (-1 / 0))]

/-- The value of the word at the head of the text, with the length of the word. -/
def word? (chars : List Char) : Option (Value × Nat) :=
  (words.find? fun (word, _) => word.toList.isPrefixOf chars).map fun (word, v) =>
    (v, word.length)

/-- The entries with `name` standing for `v`, in its old place if it has one. -/
def put (name : String) (v : Value) : List (Value × Value) → List (Value × Value)
  | [] => [(.text name, v)]
  | (k, old) :: rest => if k.isText name then (k, v) :: rest else (k, old) :: put name v rest

section

variable (stand : Nat → Char)

mutual

def readValue : (fuel : Nat) → Rest → Except Error (Value × Rest)
  | 0, r => .error (.malformed .expectingValue r.index)
  | fuel + 1, r =>
    match r.chars with
    | '"' :: _ => do
      let (s, r) ← readString stand fuel (r.drop 1)
      return (.text s, r)
    | '[' :: _ =>
      let inside := (r.drop 1).skip
      if inside.chars.head? = some ']' then .ok (.list [], inside.drop 1)
      else readItems fuel [] inside
    | '\x7b' :: _ =>
      let inside := (r.drop 1).skip
      if inside.chars.head? = some '\x7d' then .ok (.mapping [], inside.drop 1)
      else readEntries fuel [] inside
    | chars =>
      match word? chars with
      | some (v, length) => .ok (v, r.drop length)
      | none => readNumber r

def readItems : (fuel : Nat) → (read : List Value) → Rest → Except Error (Value × Rest)
  | 0, _, r => .error (.malformed .expectingValue r.index)
  | fuel + 1, read, r => do
    let (v, r) ← readValue fuel r
    let r := r.skip
    match r.chars with
    | ']' :: _ => return (.list (v :: read).reverse, r.drop 1)
    | ',' :: _ => readItems fuel (v :: read) (r.drop 1).skip
    | _ => .error (.malformed .expectingComma r.index)

def readEntries : (fuel : Nat) → (read : List (Value × Value)) → Rest →
    Except Error (Value × Rest)
  | 0, _, r => .error (.malformed .expectingValue r.index)
  | fuel + 1, read, r =>
    if r.chars.head? = some '"' then do
      let (name, r) ← readString stand fuel (r.drop 1)
      let r := r.skip
      if r.chars.head? ≠ some ':' then .error (.malformed .expectingColon r.index)
      let (v, r) ← readValue fuel (r.drop 1).skip
      let r := r.skip
      match r.chars with
      | '\x7d' :: _ => return (.mapping (put name v read), r.drop 1)
      | ',' :: _ => readEntries fuel (put name v read) (r.drop 1).skip
      | _ => .error (.malformed .expectingComma r.index)
    else .error (.malformed .expectingName r.index)

end

end

/-- The value that a JSON text spells. A chain of calls takes a character at least at every other
call, so with twice as much fuel as there are characters the fuel left is never less than the
characters left. -/
def read (text : List Char) (surrogates : Text.Surrogates := .none) : Except Error Value :=
  if text.head? = some '\uFEFF' then .error (.malformed .byteOrderMark 0)
  else do
    let (v, r) ← readValue surrogates.stand (2 * text.length + 2) (Rest.skip ⟨0, text⟩)
    let r := r.skip
    if r.chars.isEmpty then return v
    else .error (.malformed .extraData r.index)

end ProgramTags.Json
