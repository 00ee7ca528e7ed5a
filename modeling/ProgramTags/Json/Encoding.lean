import ProgramTags.Text.Surrogates
import ProgramTags.Text.Utf8

/-!
# Encodings of JSON

A JSON text comes as octets of UTF-8, or of UTF-16 or UTF-32 in one of two orders. It may begin
with a mark that says which; without one, the zeros among the first four octets tell, since a JSON
text begins with characters of ASCII. Surrogates that stand alone pass in all of them; in UTF-8 they
have the three octets that a character of their code would have.
-/

namespace ProgramTags.Json

inductive ByteOrder where
  | greatFirst
  | smallFirst
  deriving DecidableEq, Repr

inductive Encoding where
  | utf8
  | utf16 (order : ByteOrder)
  | utf32 (order : ByteOrder)
  deriving DecidableEq, Repr

namespace Encoding

/-- The marks that a text may begin with. That of UTF-32 is looked for before that of UTF-16, which
it begins with. -/
def marks : List (List UInt8 × Encoding) :=
  [([0x00, 0x00, 0xFE, 0xFF], .utf32 .greatFirst), ([0xFF, 0xFE, 0x00, 0x00], .utf32 .smallFirst),
    ([0xFE, 0xFF], .utf16 .greatFirst), ([0xFF, 0xFE], .utf16 .smallFirst),
    ([0xEF, 0xBB, 0xBF], .utf8)]

/-- The encoding that the zeros among the first octets tell. -/
def ofZeros : List UInt8 → Encoding
  | a :: b :: c :: d :: _ =>
    if a = 0 then if b = 0 then .utf32 .greatFirst else .utf16 .greatFirst
    else if b ≠ 0 then .utf8
    else if c = 0 ∧ d = 0 then .utf32 .smallFirst
    else .utf16 .smallFirst
  | [a, b] => if a = 0 then .utf16 .greatFirst else if b = 0 then .utf16 .smallFirst else .utf8
  | _ => .utf8

/-- The encoding of a text, and the text without its mark. -/
def detect (bytes : List UInt8) : Encoding × List UInt8 :=
  match marks.find? fun (mark, _) => mark.isPrefixOf bytes with
  | some (mark, e) => (e, bytes.drop mark.length)
  | none => (ofZeros bytes, bytes)

end Encoding

def ByteOrder.number (order : ByteOrder) (bytes : List UInt8) : Nat :=
  let digits := match order with
    | .greatFirst => bytes
    | .smallFirst => bytes.reverse
  digits.foldl (fun n b => n * 256 + b.toNat) 0

/-- The numbers that octets spell, `width` octets each; none if octets are left over. -/
def units? (order : ByteOrder) (width : Nat) (bytes : List UInt8) : Option (List Nat) :=
  if bytes.length % width = 0 then
    some ((List.range (bytes.length / width)).map fun i =>
      order.number ((bytes.drop (i * width)).take width))
  else none

/-- The character of a code point; `stand` is the one for a surrogate. -/
def charOf (stand : Nat → Char) (n : Nat) : Char :=
  if 0xD800 ≤ n ∧ n < 0xE000 then stand n else Char.ofNat n

/-- The text of UTF-16 units. A pair makes one character. -/
def ofUnits (stand : Nat → Char) : List Nat → List Char
  | high :: low :: rest =>
    if 0xD800 ≤ high ∧ high < 0xDC00 ∧ 0xDC00 ≤ low ∧ low < 0xE000 then
      Char.ofNat (0x10000 + (high - 0xD800) * 0x400 + (low - 0xDC00)) :: ofUnits stand rest
    else charOf stand high :: ofUnits stand (low :: rest)
  | [unit] => [charOf stand unit]
  | [] => []

/-- The surrogate that the first three octets spell, and the rest. -/
def surrogate? : List UInt8 → Option (Nat × List UInt8)
  | a :: b :: c :: rest =>
    if a = 0xED ∧ 0xA0 ≤ b ∧ b ≤ 0xBF ∧ 0x80 ≤ c ∧ c ≤ 0xBF then
      some (0xD000 + b.toNat % 0x40 * 0x40 + c.toNat % 0x40, rest)
    else none
  | _ => none

/-- The text of UTF-8; every step takes an octet at least, so as much `fuel` as there are octets is
enough. -/
def ofUtf8? (stand : Nat → Char) : (fuel : Nat) → List UInt8 → Option (List Char)
  | _, [] => some []
  | 0, _ :: _ => none
  | fuel + 1, b :: rest =>
    match Text.Utf8.readChar 0 b rest with
    | .ok (c, rest) => (ofUtf8? stand fuel rest).map (c :: ·)
    | .error _ => do
      let (code, rest) ← surrogate? (b :: rest)
      (ofUtf8? stand fuel rest).map (stand code :: ·)

/-- The text that octets spell in an encoding, if they do. -/
def Encoding.decode? (e : Encoding) (stand : Nat → Char) (bytes : List UInt8) :
    Option (List Char) :=
  match e with
  | .utf8 => ofUtf8? stand bytes.length bytes
  | .utf16 order => (units? order 2 bytes).map (ofUnits stand)
  | .utf32 order => do
    let points ← units? order 4 bytes
    if points.all (· < 0x110000) then some (points.map (charOf stand)) else none

/-- The JSON text that octets spell, if they do. -/
def textOf? (bytes : List UInt8) (surrogates : Text.Surrogates := .none) : Option (List Char) :=
  let (e, rest) := Encoding.detect bytes
  e.decode? surrogates.stand rest

example : textOf? [0x5B, 0, 0x5D, 0] = some ['[', ']'] := by decide +kernel

example : textOf? [0, 0x22, 0xD8, 0x3D, 0xDE, 0, 0, 0x22] = some ['"', '😀', '"'] := by
  decide +kernel

end ProgramTags.Json
