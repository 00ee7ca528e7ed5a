/-!
# UTF-8

`encode` writes characters as octets and `decode` reads them back. A text that is no UTF-8 is
refused at the first octet that cannot begin or continue a character; `Fault` says which octets
are at fault and why.
-/

namespace ProgramTags.Text.Utf8

def encodeChar (c : Char) : List UInt8 :=
  let n := c.toNat
  if n < 0x80 then [n.toUInt8]
  else if n < 0x800 then [(0xC0 + n / 0x40).toUInt8, (0x80 + n % 0x40).toUInt8]
  else if n < 0x10000 then
    [(0xE0 + n / 0x1000).toUInt8, (0x80 + n / 0x40 % 0x40).toUInt8, (0x80 + n % 0x40).toUInt8]
  else
    [(0xF0 + n / 0x40000).toUInt8, (0x80 + n / 0x1000 % 0x40).toUInt8,
      (0x80 + n / 0x40 % 0x40).toUInt8, (0x80 + n % 0x40).toUInt8]

def encode (s : List Char) : List UInt8 :=
  s.flatMap encodeChar

inductive Reason where
  | invalidStart
  | invalidContinuation
  | endOfData
  deriving DecidableEq, Repr

/-- The octets from `position` on, `first` and as many after it as make `length`, are no UTF-8. -/
structure Fault where
  position : Nat
  first : UInt8
  length : Nat
  reason : Reason
  deriving DecidableEq, Repr

def Reason.message : Reason → String
  | .invalidStart => "invalid start byte"
  | .invalidContinuation => "invalid continuation byte"
  | .endOfData => "unexpected end of data"

/-- Two lower-case hexadecimal digits. -/
def hexByte (b : UInt8) : String :=
  String.ofList [Nat.digitChar (b.toNat / 16), Nat.digitChar (b.toNat % 16)]

def Fault.message (f : Fault) : String :=
  if f.length = 1 then
    s!"'utf-8' codec can't decode byte 0x{hexByte f.first} in position {f.position}: " ++
      f.reason.message
  else
    s!"'utf-8' codec can't decode bytes in position {f.position}-{f.position + f.length - 1}: " ++
      f.reason.message

/-- What a first octet announces: the bits it gives, the range of the second octet, and how many
octets follow. -/
structure Head where
  bits : Nat
  low : Nat
  high : Nat
  tails : Nat
  deriving DecidableEq, Repr

/-- The octets a character may begin with, and the range each allows for the second octet. -/
def Head.ofByte? (b : UInt8) : Option Head :=
  let n := b.toNat
  if n < 0x80 then some ⟨n, 0, 0, 0⟩
  else if n < 0xC2 then none
  else if n < 0xE0 then some ⟨n - 0xC0, 0x80, 0xBF, 1⟩
  else if n = 0xE0 then some ⟨0, 0xA0, 0xBF, 2⟩
  else if n = 0xED then some ⟨0xD, 0x80, 0x9F, 2⟩
  else if n < 0xF0 then some ⟨n - 0xE0, 0x80, 0xBF, 2⟩
  else if n = 0xF0 then some ⟨0, 0x90, 0xBF, 3⟩
  else if n < 0xF4 then some ⟨n - 0xF0, 0x80, 0xBF, 3⟩
  else if n = 0xF4 then some ⟨4, 0x80, 0x8F, 3⟩
  else none

/-- Reads the octets after the first one: the code point and the rest, or how many octets were
read before the one at fault and whether the text simply ends there. -/
def readTails (low high : Nat) : (tails : Nat) → (bits read : Nat) → List UInt8 →
    Except (Nat × Reason) (Nat × List UInt8)
  | 0, bits, _, rest => .ok (bits, rest)
  | _ + 1, _, read, [] => .error (read, .endOfData)
  | tails + 1, bits, read, b :: rest =>
    if low ≤ b.toNat ∧ b.toNat ≤ high then
      readTails 0x80 0xBF tails (bits * 0x40 + b.toNat % 0x40) (read + 1) rest
    else .error (read, .invalidContinuation)

/-- Reads the character at the head of `b :: rest`, whose first octet is number `position`. -/
def readChar (position : Nat) (b : UInt8) (rest : List UInt8) :
    Except Fault (Char × List UInt8) :=
  match Head.ofByte? b with
  | none => .error ⟨position, b, 1, .invalidStart⟩
  | some h =>
    match readTails h.low h.high h.tails h.bits 1 rest with
    | .ok (n, rest) => .ok (Char.ofNat n, rest)
    | .error (read, reason) => .error ⟨position, b, read, reason⟩

/-- Reads characters until the octets end; every step takes at least one octet, so as much
`fuel` as there are octets is enough. -/
def decodeFrom : (fuel position : Nat) → List UInt8 → Except Fault (List Char)
  | _, _, [] => .ok []
  | 0, _, _ :: _ => .ok []
  | fuel + 1, position, b :: rest =>
    match readChar position b rest with
    | .error e => .error e
    | .ok (c, rest') =>
      match decodeFrom fuel (position + (rest.length + 1 - rest'.length)) rest' with
      | .error e => .error e
      | .ok cs => .ok (c :: cs)

def decode (bytes : List UInt8) : Except Fault (List Char) :=
  decodeFrom bytes.length 0 bytes

end ProgramTags.Text.Utf8
