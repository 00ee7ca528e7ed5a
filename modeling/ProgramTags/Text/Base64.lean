/-!
# Base 64

`decode` reads octets from a text in base 64. Characters outside the alphabet are passed over, and
so is a pad before its time; the pad that completes a group of four ends the text.
-/

namespace ProgramTags.Text.Base64

/-- The six bits that a character of the alphabet stands for. -/
def sextet? (c : Char) : Option Nat :=
  if 'A' ≤ c ∧ c ≤ 'Z' then some (c.toNat - 65)
  else if 'a' ≤ c ∧ c ≤ 'z' then some (c.toNat - 71)
  else if '0' ≤ c ∧ c ≤ '9' then some (c.toNat + 4)
  else if c = '+' then some 62
  else if c = '/' then some 63
  else none

inductive Error where
  /-- One character is left over after `before` characters in whole groups. -/
  | oneLeft (before : Nat)
  /-- The last group is not complete. -/
  | padding
  deriving DecidableEq, Repr

def Error.message : Error → String
  | .oneLeft before =>
    s!"Invalid base64-encoded string: number of data characters ({before + 1}) " ++
      "cannot be 1 more than a multiple of 4"
  | .padding => "Incorrect padding"

/-- The octet that the group's newest sextet completes, if it completes one. `place` is how many
sextets of the group came before. -/
def octet (place last sextet : Nat) : List UInt8 :=
  match place with
  | 0 => []
  | 1 => [(last * 4 + sextet / 16).toUInt8]
  | 2 => [(last % 16 * 16 + sextet / 4).toUInt8]
  | _ => [(last % 4 * 64 + sextet).toUInt8]

/-- Reads on in a group: `place` sextets of it have been read, the newest is `last`, and `pads`
pads have followed it. `groups` counts the whole groups before. -/
def decodeFrom (groups place last pads : Nat) : List Char → Except Error (List UInt8)
  | [] =>
    match place with
    | 0 => .ok []
    | 1 => .error (.oneLeft (groups * 4))
    | _ => .error .padding
  | c :: rest =>
    if c = '=' then
      if place < 2 then decodeFrom groups place last pads rest
      else if 4 ≤ place + pads + 1 then .ok []
      else decodeFrom groups place last (pads + 1) rest
    else match sextet? c with
      | none => decodeFrom groups place last pads rest
      | some s =>
        let more :=
          if place = 3 then decodeFrom (groups + 1) 0 0 0 rest
          else decodeFrom groups (place + 1) s 0 rest
        more.map (octet place last s ++ ·)

def decode (text : List Char) : Except Error (List UInt8) :=
  decodeFrom 0 0 0 0 text

example : (decode "TWFu".toList).toOption = some [77, 97, 110] := by decide +kernel
example : (decode "TW E=".toList).toOption = some [77, 97] := by decide +kernel

end ProgramTags.Text.Base64
