import ProgramTags.Text.Printable

/-!
# Quoted text

`quoted` shows a text between quotes on one line. Single quotes are used unless the text holds a
single quote and no double quote. The quote in use and the backslash are escaped, tabs and line
ends have letters, and every other unprintable character is shown by its code in hexadecimal.
-/

namespace ProgramTags.Text

/-- The lowest `digits` hexadecimal digits of `n`, in lower case. -/
def hexDigits : (digits n : Nat) → List Char
  | 0, _ => []
  | digits + 1, n => hexDigits digits (n / 16) ++ [Nat.digitChar (n % 16)]

/-- One character as it stands between quotes `quote`. -/
def quotedChar (quote c : Char) : List Char :=
  if c = quote ∨ c = '\\' then ['\\', c]
  else if c = '\t' then ['\\', 't']
  else if c = '\n' then ['\\', 'n']
  else if c = '\r' then ['\\', 'r']
  else if isPrintable c then [c]
  else if c.toNat ≤ 0xFF then ['\\', 'x'] ++ hexDigits 2 c.toNat
  else if c.toNat ≤ 0xFFFF then ['\\', 'u'] ++ hexDigits 4 c.toNat
  else ['\\', 'U'] ++ hexDigits 8 c.toNat

def quoteFor (s : List Char) : Char :=
  if '\'' ∈ s ∧ '"' ∉ s then '"' else '\''

def quotedChars (s : List Char) : List Char :=
  quoteFor s :: s.flatMap (quotedChar (quoteFor s)) ++ [quoteFor s]

def quoted (s : String) : String :=
  String.ofList (quotedChars s.toList)

/-- Octets between quotes, those outside ASCII and the controls by their code. -/
def quotedBytes (bytes : List UInt8) : String :=
  let quote := quoteFor (bytes.map fun b => Char.ofNat b.toNat)
  let shown := bytes.flatMap fun b =>
    if b.toNat < 127 then quotedChar quote (Char.ofNat b.toNat)
    else ['\\', 'x'] ++ hexDigits 2 b.toNat
  String.ofList ('b' :: quote :: shown ++ [quote])

theorem length_hexDigits (digits n : Nat) : (hexDigits digits n).length = digits := by
  induction digits generalizing n with
  | zero => rfl
  | succ k ih => simp [hexDigits, ih]

end ProgramTags.Text
