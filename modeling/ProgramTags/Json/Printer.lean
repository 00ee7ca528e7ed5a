import ProgramTags.Decimal.Shortest
import ProgramTags.Value

/-!
# Writing JSON

`Json.print` writes a value on one line. A date, a set, a number that is not finite and other data
that JSON does not have are not written.
-/

namespace ProgramTags.Json

/-- A character as it stands between double quotes. -/
def escapeChar : Char → List Char
  | '"' => ['\\', '"']
  | '\\' => ['\\', '\\']
  | '\n' => ['\\', 'n']
  | '\r' => ['\\', 'r']
  | '\t' => ['\\', 't']
  | '\x08' => ['\\', 'b']
  | '\x0C' => ['\\', 'f']
  | c =>
    if c.toNat < 32 then
      ['\\', 'u', '0', '0', Nat.digitChar (c.toNat / 16), Nat.digitChar (c.toNat % 16)]
    else [c]

def quote (s : String) : String :=
  String.ofList ('"' :: s.toList.flatMap escapeChar ++ ['"'])

mutual

/-- The value on one line, if JSON has it. -/
def print : Value → Option String
  | .null => some "null"
  | .bool b => some (if b then "true" else "false")
  | .int n => some (toString n)
  | .float x => if x.isFinite then some (Decimal.floatText x) else none
  | .text s => some (quote s)
  | .list items => do
    return "[" ++ ",".intercalate (← printItems items) ++ "]"
  | .mapping entries => do
    return "\x7b" ++ ",".intercalate (← printEntries entries) ++ "\x7d"
  | _ => none

def printItems : List Value → Option (List String)
  | [] => some []
  | v :: rest => do
    let first ← print v
    return first :: (← printItems rest)

def printEntries : List (Value × Value) → Option (List String)
  | [] => some []
  | (.text name, v) :: rest => do
    let value ← print v
    return (quote name ++ ":" ++ value) :: (← printEntries rest)
  | _ :: _ => none

end

example : quote "a\"\n\x01" = "\"a\\\"\\n\\u0001\"" := by decide +kernel

end ProgramTags.Json
