import ProgramTags.Value
import ProgramTags.Text.Quoted
import ProgramTags.Decimal.Limit
import ProgramTags.Decimal.Shortest

/-!
# The text of a value

`Value.toText` is what is shown where a text is wanted and other data is given: a text stands for
itself, everything else is written out, and texts inside lists and mappings are quoted. A
collection that holds itself is shown as dots where it is met again.
-/

namespace ProgramTags

namespace Value

/-- What stands for a collection inside itself. -/
def dots : Value → String
  | .mapping _ => "\x7b...\x7d"
  | .set _ => "set(...)"
  | _ => "[...]"

mutual

/-- The value as it stands inside a collection. `around` lists the numbers of the anchored values
that it stands in, with what is shown for each. -/
def quoted (around : List (Nat × String)) : Value → Except Decimal.TooLong String
  | .null => .ok "None"
  | .bool b => .ok (if b then "True" else "False")
  | .int n => Decimal.text n
  | .float x => .ok (Decimal.floatText x)
  | .text s => .ok (Text.quoted s)
  | .bytes b => .ok (Text.quotedBytes b)
  | .date d => .ok d.quoted
  | .dateTime t => .ok t.quoted
  | .list items => do
    return "[" ++ ", ".intercalate (← quotedItems around items) ++ "]"
  | .pair first second => do
    return "(" ++ (← quoted around first) ++ ", " ++ (← quoted around second) ++ ")"
  | .mapping entries => do
    return "\x7b" ++ ", ".intercalate (← quotedEntries around entries) ++ "\x7d"
  | .set items => do
    if items.isEmpty then return "set()"
    return "\x7b" ++ ", ".intercalate (← quotedItems around items) ++ "\x7d"
  | .anchored id v =>
    match around.lookup id with
    | some shown => .ok shown
    | none => quoted ((id, dots v) :: around) v
  | .again id => .ok ((around.lookup id).getD "[...]")

def quotedItems (around : List (Nat × String)) : List Value →
    Except Decimal.TooLong (List String)
  | [] => .ok []
  | v :: rest => do
    let first ← quoted around v
    return first :: (← quotedItems around rest)

def quotedEntries (around : List (Nat × String)) : List (Value × Value) →
    Except Decimal.TooLong (List String)
  | [] => .ok []
  | (k, v) :: rest => do
    let key ← quoted around k
    let value ← quoted around v
    return (key ++ ": " ++ value) :: (← quotedEntries around rest)

end

def toText : Value → Except Decimal.TooLong String
  | .text s => .ok s
  | .date d => .ok d.text
  | .dateTime t => .ok t.text
  | v => quoted [] v

end Value

end ProgramTags
