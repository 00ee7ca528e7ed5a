import ProgramTags.Decimal.Limit
import ProgramTags.Text.Position

/-!
# Faults of a JSON text
-/

namespace ProgramTags.Json

inductive Fault where
  | byteOrderMark
  | expectingValue
  | expectingName
  | expectingColon
  | expectingComma
  | extraData
  | unterminatedString
  | invalidEscape
  | invalidUnicodeEscape
  | controlCharacter
  deriving DecidableEq, Repr

def Fault.message : Fault → String
  | .byteOrderMark => "Unexpected UTF-8 BOM (decode using utf-8-sig)"
  | .expectingValue => "Expecting value"
  | .expectingName => "Expecting property name enclosed in double quotes"
  | .expectingColon => "Expecting ':' delimiter"
  | .expectingComma => "Expecting ',' delimiter"
  | .extraData => "Extra data"
  | .unterminatedString => "Unterminated string starting at"
  | .invalidEscape => "Invalid \\escape"
  | .invalidUnicodeEscape => "Invalid \\uXXXX escape"
  | .controlCharacter => "Invalid control character at"

inductive Error where
  /-- The text is no JSON; `index` is where. -/
  | malformed (fault : Fault) (index : Nat)
  /-- An integer has too many digits. -/
  | number (e : Decimal.LiteralTooLong)
  deriving DecidableEq, Repr

/-- The fault with its place in the text. -/
def Error.message (text : List Char) : Error → String
  | .malformed fault index =>
    let p := Text.Position.ofIndex text index
    s!"{fault.message}: line {p.line + 1} column {p.column + 1} (char {index})"
  | .number e => e.message

end ProgramTags.Json
