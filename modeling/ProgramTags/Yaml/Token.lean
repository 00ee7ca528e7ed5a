import ProgramTags.Text.Position

/-!
# Tokens

The pieces that a YAML text is cut into: marks of structure, some of which only indentation shows,
and scalars with their text. Each token has the places of its two ends.
-/

namespace ProgramTags.Yaml

open Text (Position)

inductive Directive where
  | version (major minor : Nat)
  | handle (name begins : String)
  | other
  deriving DecidableEq, Repr

/-- A tag as it is written: a handle, which may be left out, and the rest. -/
structure TagName where
  handle : Option String
  rest : String
  deriving DecidableEq, Repr

inductive TokenKind where
  | streamStart
  | streamEnd
  | directive (d : Directive)
  | documentStart
  | documentEnd
  | blockSequenceStart
  | blockMappingStart
  | blockEnd
  | flowSequenceStart
  | flowSequenceEnd
  | flowMappingStart
  | flowMappingEnd
  | flowEntry
  | blockEntry
  | key
  | value
  | alias (name : String)
  | anchor (name : String)
  | tag (name : TagName)
  /-- A scalar; `plain` if it stands without quotes on ordinary lines. -/
  | scalar (text : List Char) (plain : Bool)
  deriving DecidableEq, Repr

def TokenKind.name : TokenKind → String
  | .streamStart => "<stream start>"
  | .streamEnd => "<stream end>"
  | .directive _ => "<directive>"
  | .documentStart => "<document start>"
  | .documentEnd => "<document end>"
  | .blockSequenceStart => "<block sequence start>"
  | .blockMappingStart => "<block mapping start>"
  | .blockEnd => "<block end>"
  | .flowSequenceStart => "["
  | .flowSequenceEnd => "]"
  | .flowMappingStart => "\x7b"
  | .flowMappingEnd => "\x7d"
  | .flowEntry => ","
  | .blockEntry => "-"
  | .key => "?"
  | .value => ":"
  | .alias _ => "<alias>"
  | .anchor _ => "<anchor>"
  | .tag _ => "<tag>"
  | .scalar .. => "<scalar>"

structure Token where
  kind : TokenKind
  start : Position
  stop : Position
  deriving DecidableEq, Repr

end ProgramTags.Yaml
