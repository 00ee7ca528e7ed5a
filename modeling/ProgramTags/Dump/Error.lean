import ProgramTags.Tag
import ProgramTags.Decimal.Limit

/-!
# Faults of a dump

A fault names the place where a rule of the dump format is broken, as the steps that lead there
from the root, and the rule.
-/

namespace ProgramTags.Dump

/-- One step down into a value. -/
inductive Step where
  | key (name : String)
  | index (i : Nat)
  deriving DecidableEq, Repr

/-- The way from the root to a value. -/
abbrev Location := List Step

def Step.text : Step → String
  | .key name => "." ++ name
  | .index i => s!"[{i}]"

/-- The steps as a reader writes them: names with dots between, positions in brackets. -/
def Location.text : Location → String
  | [] => ""
  | .key name :: rest => name ++ String.join (rest.map Step.text)
  | steps => String.join (steps.map Step.text)

inductive Violation where
  | notMapping
  | notList
  /-- The value under the key is no text, or empty. -/
  | noText (key : String)
  | noInteger (key : String)
  /-- No tag kind is spelled so. -/
  | unknownKind (shown : String)
  deriving DecidableEq, Repr

def Violation.message : Violation → String
  | .notMapping => "expected a mapping"
  | .notList => "expected a list"
  | .noText key => s!"'{key}' must be a non-empty string"
  | .noInteger key => s!"'{key}' must be an integer"
  | .unknownKind shown =>
    let known := ", ".intercalate (TagKind.all.map TagKind.word)
    s!"unknown tag kind '{shown}' (expected one of: {known})"

inductive Error where
  /-- The root is no mapping. -/
  | noRoot
  /-- A rule is broken somewhere below the root. -/
  | broken (at_ : Location) (rule : Violation)
  /-- A number that is wanted as a text has too many digits. -/
  | number (e : Decimal.TooLong)
  deriving DecidableEq, Repr

def Error.message : Error → String
  | .noRoot => "Program dump must contain a mapping at the root"
  | .broken loc rule => s!"{loc.text}: {rule.message}"
  | .number e => e.message

end ProgramTags.Dump
