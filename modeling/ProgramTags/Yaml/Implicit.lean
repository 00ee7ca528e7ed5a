import ProgramTags.Yaml.Timestamp

/-!
# Implicit types

A plain scalar without a tag is a truth value, a number, a time, null, or one of two marks, if it
is spelled like one; else it is a text. `implicitType` gives the name of the type.
-/

namespace ProgramTags.Yaml.Implicit

def isDigit (c : Char) : Bool :=
  '0' ≤ c && c ≤ '9'

def unsigned : List Char → List Char
  | '-' :: rest => rest
  | '+' :: rest => rest
  | s => s

/-- The words of truth, in lower case, with a capital, and in capitals. -/
def truthWords : List String :=
  ["yes", "Yes", "YES", "no", "No", "NO", "true", "True", "TRUE", "false", "False", "FALSE",
    "on", "On", "ON", "off", "Off", "OFF"]

def nullWords : List String :=
  ["~", "null", "Null", "NULL", ""]

/-- The text begins with a digit that satisfies `p`, and the rest are digits that satisfy `q` and
underscores. -/
def isRun (p q : Char → Bool) : List Char → Bool
  | [] => false
  | c :: rest => p c && rest.all fun c => q c || c = '_'

/-- A place in base sixty: one digit, or two of which the first is less than six. -/
def isSixtieth : List Char → Bool
  | [c] => isDigit c
  | [c, d] => '0' ≤ c && c ≤ '5' && isDigit d
  | _ => false

def pieces (s : List Char) : List (List Char) :=
  s.splitOn ':'

/-- A number in base sixty, whose first place `p` accepts. -/
def isSexagesimal (p : List Char → Bool) (s : List Char) : Bool :=
  match pieces s with
  | first :: second :: rest => p first && (second :: rest).all isSixtieth
  | _ => false

/-- An integer: in base two, eight, ten, sixteen or sixty. -/
def isInt (s : List Char) : Bool :=
  let n := unsigned s
  let isDigitOf (top c : Char) : Bool := '0' ≤ c && c ≤ top
  let positive := isRun (fun c => '1' ≤ c && c ≤ '9') isDigit
  match n with
  | '0' :: 'b' :: rest => !rest.isEmpty && rest.all fun c => isDigitOf '1' c || c = '_'
  | '0' :: 'x' :: rest =>
    !rest.isEmpty && rest.all fun c =>
      isDigit c || ('a' ≤ c && c ≤ 'f') || ('A' ≤ c && c ≤ 'F') || c = '_'
  | '0' :: rest => rest.all fun c => isDigitOf '7' c || c = '_'
  | _ => positive n || isSexagesimal positive n

/-- An exponent with a sign, or nothing. -/
def isExponent : List Char → Bool
  | [] => true
  | c :: sign :: digits =>
    (c = 'e' || c = 'E') && (sign = '-' || sign = '+') && !digits.isEmpty && digits.all isDigit
  | _ => false

/-- A floating-point number: with a point, in base ten or sixty, or one of the words that are
written with a point. -/
def isFloat (s : List Char) : Bool :=
  let n := unsigned s
  let whole := isRun isDigit isDigit
  let places := fun (c : Char) => isDigit c || c = '_'
  let before := n.takeWhile (· ≠ '.')
  match n.dropWhile (· ≠ '.') with
  | [] => false
  | _ :: after =>
    let decimal := isExponent (after.dropWhile places)
    if before.isEmpty then
      [".inf", ".Inf", ".INF"].any (·.toList = n) || [".nan", ".NaN", ".NAN"].any (·.toList = s) ||
        (n = s && (after.head?.map isDigit).getD false && decimal)
    else (whole before && decimal) || (isSexagesimal whole before && after.all places)

/-- A timestamp; a day alone has two digits for the month and two for the day. -/
def isTimestamp (s : List Char) : Bool :=
  match Timestamp.exactly? s with
  | some t => t.clock.isSome || s.length = 10
  | none => false

/-- The type of a scalar that says nothing about it. -/
def implicitType (text : List Char) : String :=
  let s := dropFinalNewline text
  if s = [] ∧ text ≠ [] then "str"
  else if truthWords.any (·.toList = s) then "bool"
  else if isFloat s then "float"
  else if isInt s then "int"
  else if s = "<<".toList then "merge"
  else if nullWords.any (·.toList = s) then "null"
  else if isTimestamp s then "timestamp"
  else if s = "=".toList then "value"
  else if ["!", "&", "*"].any (·.toList = s) then "yaml"
  else "str"

example : implicitType "0o17".toList = "str" := by decide +kernel
example : implicitType "-1:30".toList = "int" := by decide +kernel
example : implicitType "1.5e3".toList = "str" := by decide +kernel
example : implicitType "2001-1-1 10:00:00 +1".toList = "timestamp" := by decide +kernel

end ProgramTags.Yaml.Implicit
