import ProgramTags.Yaml.Error

/-!
# Steps of a scanner

`Scan` is a step that takes characters from a text and may fail where it stands.
-/

namespace ProgramTags.Yaml

open Text (Position)

/-- A step that takes characters and may fail. -/
abbrev Scan := StateT Cursor (Except Error)

namespace Scan

def fail {α : Type} (problem : Problem) (during : Option Activity := none)
    (since : Option Position := none) : Scan α := do
  throw (.malformed ⟨problem, (← get).place, during, since⟩)

def failExpected {α : Type} (wanted : Wanted) (during : Activity) (since : Position)
    (ahead : Nat := 0) : Scan α := do
  fail (.expected wanted ((← get).peek ahead)) during since

def place : Scan Position :=
  return (← get).place

def peek (n : Nat := 0) : Scan Char :=
  return (← get).peek n

def advance (n : Nat) : Scan Unit :=
  modify (·.advance n)

def take (p : Char → Bool) : Scan (List Char) :=
  modifyGet (·.span p)

def lineBreak? : Scan (Option Char) := do
  match (← get).lineBreak? with
  | some (c, next) =>
    set next
    return some c
  | none => return none

/-- Takes what may follow on a line that has been read: spaces, a comment, and the line end. -/
def restOfLine (during : Activity) (since : Position) : Scan Unit := do
  modify fun c => c.skipSpaces.skipComment
  unless isLineEnd (← peek) do failExpected .lineEnd during since
  modify Cursor.skipBreak

def hexNumber (n : Nat) (wanted : Wanted) (during : Activity) (since : Position) : Scan Nat := do
  let digits := (← get).rest.take n
  let good := digits.takeWhile fun c => (Decimal.digitIn? 16 c).isSome
  if good.length < n then failExpected wanted during since good.length
  advance n
  return good.foldl (fun m c => m * 16 + (Decimal.digitIn? 16 c).getD 0) 0

end Scan

end ProgramTags.Yaml
