import ProgramTags.Text.Position

/-!
# Places in a YAML text

A `Cursor` is a place in a text together with what is left of it. The end of the text is seen as
the character `ending`, which a text cannot hold. Five characters end a line, and a carriage
return with a line feed ends one line.
-/

namespace ProgramTags.Yaml

open Text (Position)

/-- What is seen at the end of the text. -/
def ending : Char := '\x00'

def isBreak (c : Char) : Bool :=
  c = '\n' || c = '\r' || c = '\u0085' || c = '\u2028' || c = '\u2029'

/-- A line or the text ends here. -/
def isLineEnd (c : Char) : Bool :=
  c = ending || isBreak c

/-- A word ends here, tabs being part of words. -/
def isWordEnd (c : Char) : Bool :=
  c = ' ' || isLineEnd c

/-- A word ends here, tabs being no part of words. -/
def isGap (c : Char) : Bool :=
  c = '\t' || isWordEnd c

def isNameChar (c : Char) : Bool :=
  ('0' ≤ c && c ≤ '9') || ('A' ≤ c && c ≤ 'Z') || ('a' ≤ c && c ≤ 'z') || c = '-' || c = '_'

/-- The place after `c`, which is followed by `next`. A byte order mark has no width. -/
def after (p : Position) (c next : Char) : Position :=
  if c = '\n' ∨ c = '\u0085' ∨ c = '\u2028' ∨ c = '\u2029' ∨ (c = '\r' ∧ next ≠ '\n') then
    ⟨p.index + 1, p.line + 1, 0⟩
  else if c = '\uFEFF' then ⟨p.index + 1, p.line, p.column⟩
  else ⟨p.index + 1, p.line, p.column + 1⟩

/-- A place in a text, and what is left of the text. -/
structure Cursor where
  place : Position := {}
  rest : List Char
  deriving DecidableEq, Repr

namespace Cursor

def peek (c : Cursor) (n : Nat := 0) : Char :=
  c.rest[n]?.getD ending

def advance : (n : Nat) → Cursor → Cursor
  | 0, c => c
  | n + 1, c =>
    match c.rest with
    | [] => c
    | x :: rest => advance n ⟨after c.place x (rest.head?.getD ending), rest⟩

/-- The characters that satisfy `p` up to the first that does not, and the cursor after them. -/
def span (p : Char → Bool) (c : Cursor) : List Char × Cursor :=
  let taken := c.rest.takeWhile p
  (taken, c.advance taken.length)

def skip (p : Char → Bool) (c : Cursor) : Cursor :=
  (c.span p).2

def skipSpaces (c : Cursor) : Cursor :=
  c.skip (· = ' ')

def skipComment (c : Cursor) : Cursor :=
  if c.peek = '#' then c.skip (!isLineEnd ·) else c

/-- Takes a line end, if there is one. Line and paragraph separators stay what they are, every
other line end is read as a line feed. -/
def lineBreak? (c : Cursor) : Option (Char × Cursor) :=
  let x := c.peek
  if x = '\r' ∧ c.peek 1 = '\n' then some ('\n', c.advance 2)
  else if x = '\u2028' ∨ x = '\u2029' then some (x, c.advance 1)
  else if isBreak x then some ('\n', c.advance 1)
  else none

def skipBreak (c : Cursor) : Cursor :=
  (c.lineBreak?.map (·.2)).getD c

/-- The text `mark` of three characters stands here as a word. -/
def atMark (c : Cursor) (mark : String) : Bool :=
  c.rest.take 3 = mark.toList && isGap (c.peek 3)

/-- A document begins or ends here, if this is the beginning of a line. -/
def atDocumentMark (c : Cursor) : Bool :=
  c.atMark "---" || c.atMark "..."

end Cursor

/-- The part of the line around a place that is shown with an error, and below it an arrow to the
place. Lines of more than some seventy characters are cut. -/
def snippet (text : List Char) (index : Nat) : String :=
  let before := (text.take index).reverse.takeWhile (!isLineEnd ·)
  let behind := (text.drop index).takeWhile (!isLineEnd ·)
  let (head, left) := if 36 < before.length then (" ... ", before.take 32) else ("", before)
  let (tail, right) := if 36 < behind.length then (" ... ", behind.take 32) else ("", behind)
  "    " ++ head ++ String.ofList (left.reverse ++ right) ++ tail ++ "\n" ++
    String.ofList (List.replicate (4 + left.length + head.length) ' ') ++ "^"

def placeText (text : List Char) (p : Position) : String :=
  s!"  in \"<unicode string>\", line {p.line + 1}, column {p.column + 1}:\n" ++
    snippet text p.index

end ProgramTags.Yaml
