import ProgramTags.Yaml.Token.Scan

/-!
# The text of scalars

A scalar is written in one of three ways. A plain scalar stands without quotes; a quoted one
stands between single quotes, where a quote is written twice, or between double quotes, where a
backslash begins an escape; a block scalar is made of the lines that are indented below its
header. Lines of the first two are folded: a line end is read as a space, and of several line ends
in a row all but the first are kept.
-/

namespace ProgramTags.Yaml.Scan

open Text (Position)

/-- What a line end and the line ends after it are read as. -/
def fold (lineBreak : Char) (breaks : List Char) : List Char :=
  if lineBreak ≠ '\n' then lineBreak :: breaks
  else if breaks.isEmpty then [' ']
  else breaks

/-! ## Quoted scalars -/

def escapes : List (Char × Char) :=
  [('0', '\x00'), ('a', '\x07'), ('b', '\x08'), ('t', '\t'), ('\t', '\t'), ('n', '\n'),
    ('v', '\x0b'), ('f', '\x0c'), ('r', '\r'), ('e', '\x1b'), (' ', ' '), ('"', '"'),
    ('\\', '\\'), ('/', '/'), ('N', '\u0085'), ('_', '\u00a0'), ('L', '\u2028'), ('P', '\u2029')]

/-- How many hexadecimal digits follow a letter after a backslash. -/
def codeLength? : Char → Option Nat
  | 'x' => some 2
  | 'u' => some 4
  | 'U' => some 8
  | _ => none

/-- The character of the given code; for the code of a surrogate, the one that stands for it. -/
def charOfCode (stand : Nat → Char) (code : Nat) : Except Error Char :=
  if 0x10FFFF < code then .error (.scalar (.codePoint code))
  else if 0xD800 ≤ code ∧ code ≤ 0xDFFF then .ok (stand code)
  else .ok (Char.ofNat code)

/-- Takes the line ends and the indentation of the lines after them, at most `fuel` of them. No
document may begin or end there. -/
def quotedBreaks (since : Position) : (fuel : Nat) → Scan (List Char)
  | 0 => return []
  | fuel + 1 => do
    if (← get).atDocumentMark then fail .documentInQuotes Activity.quotedScalar since
    let _ ← take fun c => c = ' ' || c = '\t'
    match ← lineBreak? with
    | some c => return c :: (← quotedBreaks since fuel)
    | none => return []

/-- Takes white space between quotes, folding lines. -/
def quotedSpaces (since : Position) : Scan (List Char) := do
  let spaces ← take fun c => c = ' ' || c = '\t'
  if (← peek) = ending then fail .endInQuotes Activity.quotedScalar since
  match ← lineBreak? with
  | some c => return fold c (← quotedBreaks since ((← get).rest.length + 1))
  | none => return spaces

/-- Takes an escape. A backslash at the end of a line joins it with the next one. -/
def quotedEscape (stand : Nat → Char) (since : Position) : Scan (List Char) := do
  advance 1
  let c ← peek
  match escapes.lookup c, codeLength? c with
  | some c, _ =>
    advance 1
    return [c]
  | none, some n =>
    advance 1
    let code ← hexNumber n (.hexDigits n) .doubleQuotedScalar since
    return [← charOfCode stand code]
  | none, none =>
    match ← lineBreak? with
    | some _ => quotedBreaks since ((← get).rest.length + 1)
    | none => fail (.unknownEscape c) Activity.doubleQuotedScalar since

/-- Takes the text up to the closing quote, and the quote. Each round takes a character at least;
`read` holds what was taken, the newest piece first. -/
def quotedText (stand : Nat → Char) (double : Bool) (since : Position) :
    (fuel : Nat) → (read : List (List Char)) → Scan (List Char)
  | 0, read => return read.reverse.flatten
  | fuel + 1, read => do
    let c ← peek
    let quote := if double then '"' else '\''
    if c = quote then
      if !double && (← peek 1) = '\'' then
        advance 2
        quotedText stand double since fuel (['\''] :: read)
      else
        advance 1
        return read.reverse.flatten
    else if double && c = '\\' then
      let chars ← quotedEscape stand since
      quotedText stand double since fuel (chars :: read)
    else if isGap c then
      let chars ← quotedSpaces since
      quotedText stand double since fuel (chars :: read)
    else
      let chars ← take fun c => c ≠ quote && !(double && c = '\\') && !isGap c
      quotedText stand double since fuel (chars :: read)

def quoted (stand : Nat → Char) (double : Bool) : Scan (List Char) := do
  let start ← place
  advance 1
  quotedText stand double start ((← get).rest.length + 1) []

/-! ## Plain scalars -/

def isFlowMark (c : Char) : Bool :=
  c = ',' || c = '[' || c = ']' || c = '\x7b' || c = '\x7d'

/-- A plain scalar ends, or is interrupted, before `c`, which is followed by `next`. -/
def endsPlain (flow : Bool) (c next : Char) : Bool :=
  isGap c || (c = ':' && (isGap next || (flow && isFlowMark next))) ||
    (flow && (c = '?' || isFlowMark c))

/-- The characters at the head of a text that are part of a plain scalar. -/
def plainRun (flow : Bool) : List Char → List Char
  | [] => []
  | c :: rest =>
    if endsPlain flow c (rest.head?.getD ending) then [] else c :: plainRun flow rest

/-- Takes line ends and the indentation after them, at most `fuel` of them; nothing if a document
begins or ends there. -/
def plainBreaks : (fuel : Nat) → Scan (Option (List Char))
  | 0 => return some []
  | fuel + 1 => do
    if (← get).atDocumentMark then return none
    modify Cursor.skipSpaces
    match ← lineBreak? with
    | some c => return (← plainBreaks fuel).map (c :: ·)
    | none => return some []

/-- Takes white space after a piece of a plain scalar, folding lines, and tells whether a line has
ended. No white space means that the scalar has ended. -/
def plainSpaces : Scan (List Char × Bool) := do
  let spaces ← take (· = ' ')
  match ← lineBreak? with
  | some c =>
    match ← plainBreaks ((← get).rest.length + 1) with
    | some breaks => return (fold c breaks, true)
    | none => return ([], true)
  | none => return (spaces, false)

/-- Takes pieces of a plain scalar with the white space between them. Each round takes a character
at least; `spaces` is the white space before the piece, `newLine` tells whether a line ended in it,
and `read` holds what was taken, the newest piece first. -/
def plainText (flow : Bool) (indent : Nat) : (fuel : Nat) → (spaces : List Char) →
    (newLine : Bool) → (read : List (List Char)) → Scan (List Char × Bool)
  | 0, _, newLine, read => return (read.reverse.flatten, newLine)
  | fuel + 1, spaces, newLine, read => do
    let run := plainRun flow (← get).rest
    if run.isEmpty || (← peek) = '#' then return (read.reverse.flatten, newLine)
    else
      advance run.length
      let read := run :: spaces :: read
      let (spaces, newLine) ← plainSpaces
      let column := (← place).column
      if spaces.isEmpty || (!flow && column < indent) then
        return (read.reverse.flatten, newLine)
      else plainText flow indent fuel spaces newLine read

/-- Takes a plain scalar, whose lines are indented by `indent` columns at least outside brackets.
Tells whether the cursor has moved to another line after it. -/
def plain (flow : Bool) (indent : Nat) : Scan (List Char × Bool) := do
  plainText flow indent ((← get).rest.length + 1) [] false []

/-! ## Block scalars -/

/-- Which line ends at the end of a block scalar are kept. -/
inductive Chomping where
  /-- The first one. -/
  | clip
  | keep
  | strip
  deriving DecidableEq, Repr

def chomping? : Scan (Option Chomping) := do
  match ← peek with
  | '+' =>
    advance 1
    return some .keep
  | '-' =>
    advance 1
    return some .strip
  | _ => return none

/-- Takes a digit that tells the indentation, if there is one. -/
def indentation? (since : Position) : Scan (Option Nat) := do
  let c ← peek
  if c = '0' then fail .zeroIndentation Activity.blockScalar since
  else if '1' ≤ c ∧ c ≤ '9' then
    advance 1
    return some (c.toNat - 48)
  else return none

/-- Takes the marks in the header of a block scalar, which come in any order. -/
def blockMarks (since : Position) : Scan (Chomping × Option Nat) := do
  let first ← chomping?
  let indentation ← indentation? since
  let second ← if first.isNone && indentation.isSome then chomping? else pure none
  unless isWordEnd (← peek) do failExpected .blockIndicators .blockScalar since
  return ((first.orElse fun _ => second).getD .clip, indentation)

/-- Takes empty lines and the spaces before the first line that is not empty. Gives the line ends,
and the greatest column that the spaces reach. -/
def leadingBreaks : (fuel : Nat) → (widest : Nat) → Scan (List Char × Nat)
  | 0, widest => return ([], widest)
  | fuel + 1, widest => do
    let spaces ← take (· = ' ')
    let column := (← place).column
    let widest := if spaces.isEmpty then widest else max widest column
    match ← lineBreak? with
    | some c =>
      let (breaks, widest) ← leadingBreaks fuel widest
      return (c :: breaks, widest)
    | none => return ([], widest)

def indentTo (column : Nat) : Scan Unit :=
  modify fun c => c.advance (min (c.rest.takeWhile (· = ' ')).length (column - c.place.column))

/-- Takes empty lines, and the indentation of the line after them. -/
def blockBreaks (indent : Nat) : (fuel : Nat) → Scan (List Char)
  | 0 => return []
  | fuel + 1 => do
    indentTo indent
    match ← lineBreak? with
    | some c => return c :: (← blockBreaks indent fuel)
    | none => return []

/-- The cursor stands at a line of the block scalar. -/
def atBlockLine (indent : Nat) : Scan Bool := do
  return (← place).column = indent && (← peek) ≠ ending

/-- Takes the lines of a block scalar; the cursor stands at one, and `breaks` are the line ends
before it. Gives the text, the end of the last line, and the line ends after it. -/
def blockLines (folded : Bool) (indent : Nat) : (fuel : Nat) → (breaks : List Char) →
    (read : List (List Char)) → Scan (List Char × List Char × List Char)
  | 0, breaks, read => return (read.reverse.flatten, [], breaks)
  | fuel + 1, breaks, read => do
    let isIndented := fun (c : Char) => c = ' ' || c = '\t'
    let indented := isIndented (← peek)
    let line ← take (!isLineEnd ·)
    let lineEnd := (← lineBreak?).toList
    let next ← blockBreaks indent ((← get).rest.length + 1)
    let read := line :: breaks :: read
    if ← atBlockLine indent then
      let joint :=
        if folded && lineEnd = ['\n'] && !indented && !isIndented (← peek) then
          if next.isEmpty then [' '] else []
        else lineEnd
      blockLines folded indent fuel next (joint :: read)
    else return (read.reverse.flatten, lineEnd, next)

/-- Takes a block scalar inside a collection that is indented by `parent` columns, or is none. -/
def block (folded : Bool) (parent : Int) : Scan (List Char) := do
  let start ← place
  advance 1
  let (chomping, indentation) ← blockMarks start
  restOfLine .blockScalar start
  let least := max 1 (parent + 1).toNat
  let fuel := (← get).rest.length + 1
  let (indent, breaks) ← do
    match indentation with
    | some n =>
      let indent := least + n - 1
      pure (indent, ← blockBreaks indent fuel)
    | none =>
      let (breaks, widest) ← leadingBreaks fuel 0
      pure (max least widest, breaks)
  let (text, lineEnd, breaks) ←
    if ← atBlockLine indent then blockLines folded indent fuel breaks []
    else pure ([], [], breaks)
  match chomping with
  | .clip => return text ++ lineEnd
  | .keep => return text ++ lineEnd ++ breaks
  | .strip => return text

end ProgramTags.Yaml.Scan
