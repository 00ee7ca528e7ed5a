import ProgramTags.Yaml.Token.Name
import ProgramTags.Yaml.Token.Scalar

/-!
# The tokens of a text

`Tokens.ofText` cuts a text into tokens. Outside brackets the indentation of a line opens and
closes collections. Only the colon after a key shows that it is one, so a token that may begin a
key is remembered, and the colon puts the mark of the key, and of the mapping if it is the first
one, before that token. A key has to be on one line and within 1024 characters.

A text can fail in the middle. The tokens before the failure stand, up to the first one that could
still have become a key.
-/

namespace ProgramTags.Yaml

open Text (Position)

/-- A token that may begin a key. -/
structure PossibleKey where
  /-- How many tokens come before it. -/
  number : Nat
  place : Position
  /-- It stands where only a key can stand. -/
  required : Bool
  deriving DecidableEq, Repr

structure Lexer where
  cursor : Cursor
  /-- The tokens so far, the newest first, and how many they are. -/
  tokens : List Token
  count : Nat
  /-- How many brackets are open. -/
  depth : Nat := 0
  /-- The column of the innermost block collection, and of those around it. -/
  indent : Int := -1
  outer : List Int := []
  /-- A key may begin here. -/
  mayBeKey : Bool := true
  /-- The possible keys by the number of brackets around them. -/
  keys : List (Nat × PossibleKey) := []
  /-- The text has ended. -/
  finished : Bool := false
  deriving DecidableEq, Repr

abbrev Lex := StateT Lexer (Except Error)

namespace Lex

def fail {α : Type} (problem : Problem) (during : Option Activity := none)
    (since : Option Position := none) : Lex α := do
  throw (.malformed ⟨problem, (← get).cursor.place, during, since⟩)

def scan {α : Type} (s : Scan α) : Lex α := fun l =>
  match s l.cursor with
  | .ok (a, cursor) => .ok (a, { l with cursor })
  | .error e => .error e

def emit (kind : TokenKind) (start stop : Position) : Lex Unit :=
  modify fun l => { l with tokens := ⟨kind, start, stop⟩ :: l.tokens, count := l.count + 1 }

/-- Appends a token without extent. -/
def emitHere (kind : TokenKind) : Lex Unit := do
  let place := (← get).cursor.place
  emit kind place place

/-- Puts a token without extent before the token with the given number. -/
def insert (number : Nat) (kind : TokenKind) (place : Position) : Lex Unit :=
  modify fun l =>
    let (later, earlier) := l.tokens.splitAt (l.count - number)
    { l with tokens := later ++ ⟨kind, place, place⟩ :: earlier, count := l.count + 1 }

def emitMark (kind : TokenKind) (n : Nat := 1) : Lex Unit := do
  let start := (← get).cursor.place
  scan (.advance n)
  emit kind start (← get).cursor.place

/-- Takes a token that holds what `s` takes. -/
def emitScanned {α : Type} (s : Scan α) (kind : α → TokenKind) : Lex Unit := do
  let start := (← get).cursor.place
  let a ← scan s
  emit (kind a) start (← get).cursor.place

/-! ## Keys -/

/-- The possible key can be none any more. -/
def isStale (place : Position) (key : PossibleKey) : Bool :=
  key.place.line ≠ place.line || 1024 < place.index - key.place.index

/-- Forgets the possible keys that cannot be keys any more. -/
def dropStale : Lex Unit := do
  let l ← get
  let place := l.cursor.place
  match l.keys.find? fun (_, key) => isStale place key && key.required with
  | some (_, key) => fail .noValueMark Activity.simpleKey key.place
  | none => set { l with keys := l.keys.filter fun (_, key) => !isStale place key }

/-- Forgets the possible key between the innermost brackets. -/
def dropKey : Lex Unit := do
  let l ← get
  match l.keys.lookup l.depth with
  | some key =>
    if key.required then fail .noValueMark Activity.simpleKey key.place
    else set { l with keys := l.keys.filter fun (depth, _) => depth ≠ l.depth }
  | none => return

def saveKey : Lex Unit := do
  if (← get).mayBeKey then
    dropKey
    modify fun l =>
      let place := l.cursor.place
      let required := l.depth = 0 && l.indent = place.column
      { l with keys := (l.depth, ⟨l.count, place, required⟩) :: l.keys }

def allowKey (mayBeKey : Bool) : Lex Unit :=
  modify fun l => { l with mayBeKey }

/-! ## Indentation -/

/-- Closes the block collections that are indented deeper than `column`, which are among
`indent :: outer`. -/
def closeBlocks (column : Int) : (indent : Int) → (outer : List Int) → Lex Unit
  | indent, outer =>
    if column < indent then do
      emitHere .blockEnd
      match outer with
      | [] => modify fun l => { l with indent := -1, outer := [] }
      | next :: rest => closeBlocks column next rest
    else modify fun l => { l with indent, outer }
termination_by _ outer => outer.length

/-- Closes the block collections that are indented deeper than `column`. Between brackets
indentation does not count. -/
def unwind (column : Int) : Lex Unit := do
  let l ← get
  if l.depth = 0 then closeBlocks column l.indent l.outer

/-- Opens a block collection at the column, unless the innermost one is there already or deeper.
Tells whether one was opened. -/
def openBlock (column : Nat) : Lex Bool := do
  let l ← get
  if l.indent < column then
    set { l with indent := column, outer := l.indent :: l.outer }
    return true
  else return false

/-! ## Tokens -/

/-- Forgets what depends on the lines before. -/
def startOver : Lex Unit := do
  unwind (-1)
  dropKey
  allowKey false

def openBracket (kind : TokenKind) : Lex Unit := do
  saveKey
  modify fun l => { l with depth := l.depth + 1 }
  allowKey true
  emitMark kind

def closeBracket (kind : TokenKind) : Lex Unit := do
  dropKey
  modify fun l => { l with depth := l.depth - 1 }
  allowKey false
  emitMark kind

/-- Outside brackets a mark may open a block collection, where a key may begin. -/
def openAtMark (kind : TokenKind) (problem : Problem) : Lex Unit := do
  let l ← get
  if l.depth = 0 then
    unless l.mayBeKey do fail problem
    if ← openBlock l.cursor.place.column then emitHere kind

/-- Takes the dash of an item. -/
def blockEntry : Lex Unit := do
  openAtMark .blockSequenceStart .sequenceNotAllowed
  allowKey true
  dropKey
  emitMark .blockEntry

def explicitKey : Lex Unit := do
  openAtMark .blockMappingStart .keyNotAllowed
  allowKey ((← get).depth = 0)
  dropKey
  emitMark .key

/-- Takes a colon. The possible key before it is a key. -/
def value : Lex Unit := do
  let l ← get
  match l.keys.lookup l.depth with
  | some key =>
    set { l with keys := l.keys.filter fun (depth, _) => depth ≠ l.depth }
    insert key.number .key key.place
    if l.depth = 0 then
      if ← openBlock key.place.column then insert key.number .blockMappingStart key.place
    allowKey false
  | none =>
    openAtMark .blockMappingStart .valueNotAllowed
    allowKey (l.depth = 0)
    dropKey
  emitMark .value

def keyToken {α : Type} (s : Scan α) (kind : α → TokenKind) : Lex Unit := do
  saveKey
  allowKey false
  emitScanned s kind

def plain : Lex Unit := do
  saveKey
  let l ← get
  let start := l.cursor.place
  let (text, newLine) ← scan (.plain (l.depth ≠ 0) (l.indent + 1).toNat)
  allowKey newLine
  emit (.scalar text true) start (← get).cursor.place

def block (folded : Bool) : Lex Unit := do
  allowKey true
  dropKey
  emitScanned (.block folded (← get).indent) fun text => .scalar text false

def finish : Lex Unit := do
  startOver
  modify fun l => { l with keys := [], finished := true }
  emitHere .streamEnd

/-- A plain scalar may begin with `c`, which is followed by `next`. -/
def beginsPlain (flow : Bool) (c next : Char) : Bool :=
  if isGap c || "-?:,[]\x7b\x7d#&*!|>'\"%@`".toList.contains c then
    !isGap next && (c = '-' || (!flow && (c = '?' || c = ':')))
  else true

/-- Skips spaces, comments and line ends. A key may begin on a new line outside brackets. -/
def skipToToken : (fuel : Nat) → Lex Unit
  | 0 => return
  | fuel + 1 => do
    let l ← get
    let cursor := l.cursor.skipSpaces.skipComment
    match cursor.lineBreak? with
    | some (_, next) =>
      set { l with cursor := next, mayBeKey := l.mayBeKey || l.depth = 0 }
      skipToToken fuel
    | none => set { l with cursor }

def token (stand : Nat → Char) : Lex Unit := do
  let l ← get
  let c := l.cursor
  let first := c.peek
  let flow : Bool := l.depth ≠ 0
  let column := c.place.column
  if first = ending then finish
  else if column = 0 && first = '%' then do
    startOver
    emitScanned .directive .directive
  else if column = 0 && c.atMark "---" then do
    startOver
    emitMark .documentStart 3
  else if column = 0 && c.atMark "..." then do
    startOver
    emitMark .documentEnd 3
  else match first with
    | '[' => openBracket .flowSequenceStart
    | '\x7b' => openBracket .flowMappingStart
    | ']' => closeBracket .flowSequenceEnd
    | '\x7d' => closeBracket .flowMappingEnd
    | ',' => do
      allowKey true
      dropKey
      emitMark .flowEntry
    | '*' => keyToken (.anchorName .alias) .alias
    | '&' => keyToken (.anchorName .anchor) .anchor
    | '!' => keyToken .tag .tag
    | '\'' => keyToken (.quoted stand false) fun text => .scalar text false
    | '"' => keyToken (.quoted stand true) fun text => .scalar text false
    | _ =>
      if first = '-' && isGap (c.peek 1) then blockEntry
      else if first = '?' && (flow || isGap (c.peek 1)) then explicitKey
      else if first = ':' && (flow || isGap (c.peek 1)) then value
      else if first = '|' && !flow then block false
      else if first = '>' && !flow then block true
      else if beginsPlain flow first (c.peek 1) then plain
      else fail (.cannotStart first) Activity.nextToken

def step (stand : Nat → Char) : Lex Unit := do
  skipToToken ((← get).cursor.rest.length + 1)
  dropStale
  unwind (← get).cursor.place.column
  token stand
  unless (← get).finished do dropStale

end Lex

/-- The tokens of a text, and the error that they end with if they do not go on to the end. -/
structure Tokens where
  tokens : List Token
  error : Option Error
  deriving DecidableEq, Repr

namespace Tokens

/-- The tokens of a state that cannot become keys any more. -/
def settled (l : Lexer) : List Token :=
  let first := l.keys.foldl (fun n (_, key) => min n key.number) l.count
  l.tokens.reverse.take first

/-- Takes tokens until the text ends. Every step takes a character at least, or ends the text. -/
def takeAll (stand : Nat → Char) : (fuel : Nat) → Lexer → Tokens
  | 0, l => ⟨l.tokens.reverse, none⟩
  | fuel + 1, l =>
    match Lex.step stand l with
    | .ok (_, next) =>
      if next.finished then ⟨next.tokens.reverse, none⟩ else takeAll stand fuel next
    | .error e => ⟨settled l, some e⟩

/-- The tokens of a text. A byte order mark at its beginning is skipped. -/
def ofText (stand : Nat → Char) (text : List Char) : Tokens :=
  let start : Cursor := ⟨{}, text⟩
  let cursor := if start.peek = '\uFEFF' then start.advance 1 else start
  takeAll stand (text.length + 1) { cursor, tokens := [⟨.streamStart, {}, {}⟩], count := 1 }

end Tokens

end ProgramTags.Yaml
