import ProgramTags.Yaml.Implicit
import ProgramTags.Yaml.Node
import ProgramTags.Yaml.Token.Stream

/-!
# The document of a text

`Document.ofTokens?` puts tokens together to the graph of nodes that they describe. Every node has
a tag in the end: the one that is written, or the one that its text or its shape implies. A text
holds at most one document.
-/

namespace ProgramTags.Yaml

open Text (Position)

/-- A graph of nodes and the number of its root. -/
structure Document where
  nodes : Graph
  root : Nat
  deriving DecidableEq, Repr

structure Assembly where
  /-- The tokens that are left, and the error after the last of them. -/
  tokens : List Token
  error : Option Error
  nodes : Graph := #[]
  /-- The nodes that have been given names. -/
  anchors : List (String × Nat) := []
  handles : List (String × String) := TypeTag.handles
  deriving DecidableEq, Repr

abbrev Assemble := StateT Assembly (Except Error)

namespace Assemble

def failAt {α : Type} (place : Position) (problem : Problem) (during : Option Activity := none)
    (since : Option Position := none) : Assemble α :=
  throw (.malformed ⟨problem, place, during, since⟩)

/-- The next token. A text that has ended goes on ending. -/
def peek : Assemble Token := do
  let a ← get
  match a.tokens, a.error with
  | t :: _, _ => return t
  | [], some e => throw e
  | [], none => return ⟨.streamEnd, {}, {}⟩

def skip : Assemble Unit :=
  modify fun a => { a with tokens := a.tokens.tail }

def isAt (kinds : List TokenKind) : Assemble Bool :=
  return kinds.contains (← peek).kind

/-! ## Nodes -/

/-- What stands before the content of a node. -/
structure Properties where
  anchor : Option String := none
  tag : Option String := none
  start : Option Position := none
  deriving DecidableEq, Repr

def anchor? : Assemble (Option (String × Position)) := do
  let t ← peek
  match t.kind with
  | .anchor name =>
    skip
    return some (name, t.start)
  | _ => return none

def tag? : Assemble (Option (TagName × Position)) := do
  let t ← peek
  match t.kind with
  | .tag name =>
    skip
    return some (name, t.start)
  | _ => return none

/-- The whole of a tag. -/
def resolve (start place : Position) (name : TagName) : Assemble String := do
  match name.handle with
  | none => return name.rest
  | some handle =>
    match (← get).handles.lookup handle with
    | some begins => return begins ++ name.rest
    | none => failAt place (.unknownHandle handle) Activity.node start

/-- Takes an anchor and a tag, in any order and each if it is there. -/
def properties : Assemble Properties := do
  let first ← anchor?
  let tag ← tag?
  let second ← if first.isNone && tag.isSome then anchor? else pure none
  let anchor := first.orElse fun _ => second
  let start := (first.map (·.2)).orElse fun _ => tag.map (·.2)
  let full ← tag.mapM fun (name, place) => resolve (start.getD place) place name
  return { anchor := anchor.map (·.1), tag := full, start }

/-- Adds a node. A name can be given once. -/
def add (anchor : Option String) (n : Node) : Assemble Nat := do
  let a ← get
  match anchor.bind fun name => (a.anchors.lookup name).map (name, ·) with
  | some (name, id) =>
    failAt n.start .secondAnchor (Activity.firstAnchor name) (a.nodes.node id).start
  | none =>
    let id := a.nodes.size
    set { a with
      nodes := a.nodes.push n
      anchors := (anchor.map (·, id)).toList ++ a.anchors }
    return id

/-- A tag that says nothing. -/
def isUntold (tag : Option String) : Bool :=
  tag.isNone || tag = some "!"

/-- Adds a collection, which is empty at first. -/
def addCollection (p : Properties) (start : Position) (type : String) (content : Content) :
    Assemble Nat :=
  let tag := if isUntold p.tag then TypeTag.ofType type else p.tag.getD ""
  add p.anchor ⟨tag, start, content⟩

/-- Adds a scalar. A text that is not plain implies no type, unless a lone exclamation mark asks
for it. -/
def addScalar (p : Properties) (start : Position) (text : List Char) (plain : Bool) :
    Assemble Nat :=
  let tag :=
    if p.tag = some "!" || (p.tag.isNone && plain) then TypeTag.ofType (Implicit.implicitType text)
    else p.tag.getD (TypeTag.ofType "str")
  add p.anchor ⟨tag, start, .scalar text⟩

/-- Adds a scalar that is not there. -/
def addEmpty (place : Position) : Assemble Nat :=
  addScalar {} place [] true

def fill (id : Nat) (content : Content) : Assemble Unit :=
  modify fun a => { a with nodes := a.nodes.modify id ({ · with content }) }

mutual

/-- Takes a node. Block collections may begin if `block`, and so may a sequence that is not
indented if `flush`. -/
def node : (fuel : Nat) → (block flush : Bool) → Assemble Nat
  | 0, _, _ => do failAt (← peek).start .endless
  | fuel + 1, block, flush => do
    let t ← peek
    match t.kind with
    | .alias name =>
      skip
      match (← get).anchors.lookup name with
      | some id => return id
      | none => failAt t.start (.unknownAlias name)
    | _ =>
      let p ← properties
      let t ← peek
      let start := p.start.getD t.start
      match t.kind, block with
      | .scalar text plain, _ =>
        skip
        addScalar p start text plain
      | .flowSequenceStart, _ =>
        let id ← addCollection p start "seq" (.sequence [])
        skip
        fill id (.sequence (← flowItems fuel t.start true []))
        return id
      | .flowMappingStart, _ =>
        let id ← addCollection p start "map" (.mapping [])
        skip
        fill id (.mapping (← flowEntries fuel t.start true []))
        return id
      | .blockSequenceStart, true =>
        let id ← addCollection p start "seq" (.sequence [])
        skip
        fill id (.sequence (← blockItems fuel t.start []))
        return id
      | .blockMappingStart, true =>
        let id ← addCollection p start "map" (.mapping [])
        skip
        fill id (.mapping (← blockEntries fuel t.start []))
        return id
      | kind, _ =>
        if kind = .blockEntry && flush then
          let id ← addCollection p start "seq" (.sequence [])
          fill id (.sequence (← flushItems fuel []))
          return id
        else if p.anchor.isSome || p.tag.isSome then addScalar p start [] (isUntold p.tag)
        else
          let during := if block then Activity.blockNode else Activity.flowNode
          failAt t.start (.noContent kind.name) during start

/-- Takes a node, unless the next token is one of `ends`: then there is an empty scalar at
`place`. -/
def nodeUnless : (fuel : Nat) → (ends : List TokenKind) → (place : Position) →
    (block flush : Bool) → Assemble Nat
  | 0, _, place, _, _ => failAt place .endless
  | fuel + 1, ends, place, block, flush => do
    if ← isAt ends then addEmpty place else node fuel block flush

/-- Takes the value after a key, if there is a colon. -/
def valueUnless : (fuel : Nat) → (ends : List TokenKind) → (block : Bool) → Assemble Nat
  | 0, _, _ => do failAt (← peek).start .endless
  | fuel + 1, ends, block => do
    let t ← peek
    if t.kind = .value then
      skip
      nodeUnless fuel ends t.stop block block
    else addEmpty t.start

def blockItems : (fuel : Nat) → (start : Position) → (read : List Nat) → Assemble (List Nat)
  | 0, start, _ => failAt start .endless
  | fuel + 1, start, read => do
    let t ← peek
    match t.kind with
    | .blockEntry =>
      skip
      let item ← nodeUnless fuel [.blockEntry, .blockEnd] t.stop true false
      blockItems fuel start (item :: read)
    | .blockEnd =>
      skip
      return read.reverse
    | kind => failAt t.start (.noBlockEnd kind.name) Activity.blockCollection start

def flushItems : (fuel : Nat) → (read : List Nat) → Assemble (List Nat)
  | 0, _ => do failAt (← peek).start .endless
  | fuel + 1, read => do
    let t ← peek
    if t.kind = .blockEntry then
      skip
      let item ← nodeUnless fuel [.blockEntry, .key, .value, .blockEnd] t.stop true false
      flushItems fuel (item :: read)
    else return read.reverse

def blockEntries : (fuel : Nat) → (start : Position) → (read : List (Nat × Nat)) →
    Assemble (List (Nat × Nat))
  | 0, start, _ => failAt start .endless
  | fuel + 1, start, read => do
    let t ← peek
    match t.kind with
    | .key =>
      skip
      let key ← nodeUnless fuel [.key, .value, .blockEnd] t.stop true true
      let value ← valueUnless fuel [.key, .value, .blockEnd] true
      blockEntries fuel start ((key, value) :: read)
    | .blockEnd =>
      skip
      return read.reverse
    | kind => failAt t.start (.noBlockEnd kind.name) Activity.blockMapping start

/-- Takes the items of a sequence in brackets that began at `start`. A question mark or a colon
makes a mapping of one entry. -/
def flowItems : (fuel : Nat) → (start : Position) → (first : Bool) → (read : List Nat) →
    Assemble (List Nat)
  | 0, start, _, _ => failAt start .endless
  | fuel + 1, start, first, read => do
    let t ← peek
    if t.kind = .flowSequenceEnd then
      skip
      return read.reverse
    unless first do
      if t.kind = .flowEntry then skip
      else failAt t.start (.noSequenceEnd t.kind.name) Activity.flowSequence start
    let t ← peek
    match t.kind with
    | .flowSequenceEnd =>
      skip
      return read.reverse
    | .key =>
      let id ← addCollection {} t.start "map" (.mapping [])
      skip
      let key ← nodeUnless fuel [.value, .flowEntry, .flowSequenceEnd] t.stop false false
      let value ← valueUnless fuel [.flowEntry, .flowSequenceEnd] false
      fill id (.mapping [(key, value)])
      flowItems fuel start false (id :: read)
    | _ =>
      let item ← node fuel false false
      flowItems fuel start false (item :: read)

def flowEntries : (fuel : Nat) → (start : Position) → (first : Bool) →
    (read : List (Nat × Nat)) → Assemble (List (Nat × Nat))
  | 0, start, _, _ => failAt start .endless
  | fuel + 1, start, first, read => do
    let t ← peek
    if t.kind = .flowMappingEnd then
      skip
      return read.reverse
    unless first do
      if t.kind = .flowEntry then skip
      else failAt t.start (.noMappingEnd t.kind.name) Activity.flowMapping start
    let t ← peek
    match t.kind with
    | .flowMappingEnd =>
      skip
      return read.reverse
    | .key =>
      skip
      let key ← nodeUnless fuel [.value, .flowEntry, .flowMappingEnd] t.stop false false
      let value ← valueUnless fuel [.flowEntry, .flowMappingEnd] false
      flowEntries fuel start false ((key, value) :: read)
    | _ =>
      let key ← node fuel false false
      let value ← addEmpty (← peek).start
      flowEntries fuel start false ((key, value) :: read)

end

/-! ## Documents -/

/-- Takes the directives before a document, at most `fuel` of them. -/
def directives : (fuel : Nat) → (version : Bool) → (handles : List (String × String)) →
    Assemble Unit
  | 0, _, _ => return
  | fuel + 1, version, handles => do
    let t ← peek
    match t.kind with
    | .directive (.version major _) =>
      skip
      if version then failAt t.start .repeatedVersion
      else if major ≠ 1 then failAt t.start .unsupportedVersion
      else directives fuel true handles
    | .directive (.handle name begins) =>
      skip
      if (handles.lookup name).isSome then failAt t.start (.repeatedHandle name)
      else directives fuel version ((name, begins) :: handles)
    | .directive .other =>
      skip
      directives fuel version handles
    | _ => modify fun a => { a with handles := handles ++ TypeTag.handles }

def skipDocumentEnds : Assemble Unit :=
  modify fun a => { a with tokens := a.tokens.dropWhile (·.kind = .documentEnd) }

/-- Takes what is before the content of a document, and gives the place where that begins; nothing
if the text has ended. -/
def documentStart? : Assemble (Option Position) := do
  skipDocumentEnds
  let first ← peek
  if first.kind = .streamEnd then return none
  directives (← get).tokens.length false []
  let t ← peek
  unless t.kind = .documentStart do failAt t.start (.noDocumentStart t.kind.name)
  skip
  return some first.start

/-- The greatest number of calls within calls that taking a node can need: of three of them, one
takes a token. -/
def fuel : Assemble Nat :=
  return 3 * (← get).tokens.length + 3

def firstDocument? : Assemble (Option Nat) := do
  skip
  let t ← peek
  match t.kind with
  | .directive _ | .documentStart | .streamEnd =>
    if (← documentStart?).isNone then return none
    let t ← peek
    match t.kind with
    | .directive _ | .documentStart | .documentEnd | .streamEnd => addEmpty t.start
    | _ => node (← fuel) true false
  | _ => node (← fuel) true false

def document? : Assemble (Option Document) := do
  match ← firstDocument? with
  | none => return none
  | some root =>
    let _ ← peek
    match ← documentStart? with
    | some place =>
      let start := ((← get).nodes.node root).start
      failAt place .secondDocument Activity.document start
    | none => return some ⟨(← get).nodes, root⟩

end Assemble

/-- The document that tokens describe; nothing if there is none. -/
def Document.ofTokens? (t : Tokens) : Except Error (Option Document) :=
  (Assemble.document?.run { tokens := t.tokens, error := t.error }).map (·.1)

def isTextChar (c : Char) : Bool :=
  let n := c.toNat
  n = 9 || n = 10 || n = 13 || (0x20 ≤ n && n ≤ 0x7E) || n = 0x85 || (0xA0 ≤ n && n ≤ 0xD7FF) ||
    (0xE000 ≤ n && n ≤ 0xFFFD) || 0x10000 ≤ n

def Document.ofText? (stand : Nat → Char) (text : List Char) : Except Error (Option Document) :=
  match text.dropWhile isTextChar with
  | c :: rest => .error (.unprintable c (text.length - rest.length - 1))
  | [] => ofTokens? (Tokens.ofText stand text)

end ProgramTags.Yaml
