import ProgramTags.Record

/-!
# Collections

A `Collection` is what has been gathered so far: attributes and keys, each in the order in which
they were met. Every gathering operation appends to it and changes nothing else. An operation can
fail midway, and what it gathered before the failure stays: `Gather` carries the collection
through a failure.

A class is walked in the order of declaration: its own tags, its fields, then each method with its
body. Within a body every statement gives an attribute, and an operand gives one if it has tags.
-/

namespace ProgramTags

/-- Attributes and keys gathered so far. -/
structure Collection where
  attributes : List Attribute := []
  keys : List Key := []
  deriving DecidableEq, Repr

def Collection.isEmpty (c : Collection) : Bool :=
  c.attributes.isEmpty && c.keys.isEmpty

inductive GatherError where
  /-- A body was asked for and is not there. -/
  | missingBody (e : MissingBody)
  /-- A tag, whose own class is named so, reports a key and has none of a key's parts. -/
  | noKey (className : String)
  deriving DecidableEq, Repr

def GatherError.message : GatherError → String
  | .missingBody e => e.message
  | .noKey className => (EntryError.noKey className).message

/-- A step that adds to a collection and may fail, keeping what it added. -/
abbrev Gather := EStateM GatherError Collection

/-- A source file of a class is implied by the name of its document, so such a tag is left out
there. -/
def Tag.keptAtClassScope (tag : Tag) : Bool :=
  tag.kind ≠ .sourceFile

namespace Gather

def push (a : Attribute) : Gather Unit :=
  modify fun c => { c with attributes := c.attributes ++ [a] }

def pushKey (k : Key) : Gather Unit :=
  modify fun c => { c with keys := c.keys ++ [k] }

/-- Appends an attribute of the given tags, if there are any. -/
def tags (tags : List Tag) : Gather Unit :=
  if tags.isEmpty then pure () else push ⟨tags⟩

def classTags (c : ProgramClass) : Gather Unit :=
  tags (c.tags.filter Tag.keptAtClassScope)

def fieldTags (f : Field) : Gather Unit :=
  tags f.tags

/-- Gathers the tags of a method. An abstract or native method gives nothing. -/
def methodTags (m : Method) : Gather Unit :=
  if m.hasActiveBody then tags m.tags else pure ()

def lastLineMarker? (tags : List Tag) : Option Tag :=
  tags.foldl (fun last tag => if tag.kind = .lineNumber then some tag else last) none

/-- The tags of an operand, each followed by the line marker of its statement. -/
def operandTags (marker : Option Tag) (tags : List Tag) : List Tag :=
  tags.flatMap fun tag => tag :: marker.toList

def operand (marker : Option Tag) (o : Operand) : Gather Unit :=
  if o.tags.isEmpty then pure () else push ⟨operandTags marker o.tags⟩

/-- Gathers a statement, with or without tags, and then its operands. -/
def statement (s : Statement) : Gather Unit := do
  push ⟨s.tags⟩
  s.operands.forM (operand (lastLineMarker? s.tags))

def bodyTags (statements : List Statement) : Gather Unit :=
  statements.forM statement

def activeBody (m : Method) : Gather (List Statement) :=
  match m.activeBody with
  | .ok statements => pure statements
  | .error e => throw (.missingBody e)

def method (includeBodies : Bool) (m : Method) : Gather Unit := do
  methodTags m
  if includeBodies && m.hasActiveBody then
    bodyTags (← activeBody m)

def programClass (c : ProgramClass) (includeBodies : Bool := true) : Gather Unit := do
  classTags c
  c.fields.forM fieldTags
  c.methods.forM (method includeBodies)

def keyTag (tag : Tag) : Gather Unit :=
  if tag.kind = .key then
    match tag.key? with
    | some k => pushKey k
    | none => throw (.noKey tag.className)
  else pure ()

def keyTags (c : ProgramClass) : Gather Unit :=
  c.tags.forM keyTag

end Gather

end ProgramTags
