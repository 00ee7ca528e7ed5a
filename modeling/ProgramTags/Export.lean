import ProgramTags.Document
import ProgramTags.Session
import ProgramTags.Settings

/-!
# Exports

Each class of a program gets a document in one directory. `Export.documentPath` says which file it
is: the separators of a class name become dots, and a name that does not lead to a file directly in
the directory is refused. `Export.program` writes the documents in the order of the classes and
stops at the first class that fails; documents written before stay.
-/

namespace ProgramTags

inductive ExportError where
  /-- The name of a class cannot be that of a document. -/
  | noDocumentName (name : String)
  /-- The document would not be in the directory itself. -/
  | outside (name directory : String)
  /-- A class cannot be gathered. -/
  | gather (e : GatherError)
  /-- A record cannot be shown. -/
  | record (e : RenderError)
  | file (e : FileError)
  deriving DecidableEq, Repr

def ExportError.message : ExportError → String
  | .noDocumentName name => s!"Class name '{name}' cannot be used as a document name"
  | .outside name directory => s!"Class name '{name}' resolves outside {directory}"
  | .gather e => e.message
  | .record e => e.message
  | .file e => e.message

/-- What has become of a class. -/
structure Outcome where
  className : String
  /-- Where its document is, if it has been written. -/
  path : Option Path
  attributes : Nat
  keys : Nat
  deriving DecidableEq, Repr

def Outcome.written (o : Outcome) : Bool :=
  o.path.isSome

namespace Export

/-! ## Collections of classes -/

def gathering (settings : CollectSettings) (c : ProgramClass) : Gather Unit := do
  Gather.programClass c settings.includeBodies
  if settings.keys then Gather.keyTags c

def collection (settings : CollectSettings) (c : ProgramClass) : Except GatherError Collection :=
  match (gathering settings c).run {} with
  | .ok _ found => .ok found
  | .error e _ => .error e

/-- Goes on gathering from what has been gathered. -/
def gather (start : Collection) (g : Gather Unit) : Work ExportError Collection :=
  match g.run start with
  | .ok _ found => pure found
  | .error e _ => throw (.gather e)

/-- Gathers what the settings ask for from a class, and tells how much it is. -/
def collect (settings : CollectSettings) (c : ProgramClass) : Work ExportError Collection :=
  Work.inClass c.name do
    let found ← gather {} (Gather.programClass c settings.includeBodies)
    Work.tell {
      part := "collector", level := .debug
      text := s!"Collected {found.attributes.length} attribute(s) for class {c.name}" }
    if settings.keys then gather found (Gather.keyTags c) else pure found

def render (settings : CollectSettings) (c : ProgramClass) : Work ExportError String := do
  let found ← collect settings c
  Work.ofExcept .record (Document.render found)

/-! ## Documents in files -/

/-- The characters that separate the parts of a class name. -/
def isSeparator (c : Char) : Bool :=
  c = '/' || c = '\\'

def segments (name : String) : List String :=
  (name.toList.splitOnP isSeparator).map String.ofList

/-- A part of a class name that cannot stand in the name of a document. -/
def isBadSegment (segment : String) : Bool :=
  segment ∈ ["", ".", ".."]

def documentName? (name : String) : Option String :=
  if (segments name).any isBadSegment then none
  else some (".".intercalate (segments name) ++ ".xml")

/-- The file for the document of a class. It is directly in the directory, links followed. -/
def documentPath (fs : FileSystem) (directory : Path) (name : String)
    (surrogates : Text.Surrogates := .none) : Except ExportError Path := do
  match documentName? name with
  | none => .error (.noDocumentName name)
  | some document =>
    let path ← (FileSystem.encodable surrogates (directory.child document)).mapError .file
    let loc ← (fs.resolve path).mapError .file
    let above ← (fs.resolve directory).mapError .file
    if loc.dropLast = above then .ok path else .error (.outside name directory.text)

/-- Writes the document of a collection into a file, from its beginning. If a record cannot be
shown, the file holds the records before it. -/
def writeDocument (path : Path) (found : Collection) (surrogates : Text.Surrogates := .none) :
    Work ExportError Unit := do
  let loc ← Work.onFiles .file (Files.openFile path)
  let (text, fault) := match (Document.write found surrogates).run "" with
    | .ok _ text => (text, none)
    | .error e text => (text, some e)
  Work.onFiles .file (Files.writeAt loc (Text.Utf8.encode text.toList))
  match fault with
  | none => return
  | some e => throw (.record e)

def tell (level : Level) (text : String) : Work ExportError Unit :=
  Work.tell { part := "exporter", level, text }

def programClass (settings : CollectSettings) (skipEmpty : Bool) (directory : Path)
    (c : ProgramClass) (surrogates : Text.Surrogates := .none) : Work ExportError Outcome := do
  let found ← collect settings c
  let outcome : Outcome := ⟨c.name, none, found.attributes.length, found.keys.length⟩
  if found.isEmpty && skipEmpty then
    tell .debug s!"Skipping {c.name}: no tags collected"
    return outcome
  let files := (← get).files
  let path ← Work.ofExcept id (documentPath files directory c.name surrogates)
  Work.onFiles .file (Files.ensureDirectories directory)
  writeDocument path found surrogates
  tell .debug
    s!"Wrote {path.text} ({outcome.attributes} attribute(s), {outcome.keys} key(s))"
  return { outcome with path := some path }

def program (settings : CollectSettings) (skipEmpty : Bool) (directory : Path) (p : Program)
    (surrogates : Text.Surrogates := .none) : Work ExportError (List Outcome) := do
  let outcomes ← p.classes.mapM (programClass settings skipEmpty directory · surrogates)
  let written := outcomes.countP Outcome.written
  tell .info s!"Wrote {written} attribute document(s) to {directory.text}"
  return outcomes

end Export

end ProgramTags
