import ProgramTags.Text.Quoted

/-!
# Tags

A `Tag` is an immutable note that an analysis or a compiler left on an element of a program. Its
`kind` is what it says it is; `Tag.entry` is what is shown for it. Two sorts of tag do not come
from dumps: a bare tag has no content, and a foreign tag belongs to a class that is not known here.
A foreign tag may report a kind whose parts it does not have, or have parts that it does not report.
-/

namespace ProgramTags

inductive TagKind where
  | sourceFile
  | lineNumber
  | key
  | text
  deriving DecidableEq, Repr

/-- Every kind, in the order in which they are listed to a reader. -/
def TagKind.all : List TagKind :=
  [.sourceFile, .lineNumber, .key, .text]

/-- The word that stands for the kind in a dump. -/
def TagKind.word : TagKind → String
  | .sourceFile => "source_file"
  | .lineNumber => "line_number"
  | .key => "key"
  | .text => "text"

def TagKind.ofWord? (word : String) : Option TagKind :=
  TagKind.all.find? (·.word = word)

/-- What the tags of dumps are made of. -/
inductive TagParts where
  /-- The source file a class was compiled from. -/
  | sourceFile (file : String)
  /-- The line of the listing a statement was printed on. -/
  | lineNumber (line : Int)
  /-- An entry of a colour legend. -/
  | key (red green blue : Int) (label analysis : String)
  /-- The result of an analysis in words. -/
  | text (content analysis : String)
  deriving DecidableEq, Repr

/-- A tag of a class that is not known here. If the class is derived from one that is, the tag has
the parts of that, whatever kind it reports. -/
structure ForeignTag where
  className : String
  reported : TagKind
  /-- The tag as it displays itself. -/
  shown : String
  parts? : Option TagParts := none
  deriving DecidableEq, Repr

/-- A note on an element of a program. -/
inductive Tag where
  | sourceFile (file : String)
  | lineNumber (line : Int)
  | key (red green blue : Int) (label analysis : String)
  | text (content analysis : String)
  /-- A tag without content. -/
  | bare
  | foreign (tag : ForeignTag)
  deriving DecidableEq, Repr

namespace Tag

def kind : Tag → TagKind
  | .sourceFile _ => .sourceFile
  | .lineNumber _ => .lineNumber
  | .key .. => .key
  | .text .. => .text
  | .bare => .text
  | .foreign tag => tag.reported

def className : Tag → String
  | .sourceFile _ => "SourceFileTag"
  | .lineNumber _ => "LineNumberTag"
  | .key .. => "KeyTag"
  | .text .. => "TextTag"
  | .bare => "Tag"
  | .foreign tag => tag.className

/-- What the tag is made of, if it is something that tags of dumps are made of. -/
def parts? : Tag → Option TagParts
  | .sourceFile file => some (.sourceFile file)
  | .lineNumber line => some (.lineNumber line)
  | .key red green blue label analysis => some (.key red green blue label analysis)
  | .text content analysis => some (.text content analysis)
  | .bare => none
  | .foreign tag => tag.parts?

def line? (tag : Tag) : Option Int :=
  match tag.parts? with
  | some (.lineNumber line) => some line
  | _ => none

theorem line?_eq_some {tag : Tag} {line : Int} (h : tag.line? = some line) :
    tag.parts? = some (.lineNumber line) := by
  unfold line? at h
  split at h
  · rename_i hparts
    cases h
    exact hparts
  · cases h

/-- The tag with the names and values of its parts. -/
def display : Tag → String
  | .sourceFile file => s!"SourceFileTag(source_file={Text.quoted file})"
  | .lineNumber line => s!"LineNumberTag(line={line})"
  | .key red green blue label analysis =>
    s!"KeyTag(red={red}, green={green}, blue={blue}, key={Text.quoted label}, " ++
      s!"analysis_type={Text.quoted analysis})"
  | .text content analysis =>
    s!"TextTag(text={Text.quoted content}, analysis_type={Text.quoted analysis})"
  | .bare => "Tag()"
  | .foreign tag => tag.shown

end Tag

/-- What is shown for a tag: its text and the analysis it comes from. -/
structure TagEntry where
  info : String
  analysis : String
  deriving DecidableEq, Repr

inductive EntryError where
  /-- A tag of the class reports a source file and has none. -/
  | noSourceFile (className : String)
  /-- A tag of the class reports a key and has none of a key's parts. -/
  | noKey (className : String)
  /-- The tag marks a line, which is shown as a position. -/
  | lineMarker
  deriving DecidableEq, Repr

def EntryError.message : EntryError → String
  | .noSourceFile className =>
    s!"{className} reports a source-file kind without a source file"
  | .noKey className => s!"{className} reports a colour-key kind without key fields"
  | .lineMarker => "Line number tags are rendered as a position, not text"

/-- The entry of a tag that is not a line marker. The kind that the tag reports says which parts are
looked for. -/
def Tag.entry (tag : Tag) : Except EntryError TagEntry :=
  match tag.kind, tag.parts? with
  | .sourceFile, some (.sourceFile file) => .ok ⟨"SourceFile: " ++ file, ""⟩
  | .sourceFile, _ => .error (.noSourceFile tag.className)
  | .key, some (.key _ _ _ label analysis) => .ok ⟨"Key: " ++ label, analysis⟩
  | .key, _ => .error (.noKey tag.className)
  | .lineNumber, _ => .error .lineMarker
  | .text, some (.text content analysis) => .ok ⟨content, analysis⟩
  | .text, _ => .ok ⟨tag.display, ""⟩

end ProgramTags
