import ProgramTags.Collection
import ProgramTags.Decimal.Limit
import ProgramTags.Text.Surrogates

/-!
# Documents

The XML document of a class: the declaration, then one element for each attribute that has
something to show and one for each key. `Document.write` appends to a text record by record, so
that a record that cannot be shown leaves the records before it written; `Document.render` gives
the whole text or the error.
-/

namespace ProgramTags

inductive RenderError where
  /-- A tag has no entry. -/
  | entry (e : EntryError)
  /-- A number has too many digits. -/
  | number (e : Decimal.TooLong)
  /-- UTF-8 does not have the text. -/
  | surrogate (e : Text.SurrogateFault)
  deriving DecidableEq, Repr

def RenderError.message : RenderError → String
  | .entry e => e.message
  | .number e => e.message
  | .surrogate e => e.message

namespace Document

/-- A character as it stands in the value of an XML attribute between double quotes. -/
def escapeChar : Char → List Char
  | '&' => "&amp;".toList
  | '<' => "&lt;".toList
  | '>' => "&gt;".toList
  | '"' => "&#34;".toList
  | '\'' => "&#39;".toList
  | c => [c]

def escape (s : String) : String :=
  String.ofList (s.toList.flatMap escapeChar)

/-- A number as it stands in the value of an XML attribute. -/
def number (n : Int) : Except RenderError String :=
  (Decimal.text n).mapError .number

def entryElement (e : TagEntry) : String :=
  s!"<textAttribute info=\"{escape e.info}\" aType=\"{escape e.analysis}\"/>\n"

/-- The element of an attribute; nothing if all its tags are line markers. -/
def attributeElement (a : Attribute) : Except RenderError String := do
  let entries ← a.entries.mapError .entry
  if entries.isEmpty then return ""
  let first ← number a.lineSpan.1
  let last ← number a.lineSpan.2
  return s!"<attribute>\n<jmpPos sline=\"{first}\" eline=\"{last}\"/>\n" ++
    String.join (entries.map entryElement) ++ "</attribute>\n"

def keyElement (k : Key) : Except RenderError String := do
  let red ← number k.red
  let green ← number k.green
  let blue ← number k.blue
  return s!"<key red=\"{red}\" green=\"{green}\" blue=\"{blue}\" key=\"{escape k.key}\" " ++
    s!"aType=\"{escape k.analysis}\"/>\n"

def opening : String :=
  "<?xml version=\"1.0\" encoding=\"UTF-8\"?>\n<attributes>\n"

def closing : String :=
  "</attributes>\n"

/-- A step that appends to a text and may fail, keeping what it appended. -/
abbrev Writer := EStateM RenderError String

/-- Appends a text, if it holds no lone surrogate. -/
def put (s : String) (surrogates : Text.Surrogates := .none) : Writer Unit :=
  match surrogates.fault? s with
  | none => modify (· ++ s)
  | some e => throw (.surrogate e)

theorem put_none (s : String) : put s = modify (· ++ s) := by
  rw [put, Text.Surrogates.fault?_none]

/-- Appends a whole element or, if it cannot be shown, nothing. -/
def putElement (element : Except RenderError String) (surrogates : Text.Surrogates := .none) :
    Writer Unit :=
  match element with
  | .ok s => put s surrogates
  | .error e => throw e

def writeAttributes (attributes : List Attribute) (surrogates : Text.Surrogates := .none) :
    Writer Unit :=
  attributes.forM fun a => putElement (attributeElement a) surrogates

def writeKeys (keys : List Key) (surrogates : Text.Surrogates := .none) : Writer Unit :=
  keys.forM fun k => putElement (keyElement k) surrogates

/-- Appends the document of a collection. If lone surrogates are none, every text is as good as
any other; what is written for a file says which they are. -/
def write (c : Collection) (surrogates : Text.Surrogates := .none) : Writer Unit := do
  put opening surrogates
  writeAttributes c.attributes surrogates
  writeKeys c.keys surrogates
  put closing surrogates

/-- The text that the writer produces from nothing, or its error. -/
def textOf (w : Writer Unit) : Except RenderError String :=
  match w.run "" with
  | .ok _ s => .ok s
  | .error e _ => .error e

def render (c : Collection) : Except RenderError String :=
  textOf (write c)

end Document

end ProgramTags
