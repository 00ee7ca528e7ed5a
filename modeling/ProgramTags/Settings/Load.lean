import ProgramTags.FileSystem
import ProgramTags.Settings
import ProgramTags.Text.LowerCase
import ProgramTags.Value.Display
import ProgramTags.Yaml

/-!
# Settings files

A settings file is a YAML mapping of sections, which are mappings themselves. Each setting has a
section and a key of its own, and nothing else in the file has a say in it: a section that is no
mapping, a key that is not known and a value that makes no sense are passed over.
-/

namespace ProgramTags.Settings

def fileName : String := ".tagcollect.yml"

inductive LoadError where
  /-- The text is malformed; `detail` says how. -/
  | malformed (name detail : String)
  /-- The stack of the interpreter is used up. -/
  | exhausted (fault : String)
  /-- The file holds no mapping. -/
  | notMapping
  /-- It cannot be found out which file is meant. -/
  | unknown (e : FileError)
  | unreadable (e : FileSystem.ReadError)
  /-- A scalar has no value. -/
  | scalar (e : Yaml.ScalarError)
  /-- A number that is wanted as a path has too many digits. -/
  | number (e : Decimal.TooLong)

def LoadError.message : LoadError → String
  | .malformed name detail => s!"Failed to parse {name}: {detail}"
  | .exhausted fault => fault
  | .notMapping => s!"{fileName} must contain a mapping at the root"
  | .unknown e => e.message
  | .unreadable e => e.message
  | .scalar e => e.message
  | .number e => e.message

/-! ## Values -/

def valueAt (entries : List (Value × Value)) (section_ key : String) : Value :=
  match (Value.lookup section_ entries).entries? with
  | some inside => Value.lookup key inside
  | none => .null

def ofWord? (word : String) : Option Bool :=
  if word ∈ ["true", "yes", "1"] then some true
  else if word ∈ ["false", "no", "0"] then some false
  else none

/-- What a value says where yes or no is wanted. Words may be in upper case and have white space
around them. -/
def choice? : Value → Option Bool
  | .bool b => some b
  | .text s => ofWord? (String.ofList (Text.lower (Text.trimBlank s.toList)))
  | _ => none

/-- What a value says where a path is wanted: a text that is not empty, or a number. -/
def path? : Value → Except Decimal.TooLong (Option Path)
  | .text s => .ok (if s.isEmpty then none else some (.ofText s))
  | .int n => do return some (.ofText (← Decimal.text n))
  | .float x => .ok (some (.ofText (Decimal.floatText x)))
  | _ => .ok none

def ofSections (root : Path) (entries : List (Value × Value)) :
    Except Decimal.TooLong Settings := do
  let standard := Settings.standard root
  let choice (section_ key : String) (default : Bool) : Bool :=
    (choice? (valueAt entries section_ key)).getD default
  let directory ← path? (valueAt entries "output" "directory")
  let file ← path? (valueAt entries "logging" "file")
  return {
    root
    collect := {
      includeBodies := choice "collect" "include_bodies" standard.collect.includeBodies
      keys := choice "collect" "keys" standard.collect.keys }
    output := {
      directory := (directory.map root.join).getD standard.output.directory
      skipEmpty := choice "output" "skip_empty" standard.output.skipEmpty }
    journal := {
      verbose := choice "logging" "verbose" standard.journal.verbose
      file := file.map root.join } }

/-! ## Files -/

/-- The value of a file's text. A text of white space has none. -/
def readValue (name : String) (text : List Char) (stack : Stack := .unbounded)
    (surrogates : Text.Surrogates := .none) : Except LoadError Value :=
  if text.all Text.isBlank then .ok .null
  else match stack text with
    | some fault => .error (.exhausted fault)
    | none =>
      match Yaml.read text surrogates with
      | .ok v => .ok v
      | .error (.scalar e) => .error (.scalar e)
      | .error e => .error (.malformed name (e.message text))

def ofText (root : Path) (name : String) (text : List Char) (stack : Stack := .unbounded)
    (surrogates : Text.Surrogates := .none) : Except LoadError Settings := do
  let data ← readValue name text stack surrogates
  let data := if data.isNull then .mapping [] else data
  match data.entries? with
  | some entries => (ofSections root entries).mapError .number
  | none => .error .notMapping

/-- The settings file that a path means: the file itself, or the one in a directory. -/
def locate (fs : FileSystem) (p : Path) (surrogates : Text.Surrogates := .none) :
    Except FileError Location := do
  let p ← FileSystem.encodable surrogates (← fs.expandHome p)
  let inside ← fs.isDirectory p
  fs.resolve (if inside then p.child fileName else p)

/-- The settings that a path means. If there is no file, nothing has been chosen. -/
def load (fs : FileSystem) (p : Path) (stack : Stack := .unbounded)
    (surrogates : Text.Surrogates := .none) : Except LoadError Settings := do
  let loc ← (locate fs p surrogates).mapError .unknown
  let file := Path.ofLocation loc
  let found ← (fs.doesExist file).mapError .unknown
  if !found then return Settings.standard file.parent
  let text ← (fs.readText file).mapError .unreadable
  ofText file.parent file.name text stack surrogates

end ProgramTags.Settings
