import ProgramTags.Dump
import ProgramTags.FileSystem
import ProgramTags.Json
import ProgramTags.Text.LowerCase
import ProgramTags.Yaml

/-!
# Dump files

A dump is read from a JSON file if its name ends in `.json`, and from a YAML file otherwise. A file
without data is the dump of an empty program.
-/

namespace ProgramTags.Dump

inductive LoadError where
  /-- There is no file. -/
  | notFound (path : String)
  /-- It cannot be found out whether there is a file. -/
  | unknown (e : FileError)
  | unreadable (name : String) (e : FileSystem.ReadError)
  /-- The text is malformed; `detail` says how. -/
  | malformed (name detail : String)
  /-- The stack of the interpreter is used up. -/
  | exhausted (fault : String)
  /-- A number of a JSON text has too many digits. -/
  | number (e : Decimal.LiteralTooLong)
  /-- A scalar of a YAML text has no value. -/
  | scalar (e : Yaml.ScalarError)
  /-- The data is no dump. -/
  | dump (e : Error)
  deriving DecidableEq, Repr

def LoadError.message : LoadError → String
  | .notFound path => s!"Program dump not found: {path}"
  | .unknown e => e.message
  | .unreadable name e => s!"Failed to read {name}: {e.message}"
  | .malformed name detail => s!"Failed to parse {name}: {detail}"
  | .exhausted fault => fault
  | .number e => e.message
  | .scalar e => e.message
  | .dump e => e.message

/-- The name of the file says that it holds JSON. -/
def isJsonFile (p : Path) : Bool :=
  Text.lower p.extension.toList = ".json".toList

/-- The data of a text, in the format that the name of its file says. -/
def readData (p : Path) (text : List Char) (surrogates : Text.Surrogates := .none) :
    Except LoadError Value :=
  if isJsonFile p then
    match Json.read text surrogates with
    | .ok v => .ok v
    | .error (.number e) => .error (.number e)
    | .error e => .error (.malformed p.name (e.message text))
  else
    match Yaml.read text surrogates with
    | .ok v => .ok v
    | .error (.scalar e) => .error (.scalar e)
    | .error e => .error (.malformed p.name (e.message text))

def ofText (p : Path) (text : List Char) (stack : Stack := .unbounded)
    (surrogates : Text.Surrogates := .none) : Except LoadError Program :=
  match stack text with
  | some fault => .error (.exhausted fault)
  | none => do
    let data ← readData p text surrogates
    (program (if data.isNull then .mapping [] else data)).mapError .dump

def load (fs : FileSystem) (p : Path) (stack : Stack := .unbounded)
    (surrogates : Text.Surrogates := .none) : Except LoadError Program := do
  let found ← (fs.doesExist p).mapError .unknown
  if !found then .error (.notFound p.text)
  let text ← (fs.readText p).mapError (.unreadable p.name)
  ofText p text stack surrogates

end ProgramTags.Dump
