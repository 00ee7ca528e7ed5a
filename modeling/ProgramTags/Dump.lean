import ProgramTags.Program
import ProgramTags.Dump.Error
import ProgramTags.Value.Display

/-!
# Dumps

Reads a program from a value. Mappings are read by key, and keys that have no meaning there are
left alone; a list may be missing or null, which is an empty one. Reading stops at the first
fault, in the order in which the parts are read: the body of a method before its name, the
operands of a statement before its tags.
-/

namespace ProgramTags.Dump

abbrev Entries := List (Value × Value)

def mappingAt (loc : Location) (v : Value) : Except Error Entries :=
  match v.entries? with
  | some entries => .ok entries
  | none => .error (.broken loc .notMapping)

/-- The items of the list at `loc`, none if there is only null. -/
def listAt (loc : Location) (v : Value) : Except Error (List Value) :=
  if v.isNull then .ok []
  else match v.items? with
    | some items => .ok items
    | none => .error (.broken loc .notList)

/-- The text under the key, which may not be empty. -/
def textAt (loc : Location) (entries : Entries) (key : String) : Except Error String :=
  match Value.lookup key entries with
  | .text s => if s = "" then .error (.broken loc (.noText key)) else .ok s
  | _ => .error (.broken loc (.noText key))

def intAt (loc : Location) (entries : Entries) (key : String) : Except Error Int :=
  match Value.lookup key entries with
  | .int n => .ok n
  | _ => .error (.broken loc (.noInteger key))

/-- The text of whatever is under the key, empty if there is nothing. -/
def shownAt (entries : Entries) (key : String) : Except Error String :=
  match Value.lookup? key entries with
  | none => .ok ""
  | some v => v.toText.mapError .number

/-- Reads the items of the list under `key` one by one, each with its own location. -/
def each {α : Type} (loc : Location) (key : String) (v : Value)
    (read : Location → Value → Except Error α) : Except Error (List α) := do
  let here := loc ++ [.key key]
  let items ← listAt here v
  items.zipIdx.mapM fun (item, i) => read (here ++ [.index i]) item

/-- The kind of a tag, which is text if it does not say. -/
def kindAt (loc : Location) (entries : Entries) : Except Error TagKind :=
  match Value.lookup? "kind" entries with
  | none => .ok .text
  | some v =>
    let known := match v with
      | .text word => TagKind.ofWord? word
      | _ => none
    match known with
    | some kind => .ok kind
    | none => do
      let shown ← v.toText.mapError Error.number
      .error (.broken loc (.unknownKind shown))

def tag (loc : Location) (v : Value) : Except Error Tag := do
  let entries ← mappingAt loc v
  let kind ← kindAt loc entries
  let analysis ← shownAt entries "analysis_type"
  match kind with
  | .sourceFile => return .sourceFile (← textAt loc entries "source_file")
  | .lineNumber => return .lineNumber (← intAt loc entries "line")
  | .key =>
    let red ← intAt loc entries "red"
    let green ← intAt loc entries "green"
    let blue ← intAt loc entries "blue"
    return .key red green blue (← textAt loc entries "key") analysis
  | .text => return .text (← textAt loc entries "text") analysis

def tags (loc : Location) (entries : Entries) : Except Error (List Tag) :=
  each loc "tags" (Value.lookup "tags" entries) tag

def operand (loc : Location) (v : Value) : Except Error Operand := do
  let entries ← mappingAt loc v
  let value ← shownAt entries "value"
  return { value, tags := ← tags loc entries }

def statement (loc : Location) (v : Value) : Except Error Statement := do
  let entries ← mappingAt loc v
  let operands ← each loc "boxes" (Value.lookup "boxes" entries) operand
  let text ← shownAt entries "text"
  return { text, tags := ← tags loc entries, operands }

/-- Reads the body of a method, which is absent if there is only null. -/
def body (loc : Location) (v : Value) : Except Error Body := do
  if v.isNull then return .absent
  let entries ← mappingAt loc v
  return .active (← each loc "units" (Value.lookup "units" entries) statement)

def method (loc : Location) (v : Value) : Except Error Method := do
  let entries ← mappingAt loc v
  let body ← body (loc ++ [.key "body"]) (Value.lookup "body" entries)
  let name ← textAt loc entries "name"
  return { name, tags := ← tags loc entries, body }

def field (loc : Location) (v : Value) : Except Error Field := do
  let entries ← mappingAt loc v
  let name ← textAt loc entries "name"
  return { name, tags := ← tags loc entries }

def programClass (loc : Location) (v : Value) : Except Error ProgramClass := do
  let entries ← mappingAt loc v
  let name ← textAt loc entries "name"
  let tags ← tags loc entries
  let fields ← each loc "fields" (Value.lookup "fields" entries) field
  let methods ← each loc "methods" (Value.lookup "methods" entries) method
  return { name, tags, fields, methods }

def program (v : Value) : Except Error Program :=
  match v.entries? with
  | none => .error .noRoot
  | some entries => do
    return ⟨← each [] "classes" (Value.lookup "classes" entries) programClass⟩

end ProgramTags.Dump
