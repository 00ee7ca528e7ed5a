import ProgramTags.Dump
import ProgramTags.Export
import ProgramTags.Json
import ProgramTags.Json.Encoding
import ProgramTags.Json.Printer

/-!
# The service

Programs can also be sent in requests. A request is a JSON object with a dump under `program` and
what is to be gathered under `include_bodies` and `include_keys`; `Service.answer` gives the
documents of all classes, empty ones included, or says what is wrong. A request is checked as a
whole before the dump is looked at, and all that is wrong with it is reported together.
-/

namespace ProgramTags.Service

/-! ## Checking requests -/

/-- Where something is wrong with a request. -/
inductive Place where
  | body
  | field (name : String)
  /-- At a character of the text. -/
  | index (i : Nat)
  deriving DecidableEq, Repr

inductive Fault where
  | missing
  /-- The request is no object. -/
  | notObject
  /-- The dump is no object. -/
  | notMapping
  /-- A choice is neither yes nor no, nor a word or a number. -/
  | notChoice
  /-- A choice is a word or a number that means neither yes nor no. -/
  | unclearChoice
  | notJson
  deriving DecidableEq, Repr

def Fault.word : Fault → String
  | .missing => "missing"
  | .notObject => "model_attributes_type"
  | .notMapping => "dict_type"
  | .notChoice => "bool_type"
  | .unclearChoice => "bool_parsing"
  | .notJson => "json_invalid"

def Fault.text : Fault → String
  | .missing => "Field required"
  | .notObject => "Input should be a valid dictionary or object to extract fields from"
  | .notMapping => "Input should be a valid dictionary"
  | .notChoice => "Input should be a valid boolean"
  | .unclearChoice => "Input should be a valid boolean, unable to interpret input"
  | .notJson => "JSON decode error"

structure Issue where
  place : Place
  fault : Fault
  deriving DecidableEq, Repr

/-- A request that is as it should be. -/
structure Request where
  /-- The entries of the dump. -/
  program : List (Value × Value)
  collect : CollectSettings

def ofWord? (word : String) : Option Bool :=
  if word ∈ ["1", "on", "t", "true", "y", "yes"] then some true
  else if word ∈ ["0", "off", "f", "false", "n", "no"] then some false
  else none

/-- A number that is a choice is one or zero. -/
def ofNumber (n : Int) : Except Fault Bool :=
  if n = 0 then .ok false
  else if n = 1 then .ok true
  else if -0x8000000000000000 ≤ n ∧ n < 0x8000000000000000 then .error .unclearChoice
  else .error .notChoice

/-- What a value says where yes or no is wanted. Words may be in upper case. -/
def readChoice : Value → Except Fault Bool
  | .bool b => .ok b
  | .int n => ofNumber n
  | .float x =>
    if x.floor != x || x <= -9223372036854775808.0 || 9223372036854775808.0 <= x then
      .error .notChoice
    else if x == 0.0 then .ok false
    else if x == 1.0 then .ok true
    else .error .unclearChoice
  | .text s =>
    match ofWord? (String.ofList (s.toList.map Char.toLower)) with
    | some b => .ok b
    | none => .error .unclearChoice
  | _ => .error .notChoice

/-- The choice under a name, yes where there is none, and what is wrong with it. -/
def readField (entries : List (Value × Value)) (name : String) : Bool × List Issue :=
  match Value.lookup? name entries with
  | none => (true, [])
  | some v =>
    match readChoice v with
    | .ok b => (b, [])
    | .error fault => (true, [⟨.field name, fault⟩])

/-- The entries of the dump, and what is wrong with it. -/
def readProgram (entries : List (Value × Value)) : List (Value × Value) × List Issue :=
  match Value.lookup? "program" entries with
  | none => ([], [⟨.field "program", .missing⟩])
  | some v =>
    match v.entries? with
    | some dump => (dump, [])
    | none => ([], [⟨.field "program", .notMapping⟩])

/-- The request that a value is, or all that is wrong with it. -/
def Request.ofValue (v : Value) : Except (List Issue) Request :=
  match v.entries? with
  | none => .error [⟨.body, .notObject⟩]
  | some entries =>
    let (program, noProgram) := readProgram entries
    let (includeBodies, noBodies) := readField entries "include_bodies"
    let (keys, noKeys) := readField entries "include_keys"
    match noProgram ++ noBodies ++ noKeys with
    | [] => .ok { program, collect := { includeBodies, keys } }
    | issues => .error issues

/-! ## Reports -/

/-- A field that is left out of reports. -/
def isHidden : Value → Bool
  | .text name => name.startsWith "_sa"
  | _ => false

mutual

def shown : Value → Value
  | .list items => .list (shownItems items)
  | .mapping entries => .mapping (shownEntries entries)
  | v => v

def shownItems : List Value → List Value
  | [] => []
  | v :: rest => shown v :: shownItems rest

def shownEntries : List (Value × Value) → List (Value × Value)
  | [] => []
  | (k, v) :: rest =>
    if isHidden k then shownEntries rest else (k, shown v) :: shownEntries rest

end

/-- The part of a request that an issue is about. What is missing is missing in the whole. -/
def Issue.part (request : Value) (i : Issue) : Value :=
  match i.place, i.fault with
  | .field _, .missing => request
  | .field name, _ => Value.lookup name ((request.entries?).getD [])
  | _, _ => request

/-- The issue can be reported: JSON has what is shown of its part of the request. -/
def Issue.isReportable (request : Value) (i : Issue) : Bool :=
  (Json.print (shown (i.part request))).isSome

/-! ## Answers -/

/-- What nothing is prepared for. -/
inductive Breakdown where
  /-- What is wrong with a request cannot be reported, for a number that JSON does not have. -/
  | unreportable
  /-- A number of the dump has too many digits. -/
  | number (e : Decimal.TooLong)
  /-- A tag, whose own class is named so, reports a key and is none. -/
  | noKey (className : String)
  /-- A document cannot be written. -/
  | document (e : RenderError)
  /-- UTF-8 does not have the answer. -/
  | surrogate (e : Text.SurrogateFault)
  deriving DecidableEq, Repr

def Breakdown.message : Breakdown → String
  | .unreportable => "Out of range float values are not JSON compliant"
  | .number e => e.message
  | .noKey className => (EntryError.noKey className).message
  | .document e => e.message
  | .surrogate e => e.message

structure ClassDocument where
  name : String
  attributes : Nat
  keys : Nat
  xml : String
  deriving DecidableEq, Repr

inductive Answer where
  /-- The service is well. -/
  | healthy
  | documents (classes : List ClassDocument)
  /-- The request is not as it should be. -/
  | invalid (issues : List Issue)
  /-- The text of the request cannot be made sense of. -/
  | unreadable
  /-- The request holds no dump of a program. -/
  | noDump (e : Dump.Error)
  /-- A class cannot be gathered, since the body of a method is not there. -/
  | missingBody (message : String)
  | broken (why : Breakdown)
  deriving DecidableEq, Repr

namespace Answer

def status : Answer → Nat
  | .healthy => 200
  | .documents _ => 200
  | .invalid _ => 422
  | .unreadable => 400
  | .noDump _ => 400
  | .missingBody _ => 422
  | .broken _ => 500

def object (fields : List (String × Value)) : Value :=
  .mapping (fields.map fun (name, v) => (.text name, v))

/-- Where something is wrong, as the way from the request to it. -/
def placeValue : Place → Value
  | .body => .list [.text "body"]
  | .field name => .list [.text "body", .text name]
  | .index i => .list [.text "body", .int i]

def issueValue (i : Issue) : Value :=
  object [("loc", placeValue i.place), ("type", .text i.fault.word)]

def documentValue (d : ClassDocument) : Value :=
  object [("name", .text d.name), ("attributes", .int d.attributes), ("keys", .int d.keys),
    ("xml", .text d.xml)]

def body : Answer → Value
  | .healthy => object [("status", .text "ok")]
  | .documents classes => object [("classes", .list (classes.map documentValue))]
  | .invalid issues => object [("detail", .list (issues.map issueValue))]
  | .unreadable => object [("detail", .text "There was an error parsing the body")]
  | .noDump e => object [("detail", .text e.message)]
  | .missingBody message => object [("detail", .text message)]
  | .broken _ => object [("detail", .text "Internal Server Error")]

end Answer

/-! ## Answering -/

inductive CollectError where
  | missingBody (message : String)
  | noKey (className : String)
  deriving DecidableEq, Repr

/-- The way in which the service gathers classes. -/
abbrev Collector := CollectSettings → ProgramClass → Except CollectError Collection

/-- The way in which classes are gathered everywhere else. -/
def collector : Collector := fun settings c =>
  match Export.collection settings c with
  | .ok found => .ok found
  | .error (.missingBody e) => .error (.missingBody e.message)
  | .error (.noKey className) => .error (.noKey className)

/-- The document of a class, or what the request is answered with instead. -/
def classDocument (collector : Collector) (settings : CollectSettings) (c : ProgramClass) :
    Except Answer ClassDocument :=
  match collector settings c with
  | .error (.missingBody message) => .error (.missingBody message)
  | .error (.noKey className) => .error (.broken (.noKey className))
  | .ok found =>
    match Document.render found with
    | .ok xml => .ok ⟨c.name, found.attributes.length, found.keys.length, xml⟩
    | .error e => .error (.broken (.document e))

def answerRequest (collector : Collector) (r : Request) : Answer :=
  match Dump.program (.mapping r.program) with
  | .error (.number e) => .broken (.number e)
  | .error e => .noDump e
  | .ok p =>
    match p.classes.mapM (classDocument collector r.collect) with
    | .ok documents => .documents documents
    | .error a => a

/-- The report of all that is wrong with a request, with what is shown of it. -/
def report (request : Value) (issues : List Issue) : Value :=
  Answer.object [("detail", .list (issues.map fun i =>
    Answer.object [("type", .text i.fault.word), ("loc", Answer.placeValue i.place),
      ("msg", .text i.fault.text), ("input", shown (i.part request))]))]

/-- The answer, if UTF-8 has what goes out for it. -/
def sent (surrogates : Text.Surrogates) (body : Value) (a : Answer) : Answer :=
  match (Json.print body).bind surrogates.fault? with
  | none => a
  | some e => .broken (.surrogate e)

@[simp] theorem sent_none (body : Value) (a : Answer) : sent .none body a = a := by
  unfold sent
  cases Json.print body with
  | none => rfl
  | some text => rw [Option.bind_some, Text.Surrogates.fault?_none]

def answerValue (collector : Collector) (v : Value) (surrogates : Text.Surrogates := .none) :
    Answer :=
  match Request.ofValue v with
  | .ok r =>
    let a := answerRequest collector r
    sent surrogates a.body a
  | .error issues =>
    if issues.all (·.isReportable v) then sent surrogates (report v issues) (.invalid issues)
    else .broken .unreportable

theorem answerValue_none (collector : Collector) (v : Value) :
    answerValue collector v = match Request.ofValue v with
      | .ok r => answerRequest collector r
      | .error issues =>
        if issues.all (·.isReportable v) then .invalid issues else .broken .unreportable := by
  simp only [answerValue, sent_none]

def answer (collector : Collector) (bytes : List UInt8) (surrogates : Text.Surrogates := .none) :
    Answer :=
  if bytes.isEmpty then .invalid [⟨.body, .missing⟩]
  else match Json.textOf? bytes surrogates with
    | none => .unreadable
    | some text =>
      match Json.read text surrogates with
      | .ok v => answerValue collector v surrogates
      | .error (.malformed _ index) => .invalid [⟨.index index, .notJson⟩]
      | .error (.number _) => .unreadable

end ProgramTags.Service
