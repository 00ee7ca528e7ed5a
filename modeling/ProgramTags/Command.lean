import ProgramTags.Command.Invocation
import ProgramTags.Dump.Load
import ProgramTags.Export
import ProgramTags.Settings.Load

/-!
# Commands

`Command.run` does what a command line asks for: the settings are read first, then the journal is
configured, the dump is read, and the documents are written to files or printed. A fault in the
settings, the dump or the documents ends the program with a message; faults of other kinds are not
met with and end it as they are.
-/

namespace ProgramTags.Command

/-- How the run of the server comes to its end. -/
inductive Served where
  | stopped
  /-- The server has ended the program with a code. -/
  | exited (code : Nat)
  | raised (fault : String)

/-- What a command relies on and is not part of it: the server, the stack that the interpreter has
left where the settings and the dump are read, and the characters that stand for lone surrogates in
these. -/
structure Host where
  serve : Address → Served := fun _ => .stopped
  settingsStack : Stack := .unbounded
  dumpStack : Stack := .unbounded
  surrogates : Text.Surrogates := .none

inductive Failure where
  | settings (e : Settings.LoadError)
  /-- The journal cannot be written to its file. -/
  | journal (e : FileError)
  | load (e : Dump.LoadError)
  | documents (e : ExportError)
  /-- There is no class of the name, which may be missing. -/
  | unknownClass (name : Option String)
  /-- A text cannot be printed. -/
  | output (e : Text.SurrogateFault)
  /-- The server has ended the program with a code. -/
  | left (code : Nat)
  | server (fault : String)

inductive Ending where
  /-- Everything is done, and requests to an address, if there is one, have been answered. -/
  | done (address : Option Address)
  /-- The server has ended the program with a code. -/
  | left (code : Nat)
  /-- There was nothing to do. -/
  | halted (why : Halt)
  /-- The command has failed, and has said so. -/
  | failed (e : Failure)
  /-- The command has failed in a way that nothing is prepared for. -/
  | broken (e : Failure)

/-- The number that the program ends with; none if it breaks. -/
def Ending.code? : Ending → Option Nat
  | .done _ => some 0
  | .left code => some code
  | .halted (.help _) => some 0
  | .halted (.usage ..) => some 2
  | .failed _ => some 1
  | .broken _ => none

/-! ## Faults -/

/-- The command, as its faults are reported. -/
def failing (verb : Verb) (message : String) : String :=
  s!"{programName} {verb.word} failed: {message}\n"

def settingsReport? (verb : Verb) (e : Settings.LoadError) : Option String :=
  match e with
  | .malformed .. | .notMapping => some (failing verb e.message)
  | .unknown _ | .unreadable _ | .exhausted _ | .scalar _ | .number _ => none

def loadReport? (verb : Verb) (e : Dump.LoadError) : Option String :=
  match e with
  | .notFound _ => some (e.message ++ "\n")
  | .unreadable .. | .malformed .. => some (failing verb e.message)
  | .dump (.number _) => none
  | .dump _ => some (failing verb e.message)
  | .unknown _ | .exhausted _ | .number _ | .scalar _ => none

def documentsReport? (verb : Verb) (e : ExportError) : Option String :=
  match e with
  | .noDocumentName _ | .outside .. | .gather (.missingBody _) =>
    some (failing verb e.message ++ "Run with --verbose for more details.\n")
  | .gather (.noKey _) | .record _ | .file _ => none

def Failure.report? (verb : Verb) : Failure → Option String
  | .settings e => settingsReport? verb e
  | .journal _ => none
  | .load e => loadReport? verb e
  | .documents e => documentsReport? verb e
  | .unknownClass name =>
    let shown := name.getD "[]"
    some s!"Unknown class: {shown}\n"
  | .output _ | .left _ | .server _ => none

/-! ## Work -/

/-- The path that a text spells, if there is one and it is not empty. -/
def pathGiven? (text : Option String) : Option Path :=
  (text.filter (!·.isEmpty)).map Path.ofText

/-- Where the settings are looked for: where the command line says, or beside the dump. -/
def settingsPath (s : Source) : Path :=
  (pathGiven? s.config).getD (Path.ofText s.program).parent

/-- What is gathered, by the settings and the command line. -/
def collecting (s : Source) (settings : Settings) : CollectSettings :=
  { includeBodies := settings.collect.includeBodies && !s.noBodies
    keys := settings.collect.keys && !s.noKeys }

/-- Reads the settings, configures the journal, and reads the dump. -/
def prepare (host : Host) (i : Invocation) (s : Source) : Work Failure (Settings × Program) := do
  let files := (← get).files
  let settings ← Work.ofExcept .settings
    (Settings.load files (settingsPath s) host.settingsStack host.surrogates)
  let verbose := i.verbose || settings.journal.verbose
  let logFile := (pathGiven? i.logFile).or settings.journal.file
  Work.wrap .journal (Work.configureJournal verbose logFile host.surrogates)
  let files := (← get).files
  let program ← Work.ofExcept .load
    (Dump.load files (Path.ofText s.program) host.dumpStack host.surrogates)
  return (settings, program)

/-- Prints a text, if it holds no lone surrogate. -/
def print (host : Host) (text : String) : Work Failure Unit :=
  match host.surrogates.fault? text with
  | none => Work.print text
  | some e => throw (.output e)

def outcomeLine (workdir : Location) (o : Outcome) : String :=
  match o.path with
  | none => s!"{o.className}: skipped (no tags)\n"
  | some path =>
    let shown := ((path.relativeTo? workdir).getD path).text
    s!"{o.className}: {shown} ({o.attributes} attributes, {o.keys} keys)\n"

def toFiles (host : Host) (i : Invocation) (s : Source) (directory : Option String) :
    Work Failure Unit := do
  let (settings, program) ← prepare host i s
  let directory := (pathGiven? directory).getD settings.output.directory
  let outcomes ← Work.wrap .documents
    (Export.program (collecting s settings) settings.output.skipEmpty directory program
      host.surrogates)
  let workdir := (← get).files.workdir
  outcomes.forM fun o => print host (outcomeLine workdir o)

/-- The classes that are asked for: all, or the first of the given name. -/
def selected (program : Program) : Selection → Except Failure (List ProgramClass)
  | .all => .ok program.classes
  | .unnamed => .error (.unknownClass none)
  | .named name =>
    match program.findClass? name with
    | some c => .ok [c]
    | none => .error (.unknownClass name)

def printClass (host : Host) (settings : CollectSettings) (c : ProgramClass) :
    Work Failure Unit := do
  print host (← Work.wrap .documents (Export.render settings c))

def toOutput (host : Host) (i : Invocation) (s : Source) (classes : Selection) :
    Work Failure Unit := do
  let (settings, program) ← prepare host i s
  let classes ← Work.ofExcept id (selected program classes)
  classes.forM (printClass host (collecting s settings))

def serve (host : Host) (i : Invocation) (address : Address) : Work Failure Unit := do
  Work.wrap .journal (Work.configureJournal i.verbose (pathGiven? i.logFile) host.surrogates)
  match host.serve address with
  | .stopped => return
  | .exited code => throw (.left code)
  | .raised fault => throw (.server fault)

/-- Gives the address of the server if that was the job. -/
def perform (host : Host) (i : Invocation) : Work Failure (Option Address) := do
  match i.job with
  | .toFiles s directory =>
    toFiles host i s directory
    return none
  | .toOutput s classes =>
    toOutput host i s classes
    return none
  | .serve address =>
    serve host i address
    return some address

def say (s : Session) (text : String) : Session :=
  { s with console := s.console ++ text }

def run (host : Host) (args : List String) (s : Session) : Ending × Session :=
  match Invocation.ofArguments args with
  | .error (.help speaker) => (.halted (.help speaker), s)
  | .error (.usage speaker e) =>
    (.halted (.usage speaker e), say s s!"{speaker}: error: {e.message}\n")
  | .ok i =>
    match perform host i s with
    | .ok address after => (.done address, after)
    | .error (.left code) after => (.left code, after)
    | .error e after =>
      match e.report? i.job.verb with
      | some text => (.failed e, say after text)
      | none => (.broken e, after)

end ProgramTags.Command
