import ProgramTags.Decimal.Numeral
import ProgramTags.Journal
import ProgramTags.Text.Quoted

/-!
# The grammar of the command line

A `Switch` is an option, with the names it goes by. A `Grammar` lists the switches that are known
at a place of the command line and says what may stand there besides them. The program has one
grammar for what comes before the command, and each `Verb` has one for what comes after it.
-/

namespace ProgramTags.Command

inductive Switch where
  | help
  | verbose
  | logFile
  | noBodies
  | noKeys
  | config
  | outputDirectory
  | className
  | host
  | portNumber
  deriving DecidableEq, Repr

namespace Switch

/-- The names of a switch, a single letter first. -/
def names : Switch → List String
  | .help => ["-h", "--help"]
  | .verbose => ["-v", "--verbose"]
  | .logFile => ["--log-file"]
  | .noBodies => ["--no-bodies"]
  | .noKeys => ["--no-keys"]
  | .config => ["--config"]
  | .outputDirectory => ["--output-dir"]
  | .className => ["--class"]
  | .host => ["--host"]
  | .portNumber => ["--port"]

def takesValue : Switch → Bool
  | .help | .verbose | .noBodies | .noKeys => false
  | .logFile | .config | .outputDirectory | .className | .host | .portNumber => true

/-- The switch as faults show it, with all its names. -/
def shown (s : Switch) : String :=
  "/".intercalate s.names

end Switch

/-- What stands on a command line besides switches. -/
inductive Positional where
  /-- The command; everything after it belongs to it. -/
  | command
  /-- The dump to read. -/
  | program
  deriving DecidableEq, Repr

def Positional.word : Positional → String
  | .command => "command"
  | .program => "program"

/-- What is known at a place of the command line. -/
structure Grammar where
  /-- Who reports faults. -/
  speaker : String
  switches : List Switch
  positional : Option Positional
  /-- The flags that are down unless they are given. Other flags have no default here. -/
  lowered : List Switch
  deriving DecidableEq, Repr

namespace Grammar

/-- All names of switches, in order. -/
def names (g : Grammar) : List (Switch × String) :=
  g.switches.flatMap fun s => s.names.map fun name => (s, name)

def switch? (g : Grammar) (name : String) : Option Switch :=
  (g.names.find? fun entry => entry.2 = name).map (·.1)

end Grammar

inductive Verb where
  /-- Write documents to files. -/
  | toFiles
  /-- Print documents. -/
  | toOutput
  /-- Answer requests. -/
  | serve
  deriving DecidableEq, Repr

namespace Verb

def word : Verb → String
  | .toFiles => "export"
  | .toOutput => "print"
  | .serve => "serve"

def all : List Verb := [.toFiles, .toOutput, .serve]

def ofWord? (s : String) : Option Verb :=
  all.find? (·.word = s)

def grammar (v : Verb) : Grammar :=
  let collecting : List Switch := [.help, .verbose, .noBodies, .noKeys, .config]
  let speaker := programName ++ " " ++ v.word
  let lowered := [.noBodies, .noKeys]
  match v with
  | .toFiles => ⟨speaker, collecting ++ [.outputDirectory], some .program, lowered⟩
  | .toOutput => ⟨speaker, collecting ++ [.className], some .program, lowered⟩
  | .serve => ⟨speaker, [.help, .verbose, .host, .portNumber], none, []⟩

theorem ofWord?_word (v : Verb) : ofWord? v.word = some v := by
  cases v <;> decide

end Verb

def mainGrammar : Grammar :=
  ⟨programName, [.help, .verbose, .logFile], some .command, [.verbose]⟩

inductive UsageError where
  /-- A word is the beginning of several names. -/
  | ambiguous (word : String) (names : List String)
  | noValue (s : Switch)
  /-- A value is given to a switch that takes none. -/
  | unwantedValue (s : Switch) (value : String)
  | notInteger (s : Switch) (value : String)
  | unknownVerb (word : String)
  | missing (p : Positional)
  /-- There is nothing that these words are for. -/
  | leftOver (words : List String)
  deriving DecidableEq, Repr

def UsageError.message : UsageError → String
  | .ambiguous word names =>
    s!"ambiguous option: {word} could match " ++ ", ".intercalate names
  | .noValue s => s!"argument {s.shown}: expected one argument"
  | .unwantedValue s value =>
    s!"argument {s.shown}: ignored explicit argument {Text.quoted value}"
  | .notInteger s value => s!"argument {s.shown}: invalid int value: {Text.quoted value}"
  | .unknownVerb word =>
    let choices := ", ".intercalate (Verb.all.map fun v => Text.quoted v.word)
    s!"argument {Positional.command.word}: invalid choice: {Text.quoted word} " ++
      s!"(choose from {choices})"
  | .missing p => s!"the following arguments are required: {p.word}"
  | .leftOver words => "unrecognized arguments: " ++ " ".intercalate words

/-- Why there is nothing to do. -/
inductive Halt where
  /-- The user asks how the program is used. -/
  | help (speaker : String)
  | usage (speaker : String) (e : UsageError)
  deriving DecidableEq, Repr

end ProgramTags.Command
