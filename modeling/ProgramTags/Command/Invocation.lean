import ProgramTags.Command.Scan

/-!
# Invocations

What a command line asks for. `Invocation.ofArguments` reads the words before the command with one
grammar and the words after it with the grammar of the command. The flags that the second sets, by
its words or by its defaults, are laid over those of the first. Words that there is nothing for are
reported together, once everything else is right.
-/

namespace ProgramTags.Command

/-- Which program to gather tags from, and what to leave out. -/
structure Source where
  program : String
  noBodies : Bool := false
  noKeys : Bool := false
  config : Option String := none
  deriving DecidableEq, Repr

inductive Selection where
  | all
  | named (name : String)
  /-- The class of a name that is not given, which is none. -/
  | unnamed
  deriving DecidableEq, Repr

/-- Where to answer requests. A host or a number is missing only if it is given without a value. -/
structure Address where
  host : Option String
  portNumber : Option Int
  deriving DecidableEq, Repr

inductive Job where
  | toFiles (source : Source) (directory : Option String)
  | toOutput (source : Source) (classes : Selection)
  | serve (address : Address)
  deriving DecidableEq, Repr

structure Invocation where
  verbose : Bool
  logFile : Option String
  job : Job
  deriving DecidableEq, Repr

def Job.verb : Job → Verb
  | .toFiles .. => .toFiles
  | .toOutput .. => .toOutput
  | .serve .. => .serve

def defaultHost : String := "127.0.0.1"

def defaultPortNumber : Int := 8000

/-- What flags are set to, as far as they are. -/
def Flags := Switch → Option Bool

namespace Flags

/-- The flags of the command over those of the program. -/
def overlay (inner outer : Flags) : Flags :=
  fun flag => (inner flag).or (outer flag)

def isUp (f : Flags) (flag : Switch) : Bool :=
  (f flag).getD false

end Flags

namespace Scan

/-- The flags that the words set, and the grammar where they do not. -/
def flags (g : Grammar) (s : Scan) : Flags := fun flag =>
  if s.has flag then some true
  else if flag ∈ g.lowered then some false
  else none

def source (s : Scan) (flags : Flags) : Source :=
  { program := s.positional.headD ""
    noBodies := flags.isUp .noBodies
    noKeys := flags.isUp .noKeys
    config := s.value? .config }

def selection (s : Scan) : Selection :=
  match s.has .className, s.value? .className with
  | _, some name => .named name
  | true, none => .unnamed
  | false, none => .all

def address (s : Scan) : Address :=
  { host := if s.has .host then s.value? .host else some defaultHost
    portNumber :=
      if s.has .portNumber then
        (s.value? .portNumber).bind fun text => (Decimal.readInteger 10 text.toList).toOption
      else some defaultPortNumber }

def job (s : Scan) (flags : Flags) : Verb → Job
  | .toFiles => .toFiles (s.source flags) (s.value? .outputDirectory)
  | .toOutput => .toOutput (s.source flags) s.selection
  | .serve => .serve s.address

end Scan

def Invocation.ofArguments (args : List String) : Except Halt Invocation := do
  let before ← Scan.read mainGrammar args
  match Verb.ofWord? (before.positional.headD "") with
  | none => .error (.usage programName (.unknownVerb (before.positional.headD "")))
  | some verb =>
    let after ← Scan.read verb.grammar before.positional.tail
    let leftOver := before.leftOver ++ after.leftOver
    if !leftOver.isEmpty then .error (.usage programName (.leftOver leftOver))
    let flags := (after.flags verb.grammar).overlay (before.flags mainGrammar)
    return {
      verbose := flags.isUp .verbose
      logFile := before.value? .logFile
      job := after.job flags verb }

end ProgramTags.Command
