/-!
# The journal

What the program tells about its work. A `Message` has a level and names the part of the program
that speaks. The `Journal` knows from which level on messages are kept, the handlers that they go
to, and the class that is being worked on; `Journal.lines` says which line goes where. Before it is
configured it has no handlers, and only warnings and worse reach the console, as they are.

Work on a class is a block: `enter` gives the name that was current outside of it, and `leave`
takes that name back.
-/

namespace ProgramTags

/-- The name of the program, which its messages begin with. -/
def programName : String := "tagcollect"

/-- How grave a message is. Any number is a level, and some have a name. -/
structure Level where
  /-- The place of the level among all levels. -/
  rank : Int
  deriving DecidableEq, Repr

namespace Level

def notSet : Level := ⟨0⟩

def debug : Level := ⟨10⟩

def info : Level := ⟨20⟩

def warning : Level := ⟨30⟩

def error : Level := ⟨40⟩

def critical : Level := ⟨50⟩

/-- The level as messages show it. -/
def word (l : Level) : String :=
  match l.rank with
  | 0 => "NOTSET"
  | 10 => "DEBUG"
  | 20 => "INFO"
  | 30 => "WARNING"
  | 40 => "ERROR"
  | 50 => "CRITICAL"
  | n => s!"Level {n}"

def all : List Level := [notSet, debug, info, warning, error, critical]

def ofWord? (s : String) : Option Level :=
  all.find? (·.word = s)

def atLeast (l least : Level) : Bool :=
  least.rank ≤ l.rank

theorem ofWord?_word : ∀ l ∈ all, ofWord? l.word = some l := by
  decide

end Level

inductive Sink where
  | console
  /-- The file at a location, given by the names on the way there. -/
  | file (loc : List String)
  deriving DecidableEq, Repr

/-- What passes messages of a level or worse on. -/
structure Handler where
  sink : Sink
  level : Level
  deriving DecidableEq, Repr

structure Message where
  /-- The part of the program that speaks; empty for the program as a whole. -/
  part : String := ""
  level : Level
  text : String
  deriving DecidableEq, Repr

def speaker (part : String) : String :=
  if part.isEmpty then programName else programName ++ "." ++ part

structure Journal where
  /-- From which level on messages are kept; none before the journal is configured. -/
  level : Option Level := none
  handlers : List Handler := []
  /-- The class that is being worked on. -/
  current : Option String := none
  deriving DecidableEq, Repr

namespace Journal

/-! ## Blocks -/

/-- Begins work on a class. Gives the name that was current before. -/
def enter (name : String) (j : Journal) : Option String × Journal :=
  (j.current, { j with current := some name })

/-- Ends work on a class, where `outer` was current before. -/
def leave (outer : Option String) (j : Journal) : Journal :=
  { j with current := outer }

theorem leave_enter (name : String) (j : Journal) :
    (j.enter name).2.leave (j.enter name).1 = j := rfl

/-- The class as lines of a file show it, a dash if there is none or its name is empty. -/
def classShown (j : Journal) : String :=
  match j.current with
  | some name => if name.isEmpty then "-" else name
  | none => "-"

/-- What lines on the console put before a message to say the class. -/
def classPrefix (j : Journal) : String :=
  match j.current with
  | some name => if name.isEmpty then "" else name ++ ": "
  | none => ""

/-! ## Lines -/

def consoleLine (j : Journal) (m : Message) : String :=
  s!"[{programName}] {m.level.word} {j.classPrefix}{m.text}\n"

def fileLine (j : Journal) (time : String) (m : Message) : String :=
  s!"{time} {m.level.word} {speaker m.part} [{j.classShown}] {m.text}\n"

def line (j : Journal) (time : String) (m : Message) : Sink → String
  | .console => j.consoleLine m
  | .file _ => j.fileLine time m

def keeps (j : Journal) (level : Level) : Bool :=
  level.atLeast (j.level.getD .warning)

/-- The lines that a message gives, with where each goes. -/
def lines (j : Journal) (time : String) (m : Message) : List (Sink × String) :=
  if !j.keeps m.level then []
  else match j.level with
    | none => [(.console, m.text ++ "\n")]
    | some _ =>
      let passing := j.handlers.filter fun h => m.level.atLeast h.level
      passing.map fun h => (h.sink, j.line time m h.sink)

/-! ## Configuring -/

/-- The level from which on messages are kept. -/
def levelFor (verbose : Bool) : Level :=
  if verbose then .debug else .info

/-- The journal with the given level and a handler for the console in place of its handlers. -/
def onConsole (verbose : Bool) (j : Journal) : Journal :=
  { j with level := some (levelFor verbose), handlers := [⟨.console, levelFor verbose⟩] }

/-- The journal with one more handler, for the file at a location. -/
def alsoTo (loc : List String) (verbose : Bool) (j : Journal) : Journal :=
  { j with handlers := j.handlers ++ [⟨.file loc, levelFor verbose⟩] }

end Journal

end ProgramTags
