import ProgramTags.FileSystem
import ProgramTags.Journal

/-!
# Sessions

All that the program changes while it works: files, the journal, and what it has written to its
output and to the console. `Work` is a step of the program; a step that fails keeps what it has
changed. `Work.inClass` is a step during which a class is the current one of the journal, however
the step ends.
-/

namespace ProgramTags

/-- What the program changes while it works. -/
structure Session where
  files : FileSystem := {}
  journal : Journal := {}
  /-- The time, as lines of a journal file show it. -/
  time : String := ""
  /-- What has been printed. -/
  output : String := ""
  /-- What has been written to the console: messages and faults. -/
  console : String := ""
  deriving DecidableEq, Repr

namespace Session

def deliver (s : Session) : Sink × String → Session
  | (.console, line) => { s with console := s.console ++ line }
  | (.file loc, line) => { s with files := s.files.append loc (Text.Utf8.encode line.toList) }

def tell (s : Session) (m : Message) : Session :=
  (s.journal.lines s.time m).foldl deliver s

theorem journal_deliver (s : Session) (line : Sink × String) :
    (s.deliver line).journal = s.journal := by
  obtain ⟨sink, text⟩ := line
  cases sink <;> rfl

/-- Telling the journal something does not change how it is kept. -/
theorem journal_tell (s : Session) (m : Message) : (s.tell m).journal = s.journal := by
  suffices h : ∀ lines : List (Sink × String), (lines.foldl deliver s).journal = s.journal from h _
  intro lines
  induction lines generalizing s with
  | nil => rfl
  | cons line rest ih => rw [List.foldl_cons, ih, journal_deliver]

/-- A message below the level that the journal keeps leaves no trace. -/
theorem tell_of_not_keeps {s : Session} {m : Message} (h : s.journal.keeps m.level = false) :
    s.tell m = s := by
  simp [tell, Journal.lines, h]

end Session

abbrev Work (ε : Type) := EStateM ε Session

namespace Work

variable {ε δ α : Type}

def tell (m : Message) : Work ε Unit :=
  modify (·.tell m)

def print (text : String) : Work ε Unit :=
  modify fun s => { s with output := s.output ++ text }

def ofExcept (wrap : δ → ε) : Except δ α → Work ε α
  | .ok a => pure a
  | .error e => throw (wrap e)

def onFiles (wrap : FileError → ε) (act : Files α) : Work ε α := fun s =>
  match act s.files with
  | .ok a files => .ok a { s with files }
  | .error e files => .error (wrap e) { s with files }

/-- Does a step, its error in other words. -/
def wrap (f : δ → ε) (act : Work δ α) : Work ε α := fun s =>
  match act s with
  | .ok a s => .ok a s
  | .error e s => .error (f e) s

def inClass (name : String) (act : Work ε α) : Work ε α := fun s =>
  let (outer, inside) := s.journal.enter name
  match act { s with journal := inside } with
  | .ok a after => .ok a { after with journal := after.journal.leave outer }
  | .error e after => .error e { after with journal := after.journal.leave outer }

/-- What a step leaves behind, however it ends. -/
def after (act : Work ε α) (s : Session) : Session :=
  match act s with
  | .ok _ s => s
  | .error _ s => s

/-- After work on a class, the class that was current before is current again. -/
theorem current_after_inClass (name : String) (act : Work ε α) (s : Session) :
    (after (inClass name act) s).journal.current = s.journal.current := by
  unfold after inClass
  simp only [Journal.enter]
  split <;> rename_i h <;> split at h <;> cases h <;> rfl

/-- Configures the journal: messages go to the console and, if it is given, to a file, which is
made together with the directories above it. If it cannot be made, the console alone remains. -/
def configureJournal (verbose : Bool) (file : Option Path)
    (surrogates : Text.Surrogates := .none) : Work FileError Unit := do
  modify fun s => { s with journal := s.journal.onConsole verbose }
  match file with
  | none => return
  | some path =>
    let loc ← onFiles id (Files.openLog path surrogates)
    modify fun s => { s with journal := s.journal.alsoTo loc verbose }

end Work

end ProgramTags
