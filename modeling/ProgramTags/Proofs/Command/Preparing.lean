import ProgramTags.Command
import ProgramTags.Proofs.Journal.Opening

/-!
# The stages of a command

What a command that needs a program does before it makes documents: it reads the settings,
configures the journal and reads the dump. `prepare_eq` says in one equation how these stages follow
one another; `Configured` and `Prepared` say how far a command has come.
-/

namespace ProgramTags.Command

/-- Where the program of a job comes from, if it needs one. -/
def Job.source? : Job → Option Source
  | .toFiles s _ => some s
  | .toOutput s _ => some s
  | .serve _ => none

/-- The journal settings that hold for an invocation: those of the settings file, or none where
there is no program. -/
def Journals (host : Host) (i : Invocation) (s : Session) (j : JournalSettings) : Prop :=
  match i.job.source? with
  | some source => ∃ settings, Settings.load s.files (settingsPath source) host.settingsStack
    host.surrogates = .ok settings ∧ settings.journal = j
  | none => j = {}

def logFile? (i : Invocation) (j : JournalSettings) : Option Path :=
  (pathGiven? i.logFile).or j.file

/-- The settings have been read and the journal has been configured. -/
structure Configured (host : Host) (i : Invocation) (source : Source) (settings : Settings)
    (s t : Session) : Prop where
  loaded : Settings.load s.files (settingsPath source) host.settingsStack host.surrogates =
    .ok settings
  configured : (Work.configureJournal (i.verbose || settings.journal.verbose)
    (logFile? i settings.journal) host.surrogates) s = .ok () t

/-- Everything is there for documents to be made. -/
structure Prepared (host : Host) (i : Invocation) (source : Source) (settings : Settings)
    (p : Program) (s t : Session) : Prop extends Configured host i source settings s t where
  read : Dump.load t.files (Path.ofText source.program) host.dumpStack host.surrogates = .ok p

section

variable {host : Host} {i : Invocation} {source : Source} {settings : Settings} {p : Program}
  {s t : Session} {e : Failure}

/-- What reading the settings, configuring the journal and reading the dump come to. -/
theorem prepare_eq (host : Host) (i : Invocation) (source : Source) (s : Session) :
    prepare host i source s = match Settings.load s.files (settingsPath source)
        host.settingsStack host.surrogates with
      | .error e => .error (.settings e) s
      | .ok settings =>
        match (Work.configureJournal (i.verbose || settings.journal.verbose)
            (logFile? i settings.journal) host.surrogates) s with
        | .error e t => .error (.journal e) t
        | .ok _ t =>
          match Dump.load t.files (Path.ofText source.program) host.dumpStack
              host.surrogates with
          | .error e => .error (.load e) t
          | .ok p => .ok (settings, p) t := by
  refine Ends.bind_ok rfl ?_
  dsimp only
  cases hsettings : Settings.load s.files (settingsPath source) host.settingsStack
      host.surrogates with
  | error e => exact Ends.bind_error rfl
  | ok settings =>
    refine Ends.bind_ok rfl ?_
    dsimp only
    cases hjournal : (Work.configureJournal (i.verbose || settings.journal.verbose)
        (logFile? i settings.journal) host.surrogates) s with
    | error e t =>
      exact Ends.bind_error (Work.wrap_of_error hjournal)
    | ok _ t =>
      refine Ends.bind_ok (Work.wrap_of_ok hjournal) (Ends.bind_ok rfl ?_)
      dsimp only
      cases Dump.load t.files (Path.ofText source.program) host.dumpStack host.surrogates with
      | error e => exact Ends.bind_error rfl
      | ok p => exact Ends.bind_ok rfl rfl

theorem Configured.prepare_eq_error {e : Dump.LoadError}
    (h : Configured host i source settings s t)
    (hload : Dump.load t.files (Path.ofText source.program) host.dumpStack host.surrogates =
      .error e) :
    prepare host i source s = .error (.load e) t := by
  rw [prepare_eq, h.loaded]
  dsimp only
  rw [h.configured]
  dsimp only
  rw [hload]

theorem Prepared.prepare_eq (h : Prepared host i source settings p s t) :
    prepare host i source s = .ok (settings, p) t := by
  rw [Command.prepare_eq, h.loaded]
  dsimp only
  rw [h.configured]
  dsimp only
  rw [h.read]

theorem perform_of_toFiles {directory : Option String} (asks : i.job = .toFiles source directory)
    (h : toFiles host i source directory s = .error e t) : perform host i s = .error e t := by
  unfold perform
  rw [asks]
  exact Ends.bind_error h

theorem perform_of_toOutput {classes : Selection} (asks : i.job = .toOutput source classes)
    (h : toOutput host i source classes s = .error e t) : perform host i s = .error e t := by
  unfold perform
  rw [asks]
  exact Ends.bind_error h

theorem perform_of_serve {address : Address} (asks : i.job = .serve address)
    (h : serve host i address s = .error e t) : perform host i s = .error e t := by
  unfold perform
  rw [asks]
  exact Ends.bind_error h

/-- A failure before the documents is that of the invocation. -/
theorem perform_of_prepare (asks : i.job.source? = some source)
    (h : prepare host i source s = .error e t) : perform host i s = .error e t := by
  cases hjob : i.job with
  | toFiles source' directory =>
    rw [hjob] at asks
    cases asks
    exact perform_of_toFiles hjob (Ends.bind_error h)
  | toOutput source' classes =>
    rw [hjob] at asks
    cases asks
    exact perform_of_toOutput hjob (Ends.bind_error h)
  | serve address =>
    rw [hjob] at asks
    cases asks

end

end ProgramTags.Command
