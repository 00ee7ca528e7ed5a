import ProgramTags.Proofs.Command.Preparing
import ProgramTags.Proofs.Export.Failures

/-!
# Steps that print nothing

`Session.Quiet s t` says that nothing has been printed from `s` to `t`, and that the working
directory is the same. Everything that a command does before it prints is quiet: reading the
settings and the dump, configuring the journal, and making documents, whether they are written to
files or not. Files are kept meanwhile, so that a dump that can be read before the journal is
configured can be read after that, too (`Ready.prepared`).
-/

namespace ProgramTags

/-! ## Quiet steps -/

namespace Session

/-- Nothing has been printed, and the working directory is the same. -/
structure Quiet (s t : Session) : Prop where
  output : t.output = s.output
  workdir : t.files.workdir = s.files.workdir

namespace Quiet

theorem refl (s : Session) : Quiet s s := ⟨rfl, rfl⟩

theorem trans {s t u : Session} (h : Quiet s t) (h' : Quiet t u) : Quiet s u :=
  ⟨h'.output.trans h.output, h'.workdir.trans h.workdir⟩

end Quiet

instance : IsPreorder Session Quiet where
  refl := Quiet.refl
  trans _ _ _ := Quiet.trans

theorem quiet_deliver (s : Session) (line : Sink × String) : Quiet s (s.deliver line) := by
  obtain ⟨sink, text⟩ := line
  cases sink <;> exact ⟨rfl, rfl⟩

theorem quiet_tell (s : Session) (m : Message) : Quiet s (s.tell m) := by
  unfold tell
  generalize s.journal.lines s.time m = lines
  induction lines generalizing s with
  | nil => exact .refl s
  | cons line rest ih => exact (s.quiet_deliver line).trans (ih _)

end Session

open FileSystem (Keeps)
open Session (Quiet)

theorem Files.writeAt_workdir (loc : Location) (bytes : List UInt8) :
    Moves (fun fs gs => gs.workdir = fs.workdir) (writeAt loc bytes) :=
  Moves.modify fun _ => rfl

namespace Work

variable {ε δ α : Type}

theorem tell_quiet (m : Message) : Moves Quiet (tell m : Work ε Unit) :=
  Moves.modify fun s => s.quiet_tell m

theorem onFiles_quiet {wrap : FileError → ε} {act : Files α}
    (h : Moves (fun fs gs => gs.workdir = fs.workdir) act) : Moves Quiet (onFiles wrap act) :=
  fun s => onFiles_ends ((h s.files).mono (fun _ _ hfiles => ⟨rfl, hfiles⟩)
    fun _ _ hfiles => ⟨rfl, hfiles⟩)

/-- Where files are kept, so is the working directory. -/
theorem onFiles_quiet_of_keeps {wrap : FileError → ε} {act : Files α} (h : Moves Keeps act) :
    Moves Quiet (onFiles wrap act) :=
  onFiles_quiet (h.mono fun _ _ hkeeps => hkeeps.workdir)

theorem ofExcept_quiet (f : δ → ε) (x : Except δ α) : Moves Quiet (ofExcept f x) :=
  fun s => ofExcept_ends (fun _ _ => .refl s) fun _ _ => .refl s

theorem inClass_quiet {name : String} {act : Work ε α} (h : Moves Quiet act) :
    Moves Quiet (inClass name act) :=
  fun _ => inClass_ends ((h _).mono (fun _ _ hq => ⟨hq.output, hq.workdir⟩)
    fun _ _ hq => ⟨hq.output, hq.workdir⟩)

theorem configureJournal_quiet (verbose : Bool) (file : Option Path)
    (surrogates : Text.Surrogates) : Moves Quiet (configureJournal verbose file surrogates) := by
  refine (Moves.modify fun s => ⟨rfl, rfl⟩).bind fun _ => ?_
  cases file with
  | none => exact Moves.pure ()
  | some path =>
    refine (onFiles_quiet_of_keeps (Files.openLog_keeps path surrogates)).bind fun loc => ?_
    exact Moves.modify fun s => ⟨rfl, rfl⟩

end Work

namespace Export

variable {settings : CollectSettings} {c : ProgramClass} {directory : Path} {skipEmpty : Bool}

theorem gather_quiet (start : Collection) (g : Gather Unit) : Moves Quiet (gather start g) := by
  unfold gather
  cases g.run start with
  | ok _ found => exact Moves.pure found
  | error e _ => exact Moves.throw (ExportError.gather e)

theorem collect_quiet (settings : CollectSettings) (c : ProgramClass) :
    Moves Quiet (collect settings c) := by
  refine Work.inClass_quiet ((gather_quiet _ _).bind fun found => ?_)
  refine (Work.tell_quiet _).bind fun _ => ?_
  split
  · exact gather_quiet _ _
  · exact Moves.pure found

theorem render_quiet (settings : CollectSettings) (c : ProgramClass) :
    Moves Quiet (render settings c) :=
  (collect_quiet settings c).bind fun _ => Work.ofExcept_quiet _ _

theorem writeDocument_quiet (path : Path) (found : Collection) (surrogates : Text.Surrogates) :
    Moves Quiet (writeDocument path found surrogates) := by
  refine (Work.onFiles_quiet_of_keeps (Files.openFile_keeps path)).bind fun loc => ?_
  refine (Work.onFiles_quiet (Files.writeAt_workdir loc _)).bind fun _ => ?_
  split
  · exact Moves.pure ()
  · exact Moves.throw _

theorem programClass_quiet (settings : CollectSettings) (skipEmpty : Bool) (directory : Path)
    (c : ProgramClass) (surrogates : Text.Surrogates) :
    Moves Quiet (programClass settings skipEmpty directory c surrogates) := by
  have hmake := Files.ensureDirectories_keeps directory
  refine (collect_quiet settings c).bind fun found => ?_
  split
  · exact (Work.tell_quiet _).bind fun _ => Moves.pure _
  · refine Moves.get_bind fun s => (Work.ofExcept_quiet _ _).bind fun path => ?_
    refine (Work.onFiles_quiet_of_keeps hmake).bind fun _ => ?_
    refine (writeDocument_quiet path found surrogates).bind fun _ => ?_
    exact (Work.tell_quiet _).bind fun _ => Moves.pure _

theorem program_quiet (settings : CollectSettings) (skipEmpty : Bool) (directory : Path)
    (p : Program) (surrogates : Text.Surrogates) :
    Moves Quiet (program settings skipEmpty directory p surrogates) :=
  (Moves.mapM (programClass_quiet settings skipEmpty directory · surrogates) p.classes).bind
    fun _ => (Work.tell_quiet _).bind fun _ => Moves.pure _

end Export

/-! ## Commands that are ready -/

namespace Dump

variable {fs gs : FileSystem} {p : Path} {stack : Stack} {surrogates : Text.Surrogates}
  {found : Program}

/-- A dump can be read as long as files are kept. -/
theorem load_of_keeps (h : Keeps fs gs) (hload : load fs p stack surrogates = .ok found) :
    load gs p stack surrogates = .ok found ∧ gs.readText p = fs.readText p := by
  obtain ⟨text, -, htext, -⟩ := load_eq_ok hload
  have hkept := h.readText_eq htext
  rw [load_of_doesExist (FileSystem.doesExist_of_readText htext), htext] at hload
  rw [load_of_doesExist (FileSystem.doesExist_of_readText hkept), hkept]
  exact ⟨hload, htext.symm⟩

end Dump

namespace Command

/-- The settings and the dump of an invocation can be read, no lone surrogate is in them, there is
no integer in the dump that is too long, and the log file, if there is one, can be opened. -/
structure Ready (host : Host) (i : Invocation) (source : Source) (settings : Settings) (p : Program)
    (s : Session) : Prop where
  plain : host.surrogates = .none
  asks : i.job.source? = some source
  loaded : Settings.load s.files (settingsPath source) host.settingsStack host.surrogates =
    .ok settings
  read : Dump.load s.files (Path.ofText source.program) host.dumpStack host.surrogates = .ok p
  short : ¬Dump.HasLongInteger s.files (Path.ofText source.program) host.surrogates
  log : ∀ path, logFile? i settings.journal = some path →
    ∃ loc files, Files.openLog path host.surrogates s.files = .ok loc files

variable {host : Host} {i : Invocation} {source : Source} {settings : Settings} {p : Program}
  {s : Session}

/-- Nothing keeps documents from being made. -/
theorem Ready.prepared (h : Ready host i source settings p s) :
    ∃ t, Prepared host i source settings p s t ∧ Quiet s t ∧ t.LogsStand ∧
      ¬Dump.HasLongInteger t.files (Path.ofText source.program) host.surrogates := by
  let verbose := i.verbose || settings.journal.verbose
  let file := logFile? i settings.journal
  cases hjournal : (Work.configureJournal verbose file host.surrogates) s with
  | error e t =>
    obtain ⟨path, files, hfile, hopen⟩ :=
      (Work.configureJournal_ends verbose file host.surrogates s).of_error hjournal
    obtain ⟨loc, files', hopen'⟩ := h.log path hfile
    rw [hopen] at hopen'
    cases hopen'
  | ok _ t =>
    have hquiet := (Work.configureJournal_quiet verbose file host.surrogates s).of_ok hjournal
    have hkeeps := (Work.configureJournal_keeps verbose file host.surrogates s).of_ok hjournal
    have hlogs := (Work.configureJournal_logsStand verbose file host.surrogates s).of_ok hjournal
    obtain ⟨hread, htext⟩ := Dump.load_of_keeps hkeeps h.read
    refine ⟨t, ⟨⟨h.loaded, hjournal⟩, hread⟩, hquiet, hlogs, ?_⟩
    rw [Dump.HasLongInteger, htext]
    exact h.short

end Command

end ProgramTags
