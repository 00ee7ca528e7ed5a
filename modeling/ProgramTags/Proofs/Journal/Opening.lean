import ProgramTags.Proofs.FileSystem.Keeping
import ProgramTags.Proofs.Telling

/-!
# Configuring a journal

Configuring a journal sets up the console and then the log file, if one is given. It fails exactly
if that file cannot be made (`configureJournal_eq`), and then the console is set up all the same.
`FileSystem.logOpened?` is where the log file is.
-/

namespace ProgramTags

open FileSystem (Keeps)

/-- Where the log file is, if one is given and can be made. -/
def FileSystem.logOpened? (fs : FileSystem) (file : Option Path)
    (surrogates : Text.Surrogates := .none) : Option Location :=
  match file with
  | none => none
  | some path =>
    match Files.openLog path surrogates fs with
    | .ok loc _ => some loc
    | .error _ _ => none

namespace Work

/-- What configuring the journal comes to. -/
theorem configureJournal_eq (verbose : Bool) (file : Option Path) (surrogates : Text.Surrogates)
    (s : Session) :
    configureJournal verbose file surrogates s = match file with
      | none => .ok () { s with journal := s.journal.onConsole verbose }
      | some path => match Files.openLog path surrogates s.files with
        | .ok loc files =>
          .ok () { s with files, journal := (s.journal.onConsole verbose).alsoTo loc verbose }
        | .error e files => .error e { s with files, journal := s.journal.onConsole verbose } := by
  refine Ends.bind_ok rfl ?_
  cases file with
  | none => rfl
  | some path =>
    let t := { s with journal := s.journal.onConsole verbose }
    dsimp only
    cases hopen : Files.openLog path surrogates s.files with
    | ok loc files =>
      have hfiles : onFiles id (Files.openLog path surrogates) t = .ok loc { t with files } := by
        rw [onFiles, hopen]
      exact Ends.bind_ok hfiles rfl
    | error e files =>
      have hfiles : onFiles id (Files.openLog path surrogates) t = .error e { t with files } := by
        rw [onFiles, hopen]
        rfl
      exact Ends.bind_error hfiles

variable {surrogates : Text.Surrogates} {s : Session}

theorem configureJournal_eq_error {path : Path} {e : FileError} {files : FileSystem}
    (h : Files.openLog path surrogates s.files = .error e files) (verbose : Bool) :
    ∃ t, configureJournal verbose (some path) surrogates s = .error e t := by
  rw [configureJournal_eq]
  dsimp only
  rw [h]
  exact ⟨_, rfl⟩

/-- Configuring the journal fails exactly if its file cannot be made. -/
theorem configureJournal_ends (verbose : Bool) (file : Option Path) (surrogates : Text.Surrogates)
    (s : Session) :
    Ends (configureJournal verbose file surrogates) s
      (fun _ _ => ∀ path, file = some path →
        ∃ loc files, Files.openLog path surrogates s.files = .ok loc files)
      fun e _ => ∃ path files, file = some path ∧
        Files.openLog path surrogates s.files = .error e files := by
  unfold Ends
  rw [configureJournal_eq]
  cases file with
  | none => exact nofun
  | some path =>
    dsimp only
    cases hopen : Files.openLog path surrogates s.files with
    | ok loc files =>
      rintro _ ⟨⟩
      exact ⟨loc, files, hopen⟩
    | error e files => exact ⟨path, files, rfl, hopen⟩

/-- Configuring the journal leaves all files as they are but for a log file that is new. -/
theorem configureJournal_keeps (verbose : Bool) (file : Option Path)
    (surrogates : Text.Surrogates) (s : Session) :
    Ends (configureJournal verbose file surrogates) s (fun _ t => Keeps s.files t.files)
      fun _ t => Keeps s.files t.files := by
  unfold Ends
  rw [configureJournal_eq]
  cases file with
  | none => exact .refl s.files
  | some path =>
    have hkeeps := Files.openLog_keeps path surrogates s.files
    unfold Ends at hkeeps
    dsimp only
    cases hopen : Files.openLog path surrogates s.files <;> rw [hopen] at hkeeps <;> exact hkeeps

/-- A journal that has been configured, or could not be, has its log file where it writes. -/
theorem configureJournal_logsStand (verbose : Bool) (file : Option Path)
    (surrogates : Text.Surrogates) (s : Session) :
    Ends (configureJournal verbose file surrogates) s (fun _ t => t.LogsStand)
      fun _ t => t.LogsStand := by
  have hconsole : ∀ (t : Session) loc,
      ¬Session.IsLog { t with journal := s.journal.onConsole verbose } loc := by
    rintro t loc ⟨handler, hmem, hsink⟩
    rw [List.mem_singleton.mp hmem] at hsink
    cases hsink
  unfold Ends
  rw [configureJournal_eq]
  cases file with
  | none => exact fun loc hloc => absurd hloc (hconsole s loc)
  | some path =>
    have hends := Files.openLog_ends path surrogates s.files
    unfold Ends at hends
    dsimp only
    cases hopen : Files.openLog path surrogates s.files with
    | ok loc files =>
      rw [hopen] at hends
      obtain ⟨-, bytes, hfind⟩ := hends
      rintro l ⟨handler, hmem, hsink⟩
      rcases List.mem_append.mp hmem with hmem | hmem
      · exact absurd ⟨handler, hmem, hsink⟩ (hconsole { s with files } l)
      · rw [List.mem_singleton.mp hmem] at hsink
        cases hsink
        exact ⟨bytes, FileSystem.find_isAt hfind⟩
    | error e files => exact fun loc hloc => absurd hloc (hconsole { s with files } loc)

end Work

end ProgramTags
