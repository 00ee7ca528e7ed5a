import ProgramTags.Proofs.Command.Printing
import ProgramTags.Proofs.Export.Splitting

/-!
# What the output depends on

How much is told, and where the journal is kept, has no influence on what is printed, but for one
thing: a log file can stand in the way of the documents, and then nothing is printed. Two command
lines that ask for the same print the same if they keep the journal in the same file, and also if
both end well or both badly (`Independent`). `run_output` puts this beside what `Prints` and
`Exports` say of one command line.
-/

namespace ProgramTags

/-! ## Sessions that differ in how much is told -/

namespace Session

/-- The sessions differ in no more than how much is told. -/
structure Beside (s t : Session) : Prop where
  files : t.files = s.files
  output : t.output = s.output
  sinks : t.journal.handlers.map Handler.sink = s.journal.handlers.map Handler.sink

namespace Beside

variable {s t : Session}

theorem refl (s : Session) : Beside s s := ⟨rfl, rfl, rfl⟩

theorem isLog_eq (h : Beside s t) : t.IsLog = s.IsLog := by
  have hmem : ∀ (s : Session) loc,
      s.IsLog loc ↔ Sink.file loc ∈ s.journal.handlers.map Handler.sink :=
    fun s loc => List.mem_map.symm
  funext loc
  rw [eq_iff_iff, hmem, hmem, h.sinks]

theorem alike (h : Beside s t) (hs : s.LogsStand) : Alike s.IsLog s t := by
  refine ⟨rfl, h.isLog_eq, ?_⟩
  rw [h.files]
  exact (Alike.refl hs).files

end Beside

end Session

open Session (Beside)

namespace Work

variable {ε α : Type}

theorem onFiles_beside (wrap : FileError → ε) (act : Files α) :
    Parallel Beside (onFiles wrap act) (onFiles wrap act) := by
  intro s t h
  unfold onFiles
  rw [h.files]
  cases act s.files with
  | ok a files => exact .ok ⟨rfl, h.output, h.sinks⟩
  | error e files => exact .error ⟨rfl, h.output, h.sinks⟩

theorem configureJournal_beside (verbose verbose' : Bool) (file : Option Path)
    (surrogates : Text.Surrogates) :
    Parallel Beside (configureJournal verbose file surrogates)
      (configureJournal verbose' file surrogates) := by
  refine (Parallel.modify fun s t h => ⟨h.files, h.output, rfl⟩).bind fun _ => ?_
  cases file with
  | none => exact Parallel.pure ()
  | some path =>
    refine (onFiles_beside id (Files.openLog path surrogates)).bind fun loc => ?_
    refine Parallel.modify fun s t h => ⟨h.files, h.output, ?_⟩
    simp only [Journal.alsoTo, List.map_append, h.sinks, List.map_cons, List.map_nil]

end Work

namespace Command

open Export (Renders)

variable {host : Host} {args args' : List String} {i i' : Invocation} {source : Source}
  {settings : Settings} {p : Program} {s t u : Session}

theorem Prepared.beside (h : Prepared host i source settings p s t)
    (hlog : logFile? i' settings.journal = logFile? i settings.journal) :
    ∃ u, Prepared host i' source settings p s u ∧ Beside t u := by
  have hends := Work.configureJournal_beside (i.verbose || settings.journal.verbose)
    (i'.verbose || settings.journal.verbose) (logFile? i settings.journal) host.surrogates s s
    (.refl s)
  rw [h.configured] at hends
  obtain ⟨u, hu, hbeside⟩ := hends.exists_of_ok
  rw [← hlog] at hu
  refine ⟨u, ⟨⟨h.loaded, hu⟩, ?_⟩, hbeside⟩
  rw [hbeside.files]
  exact h.read

/-! ## What is printed is determined -/

theorem Prints.unique {classes : Selection} {ending ending' : Ending}
    (h : Prints source settings p classes s ending t)
    (h' : Prints source settings p classes s ending' u) :
    ending'.code? = ending.code? ∧ u.output = t.output := by
  by_cases hsome : ∃ cs, Selects p classes cs
  · obtain ⟨cs, hcs⟩ := hsome
    obtain ⟨hcode, texts, htexts, houtput⟩ := h.selected cs hcs
    obtain ⟨hcode', texts', htexts', houtput'⟩ := h'.selected cs hcs
    have hunique : Relator.RightUnique (Renders {
        includeBodies := settings.collect.includeBodies && !source.noBodies
        keys := settings.collect.keys && !source.noKeys }) :=
      fun _ _ _ hr hr' => hr.unique hr'
    have hsame : texts' = texts := List.right_unique_forall₂' hunique htexts' htexts
    rw [hcode, hcode', houtput, houtput', hsame]
    exact ⟨rfl, rfl⟩
  · obtain ⟨hcode, houtput⟩ := h.missing (not_exists.mp hsome)
    obtain ⟨hcode', houtput'⟩ := h'.missing (not_exists.mp hsome)
    rw [hcode, hcode', houtput, houtput']
    exact ⟨rfl, rfl⟩

theorem LineAbout.unique {workdir : Location} {o : Outcome} {line line' : String}
    (h : LineAbout workdir o line) (h' : LineAbout workdir o line') : line = line' := by
  cases ho : o.path with
  | none => rw [h.skipped ho, h'.skipped ho]
  | some path => rw [h.written path ho, h'.written path ho]

theorem Exports.unique {directory : Option String} {ending ending' : Ending}
    (h : Exports host i source settings p directory s ending t)
    (h' : Exports host i' source settings p directory s ending' u)
    (hcode : ending'.code? = some 0 ↔ ending.code? = some 0) : u.output = t.output := by
  by_cases hdone : ending.code? = some 0
  · obtain ⟨collect, outcomes, lines, _, _, rfl, -, -, heffect, -, hlines, houtput⟩ := h.done hdone
    obtain ⟨collect', outcomes', lines', _, _, rfl, -, -, heffect', -, hlines', houtput'⟩ :=
      h'.done (hcode.mpr hdone)
    have houtcomes : outcomes' = outcomes :=
      List.right_unique_forall₂' (fun _ _ _ ho ho' => ho.unique ho') heffect'.reported
        heffect.reported
    subst houtcomes
    have hsame : lines' = lines :=
      List.right_unique_forall₂' (fun _ _ _ hl hl' => hl.unique hl') hlines' hlines
    rw [houtput, houtput', hsame]
  · rw [h.failed hdone, h'.failed (mt hcode.mp hdone)]

/-! ## Two command lines -/

/-- An export ends the same, however much is told about it. -/
theorem run_code_eq {directory : Option String} (asks : Invocation.ofArguments args = .ok i)
    (asks' : Invocation.ofArguments args' = .ok i') (ready : Ready host i source settings p s)
    (job : i.job = .toFiles source directory) (job' : i'.job = i.job)
    (hlog : logFile? i' settings.journal = logFile? i settings.journal) :
    (run host args' s).1.code? = (run host args s).1.code? := by
  obtain ⟨t, hprepared, -, hlogs, -⟩ := ready.prepared
  obtain ⟨u, hprepared', hbeside⟩ := hprepared.beside hlog
  -- the sessions have the same files and logs, so the exports run side by side
  have hends : SameEnd (Session.Alike t.IsLog) (exportAll host source settings directory p t)
      (exportAll host source settings directory p u) := by
    rw [exportAll, ready.plain]
    exact Export.program_parallel _ _ _ p t u (hbeside.alike hlogs)
  cases hexport : exportAll host source settings directory p t with
  | ok outcomes v =>
    rw [hexport] at hends
    obtain ⟨w, hexport', -⟩ := hends.exists_of_ok
    rw [run_of_exportAll ready.plain asks job hprepared hexport,
      run_of_exportAll ready.plain asks' (job'.trans job) hprepared' hexport']
  | error e v =>
    rw [hexport] at hends
    obtain ⟨w, hexport', -⟩ := hends.exists_of_error
    have hperform := perform_of_exportAll job hprepared hexport
    have hperform' := perform_of_exportAll (job'.trans job) hprepared' hexport'
    have hleft : ∀ code, Failure.documents e ≠ .left code := fun _ => Failure.noConfusion
    rw [(run_of_fails asks hperform hleft).1, (run_of_fails asks' hperform' hleft).1, job']

/-- How the ends `r` and `r'` of two command lines compare that ask for the same, but may say
different things about the journal. -/
structure Independent (i i' : Invocation) (settings : Settings) (r r' : Ending × Session) :
    Prop where
  /-- Documents that are printed are the same, and so is a missing class. -/
  toOutput : ∀ source classes, i.job = .toOutput source classes →
    r'.1.code? = r.1.code? ∧ r'.2.output = r.2.output
  /-- How much is told makes no difference. -/
  sameLog : logFile? i' settings.journal = logFile? i settings.journal →
    r'.1.code? = r.1.code? ∧ r'.2.output = r.2.output
  /-- Where the journal is kept makes a difference only to whether documents can be written. -/
  alike : (r'.1.code? = some 0 ↔ r.1.code? = some 0) → r'.2.output = r.2.output

theorem run_independent (asks : Invocation.ofArguments args = .ok i)
    (asks' : Invocation.ofArguments args' = .ok i') (ready : Ready host i source settings p s)
    (ready' : Ready host i' source settings p s) (job' : i'.job = i.job) :
    Independent i i' settings (run host args s) (run host args' s) := by
  cases job : i.job with
  | toOutput source' classes =>
    have hsource := ready.asks
    rw [job] at hsource
    cases hsource
    have hsame := (run_prints asks ready job).unique (run_prints asks' ready' (job'.trans job))
    exact ⟨fun _ _ _ => hsame, fun _ => hsame, fun _ => hsame.2⟩
  | toFiles source' directory =>
    have hsource := ready.asks
    rw [job] at hsource
    cases hsource
    have hsame := (run_exports asks ready job).unique (run_exports asks' ready' (job'.trans job))
    refine ⟨fun _ _ htoOutput => ?_, fun hlog => ?_, hsame⟩
    · rw [job] at htoOutput
      cases htoOutput
    · have hcode := run_code_eq asks asks' ready job job' hlog
      exact ⟨hcode, hsame (by rw [hcode])⟩
  | serve address =>
    have hsource := ready.asks
    rw [job] at hsource
    cases hsource

/-- What a command prints: documents, or lines about the classes that it has written documents of.
It does not depend on how much is told, and on where the journal is kept only as far as a log file
may keep documents from being written. -/
theorem run_output (asks : Invocation.ofArguments args = .ok i)
    (ready : Ready host i source settings p s) :
    (∀ classes, i.job = .toOutput source classes →
      Prints source settings p classes s (run host args s).1 (run host args s).2) ∧
    (∀ directory, i.job = .toFiles source directory →
      Exports host i source settings p directory s (run host args s).1 (run host args s).2) ∧
    ∀ args' i', Invocation.ofArguments args' = .ok i' → Ready host i' source settings p s →
      i'.job = i.job → Independent i i' settings (run host args s) (run host args' s) :=
  ⟨fun _ => run_prints asks ready, fun _ => run_exports asks ready,
    fun _ _ asks' ready' => run_independent asks asks' ready ready'⟩

/-! ## Two classes of one name -/

/-- Two classes have one name, and the class between them has no tags. -/
def doubled : Program :=
  ⟨[⟨"A", [.text "a" ""], [], []⟩, ⟨"B", [], [], []⟩, ⟨"A", [.text "c" ""], [], []⟩]⟩

/-- There is nothing but the dump of the program. -/
def stored : Session where
  files :=
    { entries := [(["work"], .directory),
        (["work", "p.json"], .file (Text.Utf8.encode
          ("\x7b\"classes\": [" ++
            "\x7b\"name\": \"A\", \"tags\": [\x7b\"text\": \"a\"\x7d]\x7d, " ++
            "\x7b\"name\": \"B\"\x7d, " ++
            "\x7b\"name\": \"A\", \"tags\": [\x7b\"text\": \"c\"\x7d]\x7d]\x7d").toList))]
      workdir := ["work"] }

/-- Commands that read the dump are ready, with and without a log file. -/
theorem stored_ready (asks : i.job.source? = some source) (program : source.program = "p.json")
    (config : source.config = none)
    (log : ∀ path, logFile? i {} = some path → path = Path.ofText "out") :
    Ready {} i source (Settings.standard (Path.ofLocation ["work"])) doubled stored := by
  have hsettings : (Settings.load stored.files (Path.ofText "p.json").parent).toOption =
      some (Settings.standard (Path.ofLocation ["work"])) := by decide +kernel
  have hread : (Dump.load stored.files (Path.ofText "p.json")).toOption = some doubled := by
    decide +kernel
  have hpath : settingsPath source = (Path.ofText "p.json").parent := by
    rw [settingsPath, config, program]
    rfl
  refine ⟨rfl, asks, ?_, ?_, ?_, ?_⟩
  · rw [hpath]
    exact Except.eq_ok_of_toOption hsettings
  · rw [program]
    exact Except.eq_ok_of_toOption hread
  · rw [program]
    rintro ⟨hformat, -⟩
    revert hformat
    decide
  · intro path hpath
    obtain rfl := log path hpath
    have hopen : (stored.files.logOpened? (some (Path.ofText "out"))).isSome = true := by
      decide +kernel
    cases h : Files.openLog (Path.ofText "out") .none stored.files with
    | ok loc files => exact ⟨loc, files, rfl⟩
    | error e files =>
      rw [FileSystem.logOpened?, h] at hopen
      cases hopen

/-- The first of the classes is printed, whether there is a log file or more is told. -/
theorem run_output_doubled :
    let args := ["--log-file", "out", "print", "p.json", "--class", "A", "--no-keys"]
    let args' := ["print", "-v", "p.json", "--class", "A", "--no-keys"]
    ∃ i i' source settings text, Invocation.ofArguments args = .ok i ∧
      Invocation.ofArguments args' = .ok i' ∧ Ready {} i source settings doubled stored ∧
      Ready {} i' source settings doubled stored ∧ i'.job = i.job ∧
      Renders { keys := false } ⟨"A", [.text "a" ""], [], []⟩ text ∧
      (run {} args stored).1.code? = some 0 ∧ (run {} args stored).2.output = text ∧
      (run {} args' stored).1.code? = some 0 ∧ (run {} args' stored).2.output = text := by
  intro args args'
  let source : Source := { program := "p.json", noKeys := true }
  let job : Job := .toOutput source (.named "A")
  have hargs : Invocation.ofArguments args = .ok ⟨false, some "out", job⟩ := by decide +kernel
  have hargs' : Invocation.ofArguments args' = .ok ⟨true, none, job⟩ := by decide +kernel
  have ready : Ready {} ⟨false, some "out", job⟩ source _ doubled stored :=
    stored_ready rfl rfl rfl fun path hpath => (Option.some.inj hpath).symm
  have ready' : Ready {} ⟨true, none, job⟩ source _ doubled stored :=
    stored_ready rfl rfl rfl nofun
  obtain ⟨hprints, -, hindependent⟩ := run_output hargs ready
  obtain ⟨hcode', houtput'⟩ := (hindependent args' _ hargs' ready' rfl).toOutput source _ rfl
  have hselects : Selects doubled (.named "A") [⟨"A", [.text "a" ""], [], []⟩] :=
    .named [] ⟨"A", [.text "a" ""], [], []⟩ _ rfl nofun
  obtain ⟨hcode, texts, htexts, houtput⟩ := (hprints _ rfl).selected _ hselects
  obtain ⟨text, rest, htext, hrest, rfl⟩ := List.forall₂_cons_left_iff.mp htexts
  cases hrest
  have hjoined : stored.output ++ String.join [text] = text := by
    rw [String.join_cons, String.join_nil, String.append_empty]
    exact String.empty_append
  rw [hjoined] at houtput
  exact ⟨_, _, source, _, text, hargs, hargs', ready, ready', rfl, htext, hcode, houtput,
    hcode'.trans hcode, houtput'.trans houtput⟩

/-- There is nothing but a dump with half a character. -/
def halved : Session where
  files :=
    { entries := [(["work"], .directory),
        (["work", "p.json"], .file (Text.Utf8.encode Dump.halvedText))]
      workdir := ["work"] }

/-- A log file that is neither the dump nor in the directory for the documents may stand in the way
of that directory. Then nothing is printed. Nor can half a character be printed. -/
theorem run_output_blocked :
    let args := ["export", "p.json", "--output-dir", "out/x"]
    let args' := ["--log-file", "out", "export", "p.json", "--output-dir", "out/x"]
    let host : Host := { surrogates := .loneHigh }
    (∃ i i' source settings log, Invocation.ofArguments args = .ok i ∧
      Invocation.ofArguments args' = .ok i' ∧ i'.job = i.job ∧
      Ready {} i source settings doubled stored ∧ Ready {} i' source settings doubled stored ∧
      logFile? i settings.journal = none ∧ logFile? i' settings.journal = some log ∧
      stored.files.resolve log = .ok ["work", "out"] ∧
      stored.files.resolve (Path.ofText source.program) = .ok ["work", "p.json"] ∧
      stored.files.resolve (targetDirectory settings (some "out/x")) = .ok ["work", "out", "x"] ∧
      (run {} args stored).1.code? = some 0 ∧
      (run {} args stored).2.output = "A: out/x/A.xml (1 attributes, 0 keys)\n" ++
        "B: skipped (no tags)\n" ++ "A: out/x/A.xml (1 attributes, 0 keys)\n" ∧
      (run {} args' stored).2.output = "") ∧
    ∃ c settings, Settings.load halved.files (Path.ofText ".") .unbounded .loneHigh =
        .ok settings ∧
      Dump.load halved.files (Path.ofText "p.json") .unbounded .loneHigh = .ok ⟨[c]⟩ ∧
      Renders {} c (Export.textDocument "\uE000") ∧
      (run host ["print", "p.json"] halved).1.code? = none ∧
      (run host ["print", "p.json"] halved).2.output = "" := by
  intro args args' host
  refine ⟨?_, ⟨"A", [.text "\uE000" ""], [], []⟩, ?_⟩
  · let source : Source := { program := "p.json" }
    let job : Job := .toFiles source (some "out/x")
    have hargs : Invocation.ofArguments args = .ok ⟨false, none, job⟩ := by decide +kernel
    have hargs' : Invocation.ofArguments args' = .ok ⟨false, some "out", job⟩ := by
      decide +kernel
    have ready : Ready {} ⟨false, none, job⟩ source _ doubled stored :=
      stored_ready rfl rfl rfl nofun
    have ready' : Ready {} ⟨false, some "out", job⟩ source _ doubled stored :=
      stored_ready rfl rfl rfl fun path hpath => (Option.some.inj hpath).symm
    refine ⟨_, _, source, _, Path.ofText "out", hargs, hargs', rfl, ready, ready', rfl, rfl, ?_⟩
    decide +kernel
  · have hsettings : (Settings.load halved.files (Path.ofText ".") .unbounded
        .loneHigh).toOption = some (Settings.standard (Path.ofLocation ["work"])) := by
      decide +kernel
    have hrenders : Renders {} ⟨"A", [.text "\uE000" ""], [], []⟩
        (Export.textDocument "\uE000") :=
      Export.renders_iff.mpr (by decide +kernel)
    exact ⟨_, Except.eq_ok_of_toOption hsettings, by decide +kernel, hrenders, by decide +kernel⟩

end Command

end ProgramTags
