import ProgramTags.Proofs.Command.Printing
import ProgramTags.Proofs.Export.Interrupted
import ProgramTags.Proofs.Export.Splitting
import ProgramTags.Proofs.Journal.Configuring

/-!
# What a command that fails leaves

A command that fails with a code prints nothing, and of what there is it changes the log file and no
other file, unless it is an export that a class without a usable name has stopped
(`Export.StoppedAfter`): then there are the documents of the classes before that one (`run_fails`).
`FailsAt` lists the stages at which a command fails, and `Left` what may have become of a location.
It is put together from the stages: the log file is opened (`configureJournal_left`), and documents
are written (`Left.export`).
-/

namespace ProgramTags

open FileSystem (Contained Grows)

/-! ## Exports that a name stops -/

theorem ExportError.isSurrogate_of_isEarly {e : ExportError} (he : e.isEarly = true) :
    e.isSurrogate = false := by
  cases e with
  | record e => cases he
  | file e => cases he
  | _ => rfl

namespace Export

open Document (Closes)

variable {settings : CollectSettings} {skipEmpty : Bool} {directory : Path} {p : Program}
  {classes : List ProgramClass} {outcomes : List Outcome} {c : ProgramClass} {o : Outcome}
  {fs : FileSystem} {s t : Session} {e : ExportError} {loc : Location}

theorem Exported.isIn (h : Exported settings skipEmpty directory c s t o) (hs : s.LogsStand)
    (hg : Grows t.files fs) (ho : o.location? fs = some loc) : s.files.IsIn directory loc := by
  cases h with
  | skipped =>
    obtain ⟨path, -, hpath, -⟩ := location?_eq_some.mp ho
    cases hpath
  | written found path text u v hfound hskip hcollect htext hwrote htold =>
    obtain ⟨l, -, hfind, hin⟩ := hwrote.isIn
    have hv := hwrote.logsStand (hcollect.logsStand hs)
    have hat : Outcome.location? v.files
        ⟨c.name, some path, found.attributes.length, found.keys.length⟩ = some l :=
      location?_eq_some.mpr ⟨path, _, rfl, hfind⟩
    rw [location?_grows ((htold.grows hv).trans hg) hat] at ho
    cases ho
    exact hin.of_grows (hcollect.grows hs)

/-- The documents of an export are in its directory. -/
theorem ExportedAll.isIn (h : ExportedAll settings skipEmpty directory s classes outcomes t)
    (hs : s.LogsStand) (hg : Grows t.files fs) :
    ∀ x ∈ classes.zip outcomes, x.2.location? fs = some loc → s.files.IsIn directory loc := by
  induction h with
  | nil => nofun
  | cons h hrest ih =>
    have hu := h.stays.logsStand hs
    rw [List.zip_cons_cons, List.forall_mem_cons]
    refine ⟨h.isIn hs ((hrest.stays.grows hu).trans hg), fun x hx hloc => ?_⟩
    exact (ih hu hg x hx hloc).of_grows (h.stays.grows hs)

/-- An early stop is no matter of lone surrogates. -/
theorem program_eq_early {surrogates : Text.Surrogates}
    (h : (program settings skipEmpty directory p surrogates) s = .error e t) (he : e.isEarly) :
    (program settings skipEmpty directory p) s = .error e t := by
  rcases (program_follows settings skipEmpty directory p surrogates).of_error h with h | hbad
  · exact h
  · rw [ExportError.isSurrogate_of_isEarly he] at hbad
    cases hbad

/-- An export that has begun in `s` has been stopped by a class whose name no document can have, and
the documents of the classes before it are there: where one of these has been written, there is its
document, or that of a later one which has been written over it. -/
structure StoppedAfter (settings : CollectSettings) (skipEmpty : Bool) (directory : Path)
    (surrogates : Text.Surrogates) (p : Program) (before : List ProgramClass) (s : Session)
    (fs : FileSystem) (e : ExportError) : Prop where
  unusable : ∃ c after, p.classes = before ++ c :: after ∧
    documentPath fs directory c.name = .error e ∧
    (e = .noDocumentName c.name ∨ e = .outside c.name directory.text)
  documents : ∃ outcomes t,
    before.mapM (programClass settings skipEmpty directory · surrogates) s = .ok outcomes t ∧
    ∀ x ∈ before.zip outcomes, x.2.written →
      ∃ loc d text, x.2.location? fs = some loc ∧ d ∈ before ∧ Renders settings d text ∧
        Closes text ∧ fs.get? loc = some (.file (Text.Utf8.encode text.toList))

/-- An export into a directory without log files that a name stops has written the classes before
that one, and nothing else. -/
theorem program_stoppedAfter {surrogates : Text.Surrogates} (hs : s.LogsStand)
    (hapart : ∀ loc, s.files.IsIn directory loc → ¬s.IsLog loc)
    (h : (program settings skipEmpty directory p surrogates) s = .error e t) (he : e.isEarly)
    (hgather : ∀ e', e ≠ .gather e') :
    ∃ before, StoppedAfter settings skipEmpty directory surrogates p before s t.files e ∧
      Whole settings before nowhere s t := by
  have hclass := programClass_follows settings skipEmpty directory
  rcases Ends.bind_eq_error h with h | ⟨outcomes, v, -, h⟩
  rotate_left
  · cases h
  obtain ⟨before, c, after, outcomes, u, hclasses, hbefore, hc⟩ := Ends.mapM_eq_error h
  have hall : ExportedAll settings skipEmpty directory s before outcomes u :=
    mapM_eq_ok ((Follows.mapM (fun c => hclass c surrogates) before).of_ok hbefore)
  have hstopped : Stopped settings skipEmpty directory c u t e := by
    rcases (hclass c surrogates).of_error hc with hc | hbad
    · exact (programClass_ends settings skipEmpty directory c u).of_error hc
    · rw [ExportError.isSurrogate_of_isEarly he] at hbad
      cases hbad
  have hu := hall.stays.logsStand hs
  have htold := hstopped.tells he
  have hgrows := htold.grows hu
  have hwhole : Whole settings before nowhere s t := hall.whole.trans (.of_tells htold)
  have hname : documentPath t.files directory c.name = .error e := by
    cases hstopped with
    | gather e' => exact absurd rfl (hgather e')
    | path e hpath => exact hpath
    | file => cases he
    | record => cases he
  refine ⟨before, ⟨⟨c, after, hclasses, hname, ?_⟩, outcomes, u, hbefore, fun x hx hw => ?_⟩,
    hwhole⟩
  · rcases documentPath_error hname with h | h | ⟨why, rfl⟩
    · exact .inl h
    · exact .inr h
    · cases he
  · obtain ⟨loc, hloc⟩ := (List.forall₂_iff_zip.mp (hall.location?_isSome hs hgrows)).2 hx hw
    obtain ⟨y, hy, -, hlast⟩ := lastAt_of_mem hx hloc
    have hlog : ¬s.IsLog loc := hapart loc (hall.isIn hs hgrows x hx hloc)
    obtain ⟨text, htext, hbytes⟩ := (hall.documents hs hgrows hlog).1 y.1 hlast
    refine ⟨loc, y.1, text, hloc, (List.of_mem_zip hy).1, htext, htext.closes, ?_⟩
    rw [htold.elsewhere loc (by rwa [Session.isLog_of_handlers hall.stays.handlers]), hbytes]

end Export

namespace Command

open Document (Closes)
open Export (Kept Renders StoppedAfter)

/-- What may have become of a location: nothing, a directory that was missing on one of the ways, or
a file, which is the log file or the whole document of one of the classes. -/
inductive Left (log : Option Location) (ways : List Path) (collect : CollectSettings)
    (classes : List ProgramClass) (fs gs : FileSystem) (loc : Location) : Prop
  | same (h : gs.get? loc = fs.get? loc)
  | directory (way q : Path) (hway : way ∈ ways) (hq : q.IsOnWayTo way)
      (before : fs.get? loc = none) (after : gs.get? loc = some .directory)
      (hfind : gs.find q = .ok (.entry loc .directory))
  | log (h : log = some loc)
      (before : fs.get? loc = none ∨ ∃ bytes, fs.get? loc = some (.file bytes))
      (after : ∃ bytes, gs.get? loc = some (.file bytes))
  | document (hlog : log ≠ some loc) (c : ProgramClass) (hc : c ∈ classes) (text : String)
      (hrenders : Renders collect c text) (hcloses : Closes text)
      (before : fs.get? loc = none ∨ ∃ bytes, fs.get? loc = some (.file bytes))
      (after : gs.get? loc = some (.file (Text.Utf8.encode text.toList)))

variable {log : Option Location} {ways : List Path} {collect : CollectSettings}
  {classes : List ProgramClass} {fs gs hs : FileSystem} {loc : Location}

/-- What is left once the log file has been opened, and then documents have been written, for which
the directory may have been made. -/
theorem Left.export {directory : Path} {writable : Location → Prop}
    (h : Left log ways collect [] fs gs loc) (hfirst : Grows fs gs)
    (hstands : ∀ l, log = some l → ∃ bytes, gs.get? l = some (.file bytes))
    (hthen : Contained directory writable gs hs)
    (hkept : log ≠ some loc → Kept collect classes gs hs loc) :
    Left log (ways ++ [directory]) collect classes fs hs loc := by
  by_cases hlog : log = some loc
  · obtain ⟨bytes, hbytes⟩ := hstands loc hlog
    have hafter := hthen.grows.file hbytes
    exact .log hlog ((hfirst.trans hthen.grows).file_before hafter) hafter
  cases h with
  | same hsame =>
    cases hthen.change loc with
    | same hsame' => exact .same (hsame'.trans hsame)
    | directory q hq before after hfind =>
      exact .directory directory q (by simp) hq (hsame ▸ before) after hfind
    | file hw before after =>
      rw [hsame] at before
      cases hkept hlog with
      | same hsame' => exact .same (hsame'.trans hsame)
      | directory before' after' =>
        obtain ⟨bytes, hbytes⟩ := after
        rw [after'] at hbytes
        cases hbytes
      | document c hc text hrenders hcloses after' =>
        exact .document hlog c hc text hrenders hcloses before after'
  | directory way q hway hq before after hfind =>
    have hstays := FileSystem.find_grows hthen.grows hfind
    have hdir := hthen.grows.directory after
    exact .directory way q (List.mem_append_left _ hway) hq before hdir hstays
  | log h => exact absurd h hlog
  | document hlog c hc => cases hc

/-- What configuring the journal leaves if it succeeds. -/
theorem configureJournal_left (verbose : Bool) (file : Option Path) (surrogates : Text.Surrogates)
    (s : Session) :
    Ends (Work.configureJournal verbose file surrogates) s
      (fun _ t => ∀ loc, Left (s.files.logOpened? file surrogates)
        (file.toList.map Path.parent) collect [] s.files t.files loc)
      fun _ _ => True := by
  unfold Ends
  rw [Work.configureJournal_eq]
  cases file with
  | none => exact fun loc => .same rfl
  | some path =>
    dsimp only
    have hends := Files.openLog_ends path surrogates s.files
    unfold Ends at hends
    cases hopen : Files.openLog path surrogates s.files with
    | error e files => exact trivial
    | ok l files =>
      rw [hopen] at hends
      have hlog : s.files.logOpened? (some path) surrogates = some l := by
        rw [FileSystem.logOpened?, hopen]
      intro loc
      rw [hlog]
      cases hends.1.change loc with
      | same hsame => exact .same hsame
      | file hw before after => exact .log (by rw [hw]) before after
      | directory q hq before after hfind =>
        exact .directory path.parent q (List.mem_singleton_self _) hq before after hfind

/-! ## Where commands fail -/

section

variable {host : Host} {args : List String} {i : Invocation} {source : Source}
  {settings : Settings} {p : Program} {s t u : Session} {e : Failure} {text : String}

/-- The stages at which a command fails and says so, with the session that it leaves. -/
inductive FailsAt (host : Host) (i : Invocation) (s t : Session) : Failure → Prop
  | settings {source : Source} {e : Settings.LoadError} (asks : i.job.source? = some source)
      (fault : Settings.load s.files (settingsPath source) host.settingsStack host.surrogates =
        .error e) (h : t = s) : FailsAt host i s t (.settings e)
  | load {source : Source} {settings : Settings} {e : Dump.LoadError}
      (asks : i.job.source? = some source) (reached : Configured host i source settings s t) :
      FailsAt host i s t (.load e)
  | unknownClass {source : Source} {settings : Settings} {name : Option String}
      (asks : i.job.source? = some source) (reached : Configured host i source settings s t) :
      FailsAt host i s t (.unknownClass name)
  | documents {source : Source} {directory : Option String} {settings : Settings} {p : Program}
      {u : Session} {e : ExportError} (asks : i.job = .toFiles source directory)
      (reached : Prepared host i source settings p s u)
      (fault : exportAll host source settings directory p u = .error e t) :
      FailsAt host i s t (.documents e)

theorem prepare_failsAt (asks : i.job.source? = some source)
    (h : prepare host i source s = .error e t) (hsaid : e.report? i.job.verb = some text) :
    FailsAt host i s t e := by
  rw [prepare_eq] at h
  cases hsettings : Settings.load s.files (settingsPath source) host.settingsStack
      host.surrogates with
  | error e' =>
    rw [hsettings] at h
    cases h
    exact .settings asks hsettings rfl
  | ok settings =>
    rw [hsettings] at h
    dsimp only at h
    cases hjournal : (Work.configureJournal (i.verbose || settings.journal.verbose)
        (logFile? i settings.journal) host.surrogates) s with
    | error e' t' =>
      rw [hjournal] at h
      cases h
      cases hsaid
    | ok _ t' =>
      rw [hjournal] at h
      dsimp only at h
      cases hload : Dump.load t'.files (Path.ofText source.program) host.dumpStack
          host.surrogates with
      | error e' =>
        rw [hload] at h
        cases h
        exact .load asks ⟨hsettings, hjournal⟩
      | ok p =>
        rw [hload] at h
        cases h

theorem toFiles_failsAt {directory : Option String} (asks : i.job = .toFiles source directory)
    (h : toFiles host i source directory s = .error e t)
    (hsaid : e.report? i.job.verb = some text) : FailsAt host i s t e := by
  have hsource : i.job.source? = some source := by rw [asks]; rfl
  rcases Ends.bind_eq_error h with h | ⟨⟨settings, p⟩, u, hprepare, h⟩
  · exact prepare_failsAt hsource h hsaid
  have hreached := (prepare_ends hsource s).of_ok hprepare
  rcases Ends.bind_eq_error h with h | ⟨outcomes, v, -, h⟩
  · obtain ⟨e', rfl, hfault⟩ := Work.wrap_eq_error h
    exact .documents asks hreached hfault
  · -- a line that cannot be printed is not told
    obtain ⟨-, -, -, -, -, e', rfl, -⟩ :=
      (Ends.forM fun o _ w => print_ends host (outcomeLine v.files.workdir o) w).of_error h
    cases hsaid

theorem toOutput_failsAt {classes : Selection} (asks : i.job = .toOutput source classes)
    (h : toOutput host i source classes s = .error e t)
    (hsaid : e.report? i.job.verb = some text) : FailsAt host i s t e := by
  have hsource : i.job.source? = some source := by rw [asks]; rfl
  rcases Ends.bind_eq_error h with h | ⟨⟨settings, p⟩, u, hprepare, h⟩
  · exact prepare_failsAt hsource h hsaid
  have hreached := (prepare_ends hsource s).of_ok hprepare
  rcases Ends.bind_eq_error h with h | ⟨cs, v, hselect, h⟩
  · rcases selected_cases p classes with ⟨cs, hcs, -⟩ | ⟨name, hname⟩
    · rw [hcs] at h
      cases h
    · rw [hname] at h
      cases h
      exact .unknownClass hsource hreached.toConfigured
  · cases hcs : selected p classes with
    | error e' =>
      rw [hcs] at hselect
      cases hselect
    | ok cs' =>
      rw [hcs] at hselect
      cases hselect
      obtain ⟨before, c, after, rfl, -, hfault⟩ :=
        (Ends.forM fun c _ w => printClass_ends host (collecting source settings) c w).of_error h
      have hc : c ∈ p.classes :=
        mem_of_selected hcs c (List.mem_append_right _ List.mem_cons_self)
      rcases printed_cases hreached hc hfault with ⟨long, rfl, -⟩ | ⟨e', rfl⟩ <;> cases hsaid

/-- A server is run once the journal has been configured, and nothing is said about how it ends. -/
theorem serve_eq_error {address : Address} (h : serve host i address s = .error e t) :
    e.report? i.job.verb = none ∧ ((∃ code, e = .left code) →
      (Work.configureJournal i.verbose (pathGiven? i.logFile) host.surrogates) s = .ok () t) := by
  rcases Ends.bind_eq_error h with h | ⟨_, u, hjournal, h⟩
  · obtain ⟨e', rfl, -⟩ := Work.wrap_eq_error h
    exact ⟨rfl, fun ⟨code, hcode⟩ => Failure.noConfusion hcode⟩
  · have hconfigured := Work.wrap_eq_ok hjournal
    cases hserve : host.serve address <;> rw [hserve] at h <;> cases h
    all_goals exact ⟨rfl, fun _ => hconfigured⟩

/-- A command that fails and says so has failed at one of the stages. -/
theorem perform_failsAt (h : perform host i s = .error e t)
    (hsaid : e.report? i.job.verb = some text) : FailsAt host i s t e := by
  unfold perform at h
  cases hjob : i.job with
  | toFiles source directory =>
    rw [hjob] at h
    rcases Ends.bind_eq_error h with h | ⟨_, u, -, h⟩
    · exact toFiles_failsAt hjob h hsaid
    · cases h
  | toOutput source classes =>
    rw [hjob] at h
    rcases Ends.bind_eq_error h with h | ⟨_, u, -, h⟩
    · exact toOutput_failsAt hjob h hsaid
    · cases h
  | serve address =>
    rw [hjob] at h
    rcases Ends.bind_eq_error h with h | ⟨_, u, -, h⟩
    · rw [(serve_eq_error h).1] at hsaid
      cases hsaid
    · cases h

/-- Only a server ends the program with a code of its own. -/
theorem perform_left {code : Nat} (h : perform host i s = .error (.left code) t) :
    i.job.source? = none ∧ (Work.configureJournal i.verbose (pathGiven? i.logFile)
      host.surrogates) s = .ok () t := by
  cases (perform_ends host i s).of_error h with
  | told said => cases said
  | escapes escapes => exact absurd rfl (escapes.ne_left code)
  | left asks exits =>
    refine ⟨by rw [asks]; rfl, ?_⟩
    unfold perform at h
    rw [asks] at h
    rcases Ends.bind_eq_error h with h | ⟨_, u, -, h⟩
    · exact (serve_eq_error h).2 ⟨code, rfl⟩
    · cases h

/-! ## What they leave -/

theorem FailsAt.output_eq (h : FailsAt host i s t e) : t.output = s.output := by
  cases h with
  | settings asks fault h => rw [h]
  | load asks reached | unknownClass asks reached =>
    exact ((Work.configureJournal_quiet _ _ _ s).of_ok reached.configured).output
  | documents asks reached fault =>
    have hfirst := (Work.configureJournal_quiet _ _ _ s).of_ok reached.configured
    exact (hfirst.trans ((Export.program_quiet _ _ _ _ _ _).of_error fault)).output

/-- The log files of a journal that has been configured are there, and they are what the command
has opened. -/
theorem Configured.stands (h : Configured host i source settings s t) :
    t.LogsStand ∧ Grows s.files t.files ∧ ∀ {loc}, t.IsLog loc ↔
      s.files.logOpened? (logFile? i settings.journal) host.surrogates = some loc := by
  obtain ⟨hdescribes, -, -, hunwritten⟩ :=
    (Work.configureJournal_describes _ _ _ s).of_ok h.configured
  exact ⟨hdescribes.logsStand, hunwritten.kept.toGrows, hdescribes.isLog_iff⟩

/-- What is left by a command that fails and says so, beside what it has told. -/
inductive Spares (host : Host) (args : List String) (s : Session) (fs : FileSystem) : Prop
  | misused (halt : Halt) (asks : Invocation.ofArguments args = .error halt)
      (same : fs = s.files)
  | misconfigured (i : Invocation) (source : Source) (e : Settings.LoadError)
      (asks : Invocation.ofArguments args = .ok i) (needs : i.job.source? = some source)
      (fault : Settings.load s.files (settingsPath source) host.settingsStack host.surrogates =
        .error e) (same : fs = s.files)
  | configured (i : Invocation) (source : Source) (settings : Settings)
      (asks : Invocation.ofArguments args = .ok i) (needs : i.job.source? = some source)
      (loaded : Settings.load s.files (settingsPath source) host.settingsStack host.surrogates =
        .ok settings)
      (left : ∀ loc, Left (s.files.logOpened? (logFile? i settings.journal) host.surrogates)
        ((logFile? i settings.journal).toList.map Path.parent) (collecting source settings) []
        s.files fs loc)
  /-- The documents before an unusable name are there. -/
  | stopped (i : Invocation) (source : Source) (directory : Option String) (settings : Settings)
      (p : Program) (u : Session) (e : ExportError) (before : List ProgramClass)
      (asks : Invocation.ofArguments args = .ok i) (job : i.job = .toFiles source directory)
      (reached : Prepared host i source settings p s u)
      (stopped : StoppedAfter (collecting source settings) settings.output.skipEmpty
        (targetDirectory settings directory) host.surrogates p before u fs e)
      (left : ∀ loc, Left (s.files.logOpened? (logFile? i settings.journal) host.surrogates)
        ((logFile? i settings.journal).toList.map Path.parent ++
          [targetDirectory settings directory])
        (collecting source settings) before s.files fs loc)
  /-- A server has ended the program. -/
  | served (i : Invocation) (asks : Invocation.ofArguments args = .ok i)
      (serves : i.job.source? = none)
      (left : ∀ loc, Left (s.files.logOpened? (pathGiven? i.logFile) host.surrogates)
        ((pathGiven? i.logFile).toList.map Path.parent) {} [] s.files fs loc)

/-- The log file of a command line that writes documents to files, if there is one, is not in the
directory for these. -/
def LogApart (host : Host) (args : List String) (s : Session) : Prop :=
  ∀ i source directory settings loc, Invocation.ofArguments args = .ok i →
    i.job = .toFiles source directory →
    Settings.load s.files (settingsPath source) host.settingsStack host.surrogates =
      .ok settings →
    s.files.logOpened? (logFile? i settings.journal) host.surrogates = some loc →
    ¬s.files.IsIn (targetDirectory settings directory) loc

theorem Configured.left (h : Configured host i source settings s t) (loc : Location) :
    Left (s.files.logOpened? (logFile? i settings.journal) host.surrogates)
      ((logFile? i settings.journal).toList.map Path.parent) (collecting source settings) []
      s.files t.files loc :=
  (configureJournal_left _ _ _ s).of_ok h.configured loc

theorem FailsAt.spares (h : FailsAt host i s t e) (asks : Invocation.ofArguments args = .ok i)
    (hsaid : e.report? i.job.verb = some text) (hapart : LogApart host args s) :
    Spares host args s t.files := by
  cases h with
  | @settings source e needs fault h => exact .misconfigured i source e asks needs fault (by rw [h])
  | @load source settings e needs reached =>
    exact .configured i source settings asks needs reached.loaded reached.left
  | @unknownClass source settings name needs reached =>
    exact .configured i source settings asks needs reached.loaded reached.left
  | @documents source directory settings p u e job reached fault =>
    have hearly : e.isEarly ∧ ∀ e', e ≠ .gather e' := by
      cases Export.program_hinders reached.read fault with
      | noDocumentName name => exact ⟨rfl, nofun⟩
      | outside name directory => exact ⟨rfl, nofun⟩
      | _ => cases hsaid
    obtain ⟨hlogs, hgrows, hlog⟩ := reached.toConfigured.stands
    rw [exportAll_eq] at fault
    have haway : ∀ loc, u.files.IsIn (targetDirectory settings directory) loc → ¬u.IsLog loc :=
      fun loc hin h => hapart i source directory settings loc asks job reached.loaded
        (hlog.mp h) (hin.of_grows hgrows)
    obtain ⟨before, hstopped, hwhole⟩ :=
      Export.program_stoppedAfter hlogs haway fault hearly.1 hearly.2
    have hcontained := ((Export.program_stays _ _ _ _ u).of_error
      (Export.program_eq_early fault hearly.1)).contained hlogs
    refine .stopped i source directory settings p u e before asks job reached hstopped fun loc => ?_
    refine (reached.left loc).export hgrows (fun l hl => hlogs l (hlog.mpr hl)) hcontained ?_
    exact fun hother => hwhole.kept loc (fun h => hother (hlog.mp h)) id

/-- A command line that ends with another code than 0 has printed nothing, and has left everything
as it was but for the log file, which there is only once the settings have been read, for
directories that were missing, and for the whole documents of the classes before one that has
stopped an export by its name. -/
theorem run_fails {n : Nat} (hcode : (run host args s).1.code? = some n) (hn : n ≠ 0)
    (hapart : LogApart host args s) :
    (run host args s).2.output = s.output ∧ Spares host args s (run host args s).2.files := by
  cases hasks : Invocation.ofArguments args with
  | error halt =>
    cases halt with
    | help speaker =>
      rw [run, hasks] at hcode
      cases hcode
      exact absurd rfl hn
    | usage speaker e =>
      rw [run, hasks]
      exact ⟨rfl, .misused _ hasks rfl⟩
  | ok i =>
    cases hperform : perform host i s with
    | ok address t =>
      rw [run_of_perform_ok hasks hperform] at hcode
      cases hcode
      exact absurd rfl hn
    | error e t =>
      by_cases hleft : ∃ code, e = .left code
      · obtain ⟨code, rfl⟩ := hleft
        obtain ⟨hserves, hconfigured⟩ := perform_left hperform
        have hrun : run host args s = (.left code, t) := by
          rw [run, hasks]
          dsimp only
          rw [hperform]
        rw [hrun]
        exact ⟨((Work.configureJournal_quiet _ _ _ s).of_ok hconfigured).output,
          .served i hasks hserves ((configureJournal_left _ _ _ s).of_ok hconfigured)⟩
      · rw [run_of_perform_error hasks hperform (not_exists.mp hleft)] at hcode ⊢
        cases hsaid : e.report? i.job.verb with
        | none =>
          rw [hsaid] at hcode
          cases hcode
        | some text =>
          have hfails := perform_failsAt hperform hsaid
          exact ⟨hfails.output_eq, hfails.spares hasks hsaid hapart⟩

end

/-- There is nothing but a dump, in which the second of three classes has a name that no document
can have. -/
def misnamed : Session where
  files :=
    { entries := [(["work"], .directory),
        (["work", "p.json"], .file (Text.Utf8.encode
          ("\x7b\"classes\": [" ++
            "\x7b\"name\": \"A\", \"tags\": [\x7b\"text\": \"a\"\x7d]\x7d, " ++
            "\x7b\"name\": \"x//y\", \"tags\": [\x7b\"text\": \"x\"\x7d]\x7d, " ++
            "\x7b\"name\": \"D\", \"tags\": [\x7b\"text\": \"d\"\x7d]\x7d]\x7d").toList))]
      workdir := ["work"] }

/-- The document of the first class is there, and that of the third is not. -/
theorem run_fails_misnamed :
    let args := ["--log-file", "run.log", "export", "p.json"]
    (run {} args misnamed).1.code? = some 1 ∧ LogApart {} args misnamed ∧
      (run {} args misnamed).2.output = misnamed.output ∧
      Spares {} args misnamed (run {} args misnamed).2.files ∧
      (run {} args misnamed).2.files.entries.map Prod.fst = [["work"], ["work", "p.json"],
        ["work", "run.log"], ["work", "attributes"], ["work", "attributes", "A.xml"]] := by
  intro args
  let source : Source := { program := "p.json" }
  let found := Settings.standard (Path.ofLocation ["work"])
  have hargs : Invocation.ofArguments args =
      .ok ⟨false, some "run.log", .toFiles source none⟩ := by decide +kernel
  have hsettings : (Settings.load misnamed.files (settingsPath source)).toOption = some found := by
    decide +kernel
  have hlog : misnamed.files.logOpened? (some (Path.ofText "run.log")) =
      some ["work", "run.log"] := by decide +kernel
  have htarget : (misnamed.files.resolve (targetDirectory found none)).toOption =
      some ["work", "attributes"] := by decide +kernel
  have hcode : (run {} args misnamed).1.code? = some 1 := by decide +kernel
  have hapart : LogApart {} args misnamed := by
    intro i source' directory settings loc hi hjob hload hopened
    rw [hargs] at hi
    cases hi
    cases hjob
    rw [Except.eq_ok_of_toOption hsettings] at hload
    cases hload
    obtain rfl : ["work", "run.log"] = loc := Option.some.inj (hlog.symm.trans hopened)
    rintro ⟨above, name, hresolve, hin⟩
    rw [Except.eq_ok_of_toOption htarget] at hresolve
    cases hresolve
    simp at hin
  obtain ⟨houtput, hspares⟩ := run_fails hcode (by decide) hapart
  exact ⟨hcode, hapart, houtput, hspares, by decide +kernel⟩

end Command

end ProgramTags
