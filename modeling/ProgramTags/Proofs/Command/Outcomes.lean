import ProgramTags.Proofs.Command.Preparing
import ProgramTags.Proofs.Export.Documents
import ProgramTags.Proofs.Export.Failures
import ProgramTags.Proofs.Settings.Loading

/-!
# How command lines end

A command line ends with the code 0, with the code 2 if its words make no sense, or with the code 1
after it has told what failed (`Settles`). Faults that nothing is prepared for are the exception.
`Escapes` lists them, stage by stage: settings that are overlooked, a log file that cannot be made,
a dump that is overlooked, a document that cannot be made, and integers that are too long for one.
`run_settles_iff` says that a command line settles unless it meets one of these.
-/

namespace ProgramTags.Command

/-! ## What nothing is prepared for -/

def exportAll (host : Host) (source : Source) (settings : Settings) (directory : Option String)
    (p : Program) : Work ExportError (List Outcome) :=
  Export.program (collecting source settings) settings.output.skipEmpty
    ((pathGiven? directory).getD settings.output.directory) p host.surrogates

def printed (host : Host) (settings : CollectSettings) (c : ProgramClass) :
    Except Failure String := do
  let text ← (Export.document settings c).mapError .documents
  match host.surrogates.fault? text with
  | none => .ok text
  | some e => .error (.output e)

/-- A failure that nothing is prepared for, and how it comes about. -/
inductive Escapes (host : Host) (i : Invocation) (s : Session) : Failure → Prop where
  | settings {source : Source} {e : Settings.LoadError} (asks : i.job.source? = some source)
    (fault : Settings.Overlooked s.files (settingsPath source) host.settingsStack
      host.surrogates e) : Escapes host i s (.settings e)
  | journal {j : JournalSettings} {path : Path} {e : FileError} {files : FileSystem}
    (asks : Journals host i s j) (file : logFile? i j = some path)
    (fault : Files.openLog path host.surrogates s.files = .error e files) :
    Escapes host i s (.journal e)
  /-- It cannot be found out whether there is a dump. -/
  | unsure {source : Source} {settings : Settings} {t : Session} {e : FileError}
    (asks : i.job.source? = some source) (reached : Configured host i source settings s t)
    (fault : t.files.doesExist (Path.ofText source.program) = .error e) :
    Escapes host i s (.load (.unknown e))
  | dump {source : Source} {settings : Settings} {t : Session} {text : List Char}
    {e : Dump.LoadError} (asks : i.job.source? = some source)
    (reached : Configured host i source settings s t)
    (found : t.files.doesExist (Path.ofText source.program) = .ok true)
    (content : t.files.readText (Path.ofText source.program) = .ok text)
    (fault : Dump.Overlooked (Path.ofText source.program) text host.dumpStack
      host.surrogates e) : Escapes host i s (.load e)
  /-- A file or a directory for documents cannot be made. -/
  | file {source : Source} {directory : Option String} {settings : Settings} {p : Program}
    {t u : Session} {e : FileError} (asks : i.job = .toFiles source directory)
    (reached : Prepared host i source settings p s t)
    (fault : exportAll host source settings directory p t = .error (.file e) u) :
    Escapes host i s (.documents (.file e))
  /-- An integer that comes from YAML is too long for the document in a file. -/
  | number {source : Source} {directory : Option String} {settings : Settings} {p : Program}
    {t u : Session} {e : Decimal.TooLong} (asks : i.job = .toFiles source directory)
    (reached : Prepared host i source settings p s t)
    (fault : exportAll host source settings directory p t = .error (.record (.number e)) u)
    (long : Dump.HasLongInteger t.files (Path.ofText source.program) host.surrogates) :
    Escapes host i s (.documents (.record (.number e)))
  /-- A lone surrogate does not get into the document in a file. -/
  | surrogate {source : Source} {directory : Option String} {settings : Settings} {p : Program}
    {t u : Session} {e : Text.SurrogateFault} (asks : i.job = .toFiles source directory)
    (reached : Prepared host i source settings p s t)
    (fault : exportAll host source settings directory p t = .error (.record (.surrogate e)) u) :
    Escapes host i s (.documents (.record (.surrogate e)))
  /-- Once the documents are written, a lone surrogate in the name of a class or of its document
  cannot be printed. -/
  | line {source : Source} {directory : Option String} {settings : Settings} {p : Program}
    {t u : Session} {before after : List Outcome} {o : Outcome} {e : Text.SurrogateFault}
    (asks : i.job = .toFiles source directory) (reached : Prepared host i source settings p s t)
    (exported : exportAll host source settings directory p t = .ok (before ++ o :: after) u)
    (earlier : ∀ b ∈ before, host.surrogates.fault? (outcomeLine u.files.workdir b) = none)
    (fault : host.surrogates.fault? (outcomeLine u.files.workdir o) = some e) :
    Escapes host i s (.output e)
  /-- An integer that comes from YAML is too long for a document that is printed. -/
  | tooLong {source : Source} {classes : Selection} {settings : Settings} {p : Program}
    {t : Session} {before after : List ProgramClass} {c : ProgramClass} {e : Decimal.TooLong}
    (asks : i.job = .toOutput source classes) (reached : Prepared host i source settings p s t)
    (selects : selected p classes = .ok (before ++ c :: after))
    (earlier : ∀ b ∈ before, ∃ text, printed host (collecting source settings) b = .ok text)
    (fault : printed host (collecting source settings) c =
      .error (.documents (.record (.number e))))
    (long : Dump.HasLongInteger t.files (Path.ofText source.program) host.surrogates) :
    Escapes host i s (.documents (.record (.number e)))
  /-- A document has a lone surrogate and cannot be printed. -/
  | output {source : Source} {classes : Selection} {settings : Settings} {p : Program}
    {t : Session} {before after : List ProgramClass} {c : ProgramClass}
    {e : Text.SurrogateFault} (asks : i.job = .toOutput source classes)
    (reached : Prepared host i source settings p s t)
    (selects : selected p classes = .ok (before ++ c :: after))
    (earlier : ∀ b ∈ before, ∃ text, printed host (collecting source settings) b = .ok text)
    (fault : printed host (collecting source settings) c = .error (.output e)) :
    Escapes host i s (.output e)
  /-- The server fails on its own. -/
  | server {address : Address} {t : Session} {fault : String} (asks : i.job = .serve address)
    (configured : (Work.configureJournal i.verbose (pathGiven? i.logFile) host.surrogates) s =
      .ok () t)
    (raised : host.serve address = .raised fault) : Escapes host i s (.server fault)

/-! ## What is said -/

theorem append_ne_empty {s t : String} (h : t ≠ "") : s ++ t ≠ "" := by
  intro hst
  have hlist := congrArg String.toList hst
  rw [String.toList_append] at hlist
  exact h (String.toList_injective (List.append_eq_nil_iff.mp hlist).2)

/-- What is said about a failure is never nothing. -/
theorem report_ne_empty {verb : Verb} {e : Failure} {text : String}
    (h : e.report? verb = some text) : text ≠ "" := by
  have hfailing : ∀ message, failing verb message ≠ "" := fun message =>
    append_ne_empty (by decide)
  unfold Failure.report? at h
  split at h
  · rename_i e
    unfold settingsReport? at h
    split at h <;> cases h <;> exact hfailing _
  · cases h
  · rename_i e
    unfold loadReport? at h
    split at h <;> cases h
    · exact append_ne_empty (by decide)
    all_goals exact hfailing _
  · rename_i e
    unfold documentsReport? at h
    split at h <;> cases h <;> exact append_ne_empty (by decide)
  · cases h
    exact append_ne_empty (by decide)
  all_goals cases h

theorem settingsReport?_of_isReported {verb : Verb} {e : Settings.LoadError}
    (h : e.isReported = true) : ∃ text, settingsReport? verb e = some text := by
  cases e with
  | malformed name detail => exact ⟨_, rfl⟩
  | notMapping => exact ⟨_, rfl⟩
  | _ => cases h

theorem loadReport?_of_isReported {verb : Verb} {e : Dump.LoadError}
    (h : e.isReported = true) : ∃ text, loadReport? verb e = some text := by
  cases e with
  | unreadable name e => exact ⟨_, rfl⟩
  | malformed name detail => exact ⟨_, rfl⟩
  | dump e =>
    cases e with
    | number e => cases h
    | _ => exact ⟨_, rfl⟩
  | _ => cases h

theorem Escapes.report_eq_none {host : Host} {i : Invocation} {s : Session} {e : Failure}
    (h : Escapes host i s e) (verb : Verb) : e.report? verb = none := by
  cases h with
  | settings asks fault =>
    have hreported := fault.isReported
    rename_i e
    cases e <;> first | rfl | cases hreported
  | dump asks reached found content fault => cases fault <;> rfl
  | _ => rfl

theorem Escapes.ne_left {host : Host} {i : Invocation} {s : Session} {e : Failure}
    (h : Escapes host i s e) (code : Nat) : e ≠ .left code := by
  cases h <;> exact nofun

/-! ## Every failure is told or escapes -/

section

variable {host : Host} {i : Invocation} {source : Source} {settings : Settings} {p : Program}
  {s t u : Session} {e : Failure}

/-- Something is said about the failure, or nothing is prepared for it, or the server has ended the
program. -/
inductive Met (host : Host) (i : Invocation) (s : Session) : Failure → Prop where
  | told {e : Failure} {text : String} (said : e.report? i.job.verb = some text) :
    Met host i s e
  | escapes {e : Failure} (escapes : Escapes host i s e) : Met host i s e
  | left {address : Address} {code : Nat} (asks : i.job = .serve address)
    (exits : host.serve address = .exited code) : Met host i s (.left code)

theorem journal_met {j : JournalSettings} {verbose : Bool} {e : FileError}
    (asks : Journals host i s j)
    (h : (Work.configureJournal verbose (logFile? i j) host.surrogates) s = .error e t) :
    Met host i s (.journal e) := by
  obtain ⟨path, files, hfile, hopen⟩ := (Work.configureJournal_ends _ _ _ s).of_error h
  exact .escapes (.journal asks hfile hopen)

theorem prepare_ends (asks : i.job.source? = some source) (s : Session) :
    Ends (prepare host i source) s (fun found t => Prepared host i source found.1 found.2 s t)
      fun e _ => Met host i s e := by
  rw [Ends, prepare_eq]
  rcases Settings.load_cases s.files (settingsPath source) host.settingsStack host.surrogates with
    ⟨settings, hsettings⟩ | ⟨e, he, hslip | hreported⟩
  · rw [hsettings]
    dsimp only
    have hjournals : Journals host i s settings.journal := by
      rw [Journals, asks]
      exact ⟨settings, hsettings, rfl⟩
    cases hjournal : (Work.configureJournal (i.verbose || settings.journal.verbose)
        (logFile? i settings.journal) host.surrogates) s with
    | error e t => exact journal_met hjournals hjournal
    | ok _ t =>
      have hreached : Configured host i source settings s t := ⟨hsettings, hjournal⟩
      have hload :=
        Dump.load_cases t.files (Path.ofText source.program) host.dumpStack host.surrogates
      cases hfound : t.files.doesExist (Path.ofText source.program) with
      | error e =>
        rw [hfound] at hload
        dsimp only at hload ⊢
        rw [hload]
        exact .escapes (.unsure asks hreached hfound)
      | ok found =>
        rw [hfound] at hload
        cases found with
        | false =>
          dsimp only at hload ⊢
          rw [hload]
          exact .told rfl
        | true =>
          dsimp only at hload ⊢
          rcases hload with ⟨p, hp⟩ | ⟨e, he, ⟨text, htext, hslip⟩ | hreported⟩
          · rw [hp]
            exact ⟨hreached, hp⟩
          · rw [he]
            exact .escapes (.dump asks hreached hfound htext hslip)
          · rw [he]
            obtain ⟨text, hsaid⟩ := loadReport?_of_isReported hreported
            exact .told hsaid
  · rw [he]
    exact .escapes (.settings asks hslip)
  · rw [he]
    obtain ⟨text, hsaid⟩ := settingsReport?_of_isReported hreported
    exact .told hsaid

theorem print_eq_ok {text : String} (h : host.surrogates.fault? text = none) (s : Session) :
    print host text s = .ok () { s with output := s.output ++ text } := by
  rw [print, h]
  rfl

theorem print_ends (host : Host) (text : String) (s : Session) :
    Ends (print host text) s (fun _ _ => host.surrogates.fault? text = none)
      fun e _ => ∃ e', e = .output e' ∧ host.surrogates.fault? text = some e' := by
  unfold print
  split
  · rename_i hplain
    exact Ends.modify hplain
  · rename_i e hfault
    exact Ends.throw ⟨e, rfl, hfault⟩

theorem toFiles_ends {directory : Option String} (asks : i.job = .toFiles source directory)
    (s : Session) :
    Ends (toFiles host i source directory) s (fun _ _ => True) fun e _ => Met host i s e := by
  have hsource : i.job.source? = some source := by rw [asks]; rfl
  refine Ends.bind ((prepare_ends hsource s).mono ?_ fun _ _ h => h)
  rintro ⟨settings, p⟩ t hready
  refine Ends.bind (Work.wrap_ends ?_)
  refine (Ends.result (exportAll host source settings directory p) t).mono ?_ ?_
  · intro outcomes u hexported
    refine Ends.bind (Ends.get ?_)
    refine (Ends.forM fun o _ v => print_ends host (outcomeLine u.files.workdir o) v).mono
      (fun _ _ _ => trivial) ?_
    rintro e v ⟨before, o, after, rfl, hbefore, e', rfl, hfault⟩
    exact .escapes (.line asks hready hexported hbefore hfault)
  · intro e u hfault
    cases Export.program_hinders hready.read hfault with
    | noDocumentName name => exact .told rfl
    | outside name directory => exact .told rfl
    | file e => exact .escapes (.file asks hready hfault)
    | number long hlong => exact .escapes (.number asks hready hfault hlong)
    | surrogate e => exact .escapes (.surrogate asks hready hfault)

/-- A class is printed as `printed` says. -/
theorem printClass_ends (host : Host) (settings : CollectSettings) (c : ProgramClass)
    (s : Session) :
    Ends (printClass host settings c) s (fun _ _ => ∃ text, printed host settings c = .ok text)
      fun e _ => printed host settings c = .error e := by
  refine Ends.bind (Work.wrap_ends ((Export.render_ends settings c s).mono ?_ ?_))
  · intro text t htext
    refine (print_ends host text t).mono (fun _ _ hplain => ⟨text, ?_⟩) ?_
    · rw [printed, htext, Except.mapError_ok, Except.ok_bind, hplain]
    · rintro e _ ⟨e', rfl, hfault⟩
      rw [printed, htext, Except.mapError_ok, Except.ok_bind, hfault]
  · intro e t he
    rw [printed, he]
    rfl

/-- The classes that are asked for are classes of the program, or there is none of the name. -/
theorem selected_cases (p : Program) (classes : Selection) :
    (∃ cs, selected p classes = .ok cs ∧ ∀ c ∈ cs, c ∈ p.classes) ∨
      ∃ name, selected p classes = .error (.unknownClass name) := by
  cases classes with
  | all => exact .inl ⟨p.classes, rfl, fun _ hc => hc⟩
  | unnamed => exact .inr ⟨none, rfl⟩
  | named name =>
    simp only [selected]
    cases hfind : p.findClass? name with
    | none => exact .inr ⟨some name, rfl⟩
    | some c =>
      refine .inl ⟨[c], rfl, fun d hd => ?_⟩
      rw [List.mem_singleton.mp hd]
      exact List.mem_of_find?_eq_some hfind

theorem mem_of_selected {classes : Selection} {cs : List ProgramClass}
    (h : selected p classes = .ok cs) : ∀ c ∈ cs, c ∈ p.classes := by
  rcases selected_cases p classes with ⟨cs', hcs, hmem⟩ | ⟨name, hname⟩
  · rw [hcs] at h
    cases h
    exact hmem
  · rw [hname] at h
    cases h

/-- A class of a program from a file is printed unless an integer is too long, or it has a lone
surrogate. -/
theorem printed_cases {c : ProgramClass} (reached : Prepared host i source settings p s t)
    (hc : c ∈ p.classes) (h : printed host (collecting source settings) c = .error e) :
    (∃ long, e = .documents (.record (.number long)) ∧
      Dump.HasLongInteger t.files (Path.ofText source.program) host.surrogates) ∨
    ∃ fault, e = .output fault := by
  obtain ⟨found, hfound, hwrites⟩ :=
    Export.collection_of_load (collecting source settings) reached.read hc
  rw [printed, Export.document_of_collection hfound] at h
  cases hrender : Document.render found with
  | ok text =>
    rw [hrender, Except.mapError_ok, Except.mapError_ok, Except.ok_bind] at h
    split at h
    · cases h
    · rename_i fault hfault
      cases h
      exact .inr ⟨fault, rfl⟩
  | error e' =>
    obtain ⟨text, hwrite⟩ := Document.render_eq_error hrender
    obtain ⟨⟨long, rfl⟩, hlong⟩ := hwrites e' text hwrite
    rw [hrender] at h
    cases h
    exact .inl ⟨long, rfl, hlong⟩

theorem toOutput_ends {classes : Selection} (asks : i.job = .toOutput source classes)
    (s : Session) :
    Ends (toOutput host i source classes) s (fun _ _ => True) fun e _ => Met host i s e := by
  have hsource : i.job.source? = some source := by rw [asks]; rfl
  refine Ends.bind ((prepare_ends hsource s).mono ?_ fun _ _ h => h)
  rintro ⟨settings, p⟩ t hready
  refine Ends.bind (Work.ofExcept_ends (fun cs hcs => ?_) fun e he => ?_)
  · refine (Ends.forM fun c _ u => printClass_ends host (collecting source settings) c u).mono
      (fun _ _ _ => trivial) ?_
    rintro e u ⟨before, c, after, rfl, hbefore, hfault⟩
    have hc : c ∈ p.classes :=
      mem_of_selected hcs c (List.mem_append_right _ List.mem_cons_self)
    rcases printed_cases hready hc hfault with ⟨long, rfl, hlong⟩ | ⟨e', rfl⟩
    · exact .escapes (.tooLong asks hready hcs hbefore hfault hlong)
    · exact .escapes (.output asks hready hcs hbefore hfault)
  · rcases selected_cases p classes with ⟨cs, hcs, -⟩ | ⟨name, hname⟩
    · rw [hcs] at he
      cases he
    · rw [hname] at he
      cases he
      exact .told rfl

theorem serve_ends {address : Address} (asks : i.job = .serve address) (s : Session) :
    Ends (serve host i address) s (fun _ _ => True) fun e _ => Met host i s e := by
  refine Ends.bind (Work.wrap_ends ((Ends.result _ s).mono ?_ fun e t hjournal => ?_))
  · intro _ t hconfigured
    split
    · exact Ends.pure trivial
    · rename_i code hexited
      exact Ends.throw (.left asks hexited)
    · rename_i fault hraised
      exact Ends.throw (.escapes (.server asks hconfigured hraised))
  · have hjournals : Journals host i s {} := by
      rw [Journals, asks]
      rfl
    have hfile : logFile? i {} = pathGiven? i.logFile := Option.or_none
    rw [← hfile] at hjournal
    exact journal_met hjournals hjournal

/-- However an invocation fails, something is said, or nothing is prepared for it, or the server has
ended the program. -/
theorem perform_ends (host : Host) (i : Invocation) (s : Session) :
    Ends (perform host i) s (fun _ _ => True) fun e _ => Met host i s e := by
  unfold perform
  cases hjob : i.job with
  | toFiles source directory =>
    exact Ends.bind ((toFiles_ends hjob s).mono (fun _ _ _ => Ends.pure trivial) fun _ _ h => h)
  | toOutput source classes =>
    exact Ends.bind ((toOutput_ends hjob s).mono (fun _ _ _ => Ends.pure trivial) fun _ _ h => h)
  | serve address =>
    exact Ends.bind ((serve_ends hjob s).mono (fun _ _ _ => Ends.pure trivial) fun _ _ h => h)

/-! ## Whatever escapes breaks the command -/

theorem perform_of_exportAll {directory : Option String} {e : ExportError}
    (asks : i.job = .toFiles source directory) (reached : Prepared host i source settings p s t)
    (fault : exportAll host source settings directory p t = .error e u) :
    perform host i s = .error (.documents e) u :=
  perform_of_toFiles asks (Ends.bind_ok reached.prepare_eq
    (Ends.bind_error (Work.wrap_of_error fault)))

/-- Once the documents are written, the lines about them are printed. -/
theorem toFiles_eq {directory : Option String} {outcomes : List Outcome}
    (reached : Prepared host i source settings p s t)
    (exported : exportAll host source settings directory p t = .ok outcomes u) :
    toFiles host i source directory s =
      (outcomes.forM fun o => print host (outcomeLine u.files.workdir o)) u :=
  Ends.bind_ok reached.prepare_eq (Ends.bind_ok (Work.wrap_of_ok exported) (Ends.bind_ok rfl rfl))

/-- A failure of a class that is printed is that of the invocation. -/
theorem perform_of_printed {classes : Selection} {before after : List ProgramClass}
    {c : ProgramClass} (asks : i.job = .toOutput source classes)
    (reached : Prepared host i source settings p s t)
    (selects : selected p classes = .ok (before ++ c :: after))
    (earlier : ∀ b ∈ before, ∃ text, printed host (collecting source settings) b = .ok text)
    (fault : printed host (collecting source settings) c = .error e) :
    ∃ u, perform host i s = .error e u := by
  have hends := printClass_ends host (collecting source settings)
  obtain ⟨u, hrun⟩ : ∃ u, (before ++ c :: after).forM
      (printClass host (collecting source settings)) t = .error e u := by
    refine Ends.forM_error (fun b hb v => ?_) fun v => ?_
    · obtain ⟨text, htext⟩ := earlier b hb
      cases hr : printClass host (collecting source settings) b v with
      | ok _ w => exact ⟨w, rfl⟩
      | error e' w =>
        have he' := (hends b v).of_error hr
        rw [htext] at he'
        cases he'
    · cases hr : printClass host (collecting source settings) c v with
      | ok _ w =>
        obtain ⟨text, htext⟩ := (hends c v).of_ok hr
        rw [fault] at htext
        cases htext
      | error e' w =>
        have he' := (hends c v).of_error hr
        rw [fault] at he'
        cases he'
        exact ⟨w, rfl⟩
  have hselect : Work.ofExcept id (selected p classes) t = .ok (before ++ c :: after) t := by
    rw [selects]
    rfl
  exact ⟨u, perform_of_toOutput asks (Ends.bind_ok reached.prepare_eq (Ends.bind_ok hselect hrun))⟩

/-- An invocation that meets what nothing is prepared for fails so. -/
theorem Escapes.perform_eq (h : Escapes host i s e) : ∃ t, perform host i s = .error e t := by
  cases h with
  | @settings source e asks fault =>
    refine ⟨s, perform_of_prepare asks ?_⟩
    rw [prepare_eq, fault.load_eq]
  | @journal j path e files asks file fault =>
    cases hsource : i.job.source? with
    | some source =>
      rw [Journals, hsource] at asks
      obtain ⟨settings, hsettings, rfl⟩ := asks
      obtain ⟨t, hjournal⟩ :=
        Work.configureJournal_eq_error fault (i.verbose || settings.journal.verbose)
      refine ⟨t, perform_of_prepare hsource ?_⟩
      rw [prepare_eq, hsettings]
      dsimp only
      rw [file, hjournal]
    | none =>
      rw [Journals, hsource] at asks
      subst asks
      rw [logFile?, Option.or_none] at file
      obtain ⟨t, hjournal⟩ := Work.configureJournal_eq_error fault i.verbose
      rw [← file] at hjournal
      cases hjob : i.job with
      | serve address =>
        exact ⟨t, perform_of_serve hjob (Ends.bind_error (Work.wrap_of_error hjournal))⟩
      | _ =>
        rw [hjob] at hsource
        cases hsource
  | @unsure source settings t e asks reached fault =>
    have hload :=
      Dump.load_cases t.files (Path.ofText source.program) host.dumpStack host.surrogates
    rw [fault] at hload
    exact ⟨t, perform_of_prepare asks (reached.prepare_eq_error hload)⟩
  | @dump source settings t text e asks reached found content fault =>
    exact ⟨t, perform_of_prepare asks (reached.prepare_eq_error (fault.load_eq found content))⟩
  | file asks reached fault => exact ⟨_, perform_of_exportAll asks reached fault⟩
  | number asks reached fault long => exact ⟨_, perform_of_exportAll asks reached fault⟩
  | surrogate asks reached fault => exact ⟨_, perform_of_exportAll asks reached fault⟩
  | @line source directory settings p t u before after o e asks reached exported earlier fault =>
    have hloop : ∃ v, ((before ++ o :: after).forM fun o =>
        print host (outcomeLine u.files.workdir o)) u = .error (.output e) v := by
      refine Ends.forM_error (fun b hb v => ⟨_, print_eq_ok (earlier b hb) v⟩) fun v => ⟨v, ?_⟩
      rw [print, fault]
      rfl
    obtain ⟨v, hv⟩ := hloop
    exact ⟨v, perform_of_toFiles asks ((toFiles_eq reached exported).trans hv)⟩
  | tooLong asks reached selects earlier fault long =>
    exact perform_of_printed asks reached selects earlier fault
  | output asks reached selects earlier fault =>
    exact perform_of_printed asks reached selects earlier fault
  | @server address t fault asks configured raised =>
    refine ⟨t, perform_of_serve asks (Ends.bind_ok (Work.wrap_of_ok configured) ?_)⟩
    rw [raised]
    rfl

end

/-! ## Command lines -/

section

variable {host : Host} {args : List String} {i : Invocation} {s t : Session} {e : Failure}

/-- How a command line should end: with the code 0 where everything is done or help was asked for,
with the code 2 where its words make no sense, and with the code 1 where what they ask for fails.
Of the last two something is said on the console. A server may end the program with a code of its
own. -/
inductive Settles (host : Host) (args : List String) (s : Session) :
    Option Nat → Session → Prop where
  | done {i : Invocation} {address : Option Address} {t : Session}
    (asks : Invocation.ofArguments args = .ok i) (works : perform host i s = .ok address t) :
    Settles host args s (some 0) t
  | helped {speaker : String} (asks : Invocation.ofArguments args = .error (.help speaker)) :
    Settles host args s (some 0) s
  | misused {speaker : String} {e : UsageError}
    (asks : Invocation.ofArguments args = .error (.usage speaker e)) :
    Settles host args s (some 2) (say s s!"{speaker}: error: {e.message}\n")
  | failed {i : Invocation} {e : Failure} {t : Session} {text : String}
    (asks : Invocation.ofArguments args = .ok i) (fails : perform host i s = .error e t)
    (told : text ≠ "") : Settles host args s (some 1) (say t text)
  | left {i : Invocation} {address : Address} {code : Nat} {t : Session}
    (asks : Invocation.ofArguments args = .ok i) (serves : i.job = .serve address)
    (exits : host.serve address = .exited code)
    (fails : perform host i s = .error (.left code) t) : Settles host args s (some code) t

/-- A failure is told, or it breaks the command. -/
theorem run_of_perform_error (asks : Invocation.ofArguments args = .ok i)
    (h : perform host i s = .error e t) (hleft : ∀ code, e ≠ .left code) :
    run host args s = match e.report? i.job.verb with
      | some text => (.failed e, say t text)
      | none => (.broken e, t) := by
  rw [run, asks]
  dsimp only
  rw [h]
  cases e with
  | left code => exact absurd rfl (hleft code)
  | _ => rfl

/-- What nothing is prepared for breaks the command. -/
theorem Escapes.run_eq (asks : Invocation.ofArguments args = .ok i) (h : Escapes host i s e) :
    ∃ t, run host args s = (.broken e, t) := by
  obtain ⟨t, hperform⟩ := h.perform_eq
  refine ⟨t, ?_⟩
  rw [run_of_perform_error asks hperform h.ne_left, h.report_eq_none]

/-- A command line settles unless it meets what nothing is prepared for: then it breaks. -/
theorem run_settles_iff (host : Host) (args : List String) (s : Session) :
    (Settles host args s (run host args s).1.code? (run host args s).2 ↔
        ∀ i e, Invocation.ofArguments args = .ok i → ¬Escapes host i s e) ∧
      ∀ i e, Invocation.ofArguments args = .ok i → Escapes host i s e →
        ∃ t, run host args s = (.broken e, t) := by
  refine ⟨⟨fun h i e asks hescapes => ?_, fun h => ?_⟩, fun i e asks => Escapes.run_eq asks⟩
  · obtain ⟨t, hrun⟩ := hescapes.run_eq asks
    rw [hrun] at h
    cases h
  · cases hargs : Invocation.ofArguments args with
    | error halt =>
      rw [run, hargs]
      cases halt with
      | help speaker => exact .helped hargs
      | usage speaker e => exact .misused hargs
    | ok i =>
      cases hperform : perform host i s with
      | ok address t =>
        rw [run, hargs]
        dsimp only
        rw [hperform]
        exact .done hargs hperform
      | error e t =>
        cases (perform_ends host i s).of_error hperform with
        | told said =>
          have hleft : ∀ code, e ≠ .left code := by
            rintro code rfl
            cases said
          rw [run_of_perform_error hargs hperform hleft, said]
          exact .failed hargs hperform (report_ne_empty said)
        | escapes hescapes => exact absurd hescapes (h i e hargs)
        | left serves exits =>
          rw [run, hargs]
          dsimp only
          rw [hperform]
          exact .left hargs serves exits hperform

end

/-- The settings file beside the dump is no text. -/
def garbled : Session where
  files :=
    { entries := [(["work"], .directory),
        (["work", "p.yml"], .file (Text.Utf8.encode "\x7b\x7d".toList)),
        (["work", ".tagcollect.yml"], .file [0xFF])]
      workdir := ["work"] }

theorem run_settles_iff_garbled :
    let args := ["print", "p.yml"]
    ∃ i e t, Invocation.ofArguments args = .ok i ∧ Escapes {} i garbled e ∧
      run {} args garbled = (.broken e, t) ∧
      ¬Settles {} args garbled (run {} args garbled).1.code? (run {} args garbled).2 := by
  intro args
  have hargs : Invocation.ofArguments args =
      .ok ⟨false, none, .toOutput { program := "p.yml" } .all⟩ := by decide +kernel
  have hplace : Settings.locate garbled.files (settingsPath { program := "p.yml" }) =
      .ok ["work", ".tagcollect.yml"] := by decide +kernel
  have hfound : garbled.files.doesExist (.ofLocation ["work", ".tagcollect.yml"]) = .ok true := by
    decide +kernel
  have htext : garbled.files.readText (.ofLocation ["work", ".tagcollect.yml"]) =
      .error (.notUtf8 ⟨0, 0xFF, 1, .invalidStart⟩) := by decide +kernel
  have hescapes : Escapes {} ⟨false, none, .toOutput { program := "p.yml" } .all⟩ garbled _ :=
    .settings rfl (.unreadable hplace hfound htext)
  obtain ⟨hsettles, hbreaks⟩ := run_settles_iff {} args garbled
  obtain ⟨t, hrun⟩ := hbreaks _ _ hargs hescapes
  exact ⟨_, _, t, hargs, hescapes, hrun, fun h => hsettles.mp h _ _ hargs hescapes⟩

end ProgramTags.Command
