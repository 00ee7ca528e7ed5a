import ProgramTags.Proofs.Command.Outcomes
import ProgramTags.Proofs.Command.Quiet
import ProgramTags.Proofs.Export.Effect

/-!
# What commands print

A command that prints documents prints those of the classes that are selected, one after the other
(`Prints`). A command that writes them to files prints one line about each class once all are
written, and nothing if that fails (`Exports`).
-/

namespace ProgramTags

namespace Command

open Export (Renders Effect)

variable {host : Host} {args : List String} {i : Invocation} {source : Source}
  {settings : Settings} {p : Program} {s t u : Session}

/-! ## Classes that are selected -/

inductive Selects (p : Program) : Selection → List ProgramClass → Prop
  | all : Selects p .all p.classes
  | named (before : List ProgramClass) (c : ProgramClass) (after : List ProgramClass)
      (hclasses : p.classes = before ++ c :: after) (hfirst : ∀ b ∈ before, b.name ≠ c.name) :
      Selects p (.named c.name) [c]

theorem selects_iff {classes : Selection} {cs : List ProgramClass} :
    Selects p classes cs ↔ selected p classes = .ok cs := by
  constructor
  · rintro (_ | ⟨before, c, after, hclasses, hfirst⟩)
    · rfl
    · have hfind : p.findClass? c.name = some c := by
        rw [Program.findClass?, List.find?_eq_some_iff_append]
        exact ⟨by simp, before, after, hclasses, fun b hb => by simpa using hfirst b hb⟩
      simp only [selected, hfind]
  · intro h
    cases classes with
    | all =>
      cases h
      exact .all
    | unnamed => cases h
    | named name =>
      simp only [selected] at h
      cases hfind : p.findClass? name with
      | none =>
        rw [hfind] at h
        cases h
      | some c =>
        rw [hfind] at h
        cases h
        rw [Program.findClass?, List.find?_eq_some_iff_append] at hfind
        obtain ⟨hname, before, after, hclasses, hfirst⟩ := hfind
        obtain rfl : c.name = name := by simpa using hname
        exact .named before c after hclasses fun b hb => by simpa using hfirst b hb

/-! ## Documents that are printed -/

theorem printClass_eq {collect : CollectSettings} {c : ProgramClass} {text : String}
    (h : Renders collect c text) (hplain : host.surrogates.fault? text = none) (s : Session) :
    ∃ t, printClass host collect c s = .ok () t ∧ t.output = s.output ++ text := by
  obtain ⟨t, ht⟩ := h s
  have hquiet := (Export.render_quiet collect c s).of_ok ht
  exact ⟨_, Ends.bind_ok (Work.wrap_of_ok ht) (print_eq_ok hplain t),
    congrArg (· ++ text) hquiet.output⟩

/-- Documents are printed one after the other. -/
theorem printClasses_eq {collect : CollectSettings} {cs : List ProgramClass}
    (hplain : host.surrogates = .none) (h : ∀ c ∈ cs, ∃ text, Renders collect c text)
    (s : Session) :
    ∃ texts t, List.Forall₂ (Renders collect) cs texts ∧
      cs.forM (printClass host collect) s = .ok () t ∧
      t.output = s.output ++ String.join texts := by
  induction cs generalizing s with
  | nil => exact ⟨[], s, .nil, rfl, by rw [String.join_nil, String.append_empty]⟩
  | cons c cs ih =>
    obtain ⟨⟨text, htext⟩, hcs⟩ := List.forall_mem_cons.mp h
    have hfault : host.surrogates.fault? text = none := by
      rw [hplain, Text.Surrogates.fault?_none]
    obtain ⟨t, ht, houtput⟩ := printClass_eq htext hfault s
    obtain ⟨texts, u, htexts, hu, houtput'⟩ := ih hcs t
    refine ⟨text :: texts, u, .cons htext htexts, Ends.bind_ok ht hu, ?_⟩
    rw [houtput', houtput, String.join_cons, String.append_assoc]

/-- Lines are printed one after the other, and nothing else is done. -/
theorem printLines_eq (hplain : host.surrogates = .none) (workdir : Location)
    (outcomes : List Outcome) (s : Session) :
    (outcomes.forM fun o => print host (outcomeLine workdir o)) s = .ok () { s with
      output := s.output ++ String.join (outcomes.map (outcomeLine workdir)) } := by
  induction outcomes generalizing s with
  | nil =>
    rw [List.map_nil, String.join_nil, String.append_empty]
    rfl
  | cons o outcomes ih =>
    have hfault : host.surrogates.fault? (outcomeLine workdir o) = none := by
      rw [hplain, Text.Surrogates.fault?_none]
    refine Ends.bind_ok (print_eq_ok hfault s) ((ih _).trans ?_)
    rw [List.map_cons, String.join_cons, String.append_assoc]

/-! ## Runs -/

theorem run_of_perform_ok {address : Option Address} (asks : Invocation.ofArguments args = .ok i)
    (h : perform host i s = .ok address t) : run host args s = (.done address, t) := by
  rw [run, asks]
  dsimp only
  rw [h]

/-- A command that fails has said so on the console, or not at all, and does not print that. -/
theorem run_of_fails {e : Failure} (asks : Invocation.ofArguments args = .ok i)
    (h : perform host i s = .error e t) (hleft : ∀ code, e ≠ .left code) :
    (run host args s).1 = (if (e.report? i.job.verb).isSome then .failed e else .broken e) ∧
      (run host args s).2.output = t.output := by
  rw [run_of_perform_error asks h hleft]
  cases e.report? i.job.verb <;> exact ⟨rfl, rfl⟩

/-- What a command line that prints documents comes to. -/
structure Prints (source : Source) (settings : Settings) (p : Program) (classes : Selection)
    (s : Session) (ending : Ending) (t : Session) : Prop where
  selected : ∀ cs, Selects p classes cs → ending.code? = some 0 ∧
    ∃ texts, List.Forall₂ (Renders {
        includeBodies := settings.collect.includeBodies && !source.noBodies
        keys := settings.collect.keys && !source.noKeys }) cs texts ∧
      t.output = s.output ++ String.join texts
  missing : (∀ cs, ¬Selects p classes cs) → ending.code? = some 1 ∧ t.output = s.output

theorem run_prints {classes : Selection} (asks : Invocation.ofArguments args = .ok i)
    (ready : Ready host i source settings p s) (job : i.job = .toOutput source classes) :
    Prints source settings p classes s (run host args s).1 (run host args s).2 := by
  obtain ⟨u, hprepared, hquiet, -, hshort⟩ := ready.prepared
  refine ⟨fun cs hcs => ?_, fun hnone => ?_⟩
  · have hselected := selects_iff.mp hcs
    have heach : ∀ c ∈ cs, ∃ text, Renders (collecting source settings) c text := fun c hc =>
      Export.exists_renders_of_load _ hprepared.read hshort (mem_of_selected hselected c hc)
    obtain ⟨texts, v, htexts, hv, houtput⟩ := printClasses_eq ready.plain heach u
    have hselect : Work.ofExcept id (selected p classes) u = .ok cs u := by
      rw [hselected]
      rfl
    have hperform : perform host i s = .ok none v := by
      unfold perform
      rw [job]
      exact Ends.bind_ok (Ends.bind_ok hprepared.prepare_eq (Ends.bind_ok hselect hv)) rfl
    rw [run_of_perform_ok asks hperform]
    exact ⟨rfl, texts, htexts, by rw [houtput, hquiet.output]⟩
  · rcases selected_cases p classes with ⟨cs, hcs, -⟩ | ⟨name, hname⟩
    · exact absurd (selects_iff.mpr hcs) (hnone cs)
    · have hselect : Work.ofExcept id (selected p classes) u = .error (.unknownClass name) u := by
        rw [hname]
        rfl
      have hperform : perform host i s = .error (.unknownClass name) u :=
        perform_of_toOutput job (Ends.bind_ok hprepared.prepare_eq (Ends.bind_error hselect))
      obtain ⟨hending, houtput⟩ := run_of_fails asks hperform nofun
      rw [hending, houtput]
      exact ⟨rfl, hquiet.output⟩

/-! ## Lines about classes -/

/-- A path as it is shown, from the working directory on if it is inside of that. -/
def shown (workdir : Location) (path : Path) : String :=
  ((path.relativeTo? workdir).getD path).text

/-- The line tells what has become of the class: where its document is and how much is in it, or
that it has been skipped. -/
structure LineAbout (workdir : Location) (o : Outcome) (line : String) : Prop where
  skipped_iff : ": skipped (no tags)\n".toList <:+ line.toList ↔ o.path = none
  skipped : o.path = none → line = o.className ++ ": skipped (no tags)\n"
  written : ∀ path, o.path = some path → line =
    s!"{o.className}: {shown workdir path} ({o.attributes} attributes, {o.keys} keys)\n"

theorem outcomeLine_about (workdir : Location) (o : Outcome) :
    LineAbout workdir o (outcomeLine workdir o) := by
  obtain ⟨className, path?, attributes, keys⟩ := o
  cases path? with
  | none =>
    refine ⟨⟨fun _ => rfl, fun _ => ?_⟩, fun _ => rfl, nofun⟩
    rw [outcomeLine, String.toList_append]
    exact List.suffix_append _ _
  | some path =>
    have hend : " keys)\n".toList <:+
        (outcomeLine workdir ⟨className, some path, attributes, keys⟩).toList := by
      rw [outcomeLine, String.toList_append]
      exact List.suffix_append _ _
    -- one of the two endings would have to end in the other
    have hother : ¬" keys)\n".toList <:+ ": skipped (no tags)\n".toList := by decide
    refine ⟨⟨fun hskipped => absurd ?_ hother, nofun⟩, nofun, ?_⟩
    · exact List.suffix_of_suffix_length_le hend hskipped (by decide)
    · rintro _ ⟨⟩
      rfl

def targetDirectory (settings : Settings) : Option String → Path
  | none => settings.output.directory
  | some text => if text = "" then settings.output.directory else Path.ofText text

theorem pathGiven?_getD (settings : Settings) (directory : Option String) :
    (pathGiven? directory).getD settings.output.directory =
      targetDirectory settings directory := by
  cases directory with
  | none => rfl
  | some text =>
    by_cases htext : text = ""
    · subst htext
      rfl
    · have hgiven : pathGiven? (some text) = some (Path.ofText text) := by
        simp [pathGiven?, Option.filter, htext]
      rw [hgiven, targetDirectory, if_neg htext]
      rfl

theorem exportAll_eq (host : Host) (source : Source) (settings : Settings)
    (directory : Option String) (p : Program) :
    exportAll host source settings directory p =
      Export.program (collecting source settings) settings.output.skipEmpty
        (targetDirectory settings directory) p host.surrogates := by
  rw [exportAll, pathGiven?_getD]

/-- Once all classes are exported, the lines about them are printed. -/
theorem run_of_exportAll {directory : Option String} {outcomes : List Outcome}
    (hplain : host.surrogates = .none) (asks : Invocation.ofArguments args = .ok i)
    (job : i.job = .toFiles source directory) (reached : Prepared host i source settings p s t)
    (exported : exportAll host source settings directory p t = .ok outcomes u) :
    run host args s = (.done none,
      { u with output :=
          u.output ++ String.join (outcomes.map (outcomeLine u.files.workdir)) }) := by
  refine run_of_perform_ok asks ?_
  unfold perform
  rw [job]
  exact Ends.bind_ok ((toFiles_eq reached exported).trans (printLines_eq hplain _ _ u)) rfl

/-- What a command line that writes documents to files comes to. -/
structure Exports (host : Host) (i : Invocation) (source : Source) (settings : Settings)
    (p : Program) (directory : Option String) (s : Session) (ending : Ending) (t : Session) :
    Prop where
  done : ending.code? = some 0 → ∃ collect outcomes lines u v,
    collect = {
      includeBodies := settings.collect.includeBodies && !source.noBodies
      keys := settings.collect.keys && !source.noKeys } ∧
    Prepared host i source settings p s u ∧
    (Export.program collect settings.output.skipEmpty (targetDirectory settings directory) p) u =
      .ok outcomes v ∧
    Effect collect settings.output.skipEmpty (targetDirectory settings directory) p outcomes u v ∧
    t.files = v.files ∧
    List.Forall₂ (LineAbout s.files.workdir) outcomes lines ∧
    t.output = s.output ++ String.join lines
  failed : ending.code? ≠ some 0 → t.output = s.output

theorem run_exports {directory : Option String} (asks : Invocation.ofArguments args = .ok i)
    (ready : Ready host i source settings p s) (job : i.job = .toFiles source directory) :
    Exports host i source settings p directory s (run host args s).1 (run host args s).2 := by
  obtain ⟨u, hprepared, hquiet, hlogs, -⟩ := ready.prepared
  have hexports := Export.program_quiet (collecting source settings) settings.output.skipEmpty
    (targetDirectory settings directory) p .none u
  cases hexport : exportAll host source settings directory p u with
  | ok outcomes v =>
    rw [run_of_exportAll ready.plain asks job hprepared hexport]
    rw [exportAll_eq, ready.plain] at hexport
    have hv := hquiet.trans (hexports.of_ok hexport)
    refine ⟨fun _ => ⟨_, outcomes, outcomes.map (outcomeLine v.files.workdir), u, v, rfl, hprepared,
      hexport, Export.program_effect hlogs hexport, rfl, ?_, ?_⟩, fun h => absurd rfl h⟩
    · rw [List.forall₂_map_right_iff, List.forall₂_same, hv.workdir]
      exact fun o _ => outcomeLine_about _ o
    · exact congrArg (· ++ _) hv.output
  | error e v =>
    have hperform := perform_of_exportAll job hprepared hexport
    obtain ⟨hending, houtput⟩ := run_of_fails asks hperform nofun
    rw [exportAll_eq, ready.plain] at hexport
    have hv := hquiet.trans (hexports.of_error hexport)
    refine ⟨fun hcode => ?_, fun _ => houtput.trans hv.output⟩
    rw [hending] at hcode
    split at hcode <;> cases hcode

end Command

end ProgramTags
