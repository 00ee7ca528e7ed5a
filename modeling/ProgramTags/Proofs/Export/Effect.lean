import ProgramTags.Proofs.Export.Documents

/-!
# What a successful export has done

The outcomes of an export tell of every class, in the order of the program (`Reported`). The path of
an outcome leads to the same location before the export as afterwards (`ExportedAll.arrives`), and
these locations and the logs are the only files that have changed: each holds the document of the
last class that was written to it. `Effect` puts this together.
-/

namespace ProgramTags

open FileSystem (Contained Grows)
open Session (Tells)

namespace Outcome

variable {o : Outcome} {fs gs : FileSystem} {loc l : Location}

def LeadsTo (o : Outcome) (fs : FileSystem) (loc : Location) : Prop :=
  ∃ path, o.path = some path ∧ fs.resolve path = .ok loc

namespace LeadsTo

theorem unique (h : o.LeadsTo fs loc) (h' : o.LeadsTo fs l) : loc = l := by
  obtain ⟨path, hpath, hresolve⟩ := h
  obtain ⟨path', hpath', hresolve'⟩ := h'
  rw [hpath] at hpath'
  cases hpath'
  rw [hresolve] at hresolve'
  exact Except.ok.inj hresolve'

theorem of_grows (hg : Grows fs gs) (h : o.LeadsTo gs loc) : o.LeadsTo fs loc := by
  obtain ⟨path, hpath, hresolve⟩ := h
  exact ⟨path, hpath, FileSystem.resolve_of_grows hg hresolve⟩

theorem written (h : o.LeadsTo fs loc) : o.written := by
  obtain ⟨path, hpath, -⟩ := h
  rw [Outcome.written, hpath]
  rfl

end LeadsTo

theorem written_of_location? (h : o.location? fs = some loc) : o.written := by
  obtain ⟨path, -, hpath, -⟩ := Export.location?_eq_some.mp h
  rw [written, hpath]
  rfl

end Outcome

namespace Export

variable {settings : CollectSettings} {skipEmpty : Bool} {directory : Path} {c : ProgramClass}
  {fs gs : FileSystem} {s t u : Session} {o : Outcome} {loc : Location}

/-! ## Reports -/

/-- A class that is skipped is skipped in every session, and that is told. -/
theorem programClass_skipped {found : Collection} (hfound : collection settings c = .ok found)
    (hskip : (found.isEmpty && skipEmpty) = true) (s : Session) :
    ∃ t, (programClass settings skipEmpty directory c) s =
      .ok ⟨c.name, none, found.attributes.length, found.keys.length⟩ t ∧ Tells s t := by
  have hends : Ends (programClass settings skipEmpty directory c) s
      (fun o t => o = ⟨c.name, none, found.attributes.length, found.keys.length⟩ ∧ Tells s t)
      fun _ _ => False := by
    refine Ends.bind ((collect_ends settings c s).mono ?_ ?_)
    · rintro found' u ⟨hfound', hcollect⟩
      rw [hfound] at hfound'
      cases hfound'
      simp only [hskip, if_true]
      refine Ends.bind ((Work.tell_ends _ u).mono (fun _ t ht => ?_) fun _ _ h => h)
      exact Ends.pure ⟨rfl, hcollect.trans ht⟩
    · rintro e u ⟨e', -, hfailed, -⟩
      rw [hfound] at hfailed
      cases hfailed
  obtain ⟨o, t, hr, rfl, htold⟩ := hends.exists_ok
  exact ⟨t, hr, htold⟩

/-- The outcome tells what has become of the class. A class without a path has been skipped, and it
would have been under any name. -/
structure Reported (settings : CollectSettings) (skipEmpty : Bool) (directory : Path)
    (c : ProgramClass) (o : Outcome) : Prop where
  className : o.className = c.name
  counts : ∃ found, collection settings c = .ok found ∧
    o.attributes = found.attributes.length ∧ o.keys = found.keys.length
  skipped_iff : o.path = none ↔ skipEmpty = true ∧ o.attributes = 0 ∧ o.keys = 0
  named : ∀ path, o.path = some path →
    ∃ document, documentName? c.name = some document ∧ path = directory.child document
  unchecked : o.path = none → ∀ name s, ∃ t,
    (programClass settings skipEmpty directory { c with name }) s =
      .ok { o with className := name } t ∧ Tells s t

theorem Exported.reported (h : Exported settings skipEmpty directory c s t o) :
    Reported settings skipEmpty directory c o := by
  cases h with
  | skipped found hfound hskip htold =>
    refine ⟨rfl, ⟨found, hfound, rfl, rfl⟩, ?_, nofun, fun _ name s => ?_⟩
    · have hempty := hskip
      simp only [Collection.isEmpty, Bool.and_eq_true, List.isEmpty_iff] at hempty
      simp [hempty]
    · have hrenamed : collection settings { c with name } = .ok found := hfound
      exact programClass_skipped hrenamed hskip s
  | written found path text u v hfound hskip hcollect htext hwrote htold =>
    obtain ⟨document, l, hname, hpath, -⟩ := documentPath_eq_ok hwrote.checked
    refine ⟨rfl, ⟨found, hfound, rfl, rfl⟩, ⟨nofun, ?_⟩, ?_, nofun⟩
    · rintro ⟨rfl, hattributes, hkeys⟩
      have hempty : found.isEmpty = true := by
        simp [Collection.isEmpty, List.length_eq_zero_iff.mp hattributes,
          List.length_eq_zero_iff.mp hkeys]
      rw [hempty] at hskip
      cases hskip
    · rintro _ ⟨⟩
      exact ⟨document, hname, hpath⟩

/-- What is reported of a class is determined by it. -/
theorem Reported.unique {o o' : Outcome} (h : Reported settings skipEmpty directory c o)
    (h' : Reported settings skipEmpty directory c o') : o = o' := by
  obtain ⟨found, hfound, hattributes, hkeys⟩ := h.counts
  obtain ⟨found', hfound', hattributes', hkeys'⟩ := h'.counts
  rw [hfound] at hfound'
  cases hfound'
  have hsame : o.attributes = o'.attributes := hattributes.trans hattributes'.symm
  have hsame' : o.keys = o'.keys := hkeys.trans hkeys'.symm
  have hskip : o.path = none ↔ o'.path = none := by
    rw [h.skipped_iff, h'.skipped_iff, hsame, hsame']
  have hpath : o.path = o'.path := by
    cases ho : o.path with
    | none => exact (hskip.mp ho).symm
    | some path =>
      cases ho' : o'.path with
      | none => rw [hskip.mpr ho'] at ho; cases ho
      | some path' =>
        obtain ⟨document, hdocument, rfl⟩ := h.named path ho
        obtain ⟨document', hdocument', rfl⟩ := h'.named path' ho'
        rw [hdocument] at hdocument'
        cases hdocument'
        rfl
  have hname : o.className = o'.className := h.className.trans h'.className.symm
  cases o
  cases o'
  simp_all

/-! ## One class -/

/-- A class that is written is found afterwards where its path has led before. -/
theorem Exported.arrives (h : Exported settings skipEmpty directory c s t o) (hs : s.LogsStand)
    (hg : Grows t.files fs) (ho : o.written) :
    ∃ loc, o.LeadsTo s.files loc ∧ o.location? fs = some loc := by
  cases h with
  | skipped found hfound hskip htold => cases ho
  | written found path text u v hfound hskip hcollect htext hwrote htold =>
    obtain ⟨loc, hresolve, hcontained, hfind⟩ := hwrote.written
    have hv := hwrote.logsStand (hcollect.logsStand hs)
    refine ⟨loc, ⟨path, rfl, FileSystem.resolve_of_grows (hcollect.grows hs) hresolve⟩, ?_⟩
    refine location?_grows ((htold.grows hv).trans hg) ?_
    exact location?_eq_some.mpr ⟨path, _, rfl, hfind⟩

/-- The files that may have changed from `s` on are logs and those that the outcomes lead to. -/
def Touched (s : Session) (outcomes : List Outcome) (loc : Location) : Prop :=
  s.IsLog loc ∨ ∃ o ∈ outcomes, o.LeadsTo s.files loc

theorem Touched.of_grows {outcomes : List Outcome} (h : Touched t outcomes loc)
    (hh : t.journal.handlers = s.journal.handlers) (hg : Grows s.files t.files) :
    Touched s outcomes loc := by
  rcases h with hlog | ⟨o, hmem, hleads⟩
  · rw [Session.isLog_of_handlers hh] at hlog
    exact .inl hlog
  · exact .inr ⟨o, hmem, .of_grows hg hleads⟩

theorem touched_of_tells {outcomes : List Outcome} (h : Tells t u) (ht : t.LogsStand)
    (hh : t.journal.handlers = s.journal.handlers) :
    Contained directory (Touched s outcomes) t.files u.files := by
  refine (h.contained ht directory).mono fun loc hlog => .inl ?_
  rwa [Session.isLog_of_handlers hh] at hlog

theorem Exported.touched (h : Exported settings skipEmpty directory c s t o) (hs : s.LogsStand) :
    Contained directory (Touched s [o]) s.files t.files := by
  cases h with
  | skipped found hfound hskip htold => exact touched_of_tells htold hs rfl
  | written found path text u v hfound hskip hcollect htext hwrote htold =>
    obtain ⟨loc, hresolve, hcontained, -⟩ := hwrote.written
    have hv := hwrote.logsStand (hcollect.logsStand hs)
    have hleads := FileSystem.resolve_of_grows (hcollect.grows hs) hresolve
    have hhandlers : v.journal.handlers = s.journal.handlers := by
      rw [hwrote.journal, hcollect.handlers]
    have hthen : Contained directory
        (Touched s [⟨c.name, some path, found.attributes.length, found.keys.length⟩])
        u.files v.files := by
      refine hcontained.mono ?_
      rintro _ rfl
      exact .inr ⟨_, List.mem_singleton_self _, path, rfl, hleads⟩
    exact (touched_of_tells hcollect hs rfl).trans
      (hthen.trans (touched_of_tells htold hv hhandlers))

/-! ## All classes -/

variable {classes : List ProgramClass} {outcomes : List Outcome}

theorem ExportedAll.reported
    (h : ExportedAll settings skipEmpty directory s classes outcomes t) :
    List.Forall₂ (Reported settings skipEmpty directory) classes outcomes := by
  induction h with
  | nil => exact .nil
  | cons h _ ih => exact .cons h.reported ih

theorem ExportedAll.arrives (h : ExportedAll settings skipEmpty directory s classes outcomes t)
    (hs : s.LogsStand) (hg : Grows t.files fs) :
    ∀ o ∈ outcomes, o.written → ∃ loc, o.LeadsTo s.files loc ∧ o.location? fs = some loc := by
  induction h with
  | nil => exact nofun
  | cons h hrest ih =>
    have hu := h.stays.logsStand hs
    intro o ho hw
    rcases List.mem_cons.mp ho with rfl | ho
    · exact h.arrives hs ((hrest.stays.grows hu).trans hg) hw
    · obtain ⟨loc, hleads, hat⟩ := ih hu hg o ho hw
      exact ⟨loc, .of_grows (h.stays.grows hs) hleads, hat⟩

theorem ExportedAll.touched (h : ExportedAll settings skipEmpty directory s classes outcomes t)
    (hs : s.LogsStand) : Contained directory (Touched s outcomes) s.files t.files := by
  induction h with
  | nil s => exact .refl directory _ s.files
  | @cons s u t c cs o os h _ ih =>
    have hfirst : Contained directory (Touched s (o :: os)) s.files u.files := by
      refine (h.touched hs).mono fun loc hloc => ?_
      rcases hloc with hlog | ⟨o', hmem, hleads⟩
      · exact .inl hlog
      · rw [List.mem_singleton.mp hmem] at hleads
        exact .inr ⟨o, .head _, hleads⟩
    have hthen : Contained directory (Touched s (o :: os)) u.files t.files := by
      refine (ih (h.stays.logsStand hs)).mono fun loc hloc => ?_
      rcases hloc.of_grows h.stays.handlers (h.stays.grows hs) with hlog | ⟨o', hmem, hleads⟩
      · exact .inl hlog
      · exact .inr ⟨o', .tail _ hmem, hleads⟩
    exact hfirst.trans hthen

/-- An export in which every class is skipped does no more than telling. -/
theorem ExportedAll.tells (h : ExportedAll settings skipEmpty directory s classes outcomes t)
    (hskipped : ∀ o ∈ outcomes, o.path = none) : Tells s t := by
  induction h with
  | nil s => exact .refl s
  | cons h _ ih =>
    have hrest := ih fun o ho => hskipped o (.tail _ ho)
    have hfirst := hskipped _ (.head _)
    cases h with
    | skipped found hfound hskip htold => exact htold.trans hrest
    | written => cases hfirst

/-- The last class of a list that leads to a location. -/
theorem lastAt_append {before after : List (ProgramClass × Outcome)}
    (ho : o.location? fs = some loc) (hafter : ∀ x ∈ after, x.2.location? fs ≠ some loc) :
    lastAt fs loc (before ++ (c, o) :: after) = some c := by
  have hnone : after.filter (fun x => x.2.location? fs = some loc) = [] :=
    List.filter_eq_nil_iff.mpr fun x hx => by simpa using hafter x hx
  rw [lastAt, List.filter_append, List.filter_cons_of_pos (by simpa using ho), hnone,
    List.getLast?_append]
  rfl

/-! ## The whole export -/

variable {p : Program}

/-- What an export from `s` to `t` that succeeds with these outcomes has done. -/
structure Effect (settings : CollectSettings) (skipEmpty : Bool) (directory : Path) (p : Program)
    (outcomes : List Outcome) (s t : Session) : Prop where
  /-- Each class has its outcome, in the order of the program. -/
  reported : List.Forall₂ (Reported settings skipEmpty directory) p.classes outcomes
  /-- What is written is found where its path has led. -/
  arrives : ∀ o ∈ outcomes, o.written →
    ∃ loc, o.LeadsTo s.files loc ∧ o.location? t.files = some loc
  /-- No other file has changed, but for logs, and nothing else has been made but directories on the
  way to the documents. -/
  touched : Contained directory (Touched s outcomes) s.files t.files
  /-- Where documents are written, that of the last class is left. -/
  last : ∀ before c o after loc, p.classes.zip outcomes = before ++ (c, o) :: after →
    o.LeadsTo s.files loc → (∀ x ∈ after, ¬x.2.LeadsTo s.files loc) → ¬s.IsLog loc →
    ∃ text, Renders settings c text ∧
      t.files.get? loc = some (.file (Text.Utf8.encode text.toList))
  /-- If nothing is written, nothing has been made either. -/
  skipped : (∀ o ∈ outcomes, o.path = none) →
    ∀ loc, ¬s.IsLog loc → t.files.get? loc = s.files.get? loc

theorem program_effect (hs : s.LogsStand)
    (h : (program settings skipEmpty directory p) s = .ok outcomes t) :
    Effect settings skipEmpty directory p outcomes s t := by
  obtain ⟨u, hrun, htold⟩ := program_eq_ok h
  have hu := hrun.stays.logsStand hs
  have harrives := hrun.arrives hs (htold.grows hu)
  refine ⟨hrun.reported, harrives, ?_, ?_, fun hskipped loc hloc => ?_⟩
  · exact (hrun.touched hs).trans (touched_of_tells htold hu hrun.stays.handlers)
  · intro before c o after loc hsplit hleads hafter hloc
    have hmem : ∀ x ∈ (c, o) :: after, x.2 ∈ outcomes := fun x hx => by
      have hzip : x ∈ p.classes.zip outcomes := hsplit ▸ List.mem_append_right before hx
      exact (List.of_mem_zip hzip).2
    have hat : o.location? t.files = some loc := by
      obtain ⟨l, hl, hat⟩ := harrives o (hmem _ (.head _)) hleads.written
      rwa [hl.unique hleads] at hat
    have hlast : lastAt t.files loc (p.classes.zip outcomes) = some c := by
      rw [hsplit]
      refine lastAt_append hat fun x hx hxat => hafter x hx ?_
      obtain ⟨l, hl, hxl⟩ := harrives x.2 (hmem _ (.tail _ hx))
        (Outcome.written_of_location? hxat)
      rw [hxat] at hxl
      cases hxl
      exact hl
    exact program_last hs h hloc hlast
  · have htells := (hrun.tells hskipped).trans htold
    exact htells.elsewhere loc hloc

/-- The documents of two of the classes are one file, and no document can have the name of the
other class. -/
def overlapping : Program :=
  ⟨[⟨"A", [.text "a" ""], [], []⟩, ⟨"../B", [.sourceFile "B.java"], [], []⟩,
    ⟨"B", [.text "b" ""], [], []⟩]⟩

/-- A link leads from one document to the other, and the file there is longer than both. -/
def occupied : Session where
  files :=
    { entries := [(["out"], .directory), (["out", "A.xml"], .link "B.xml"),
        (["out", "B.xml"], .file (List.replicate 400 0))] }

/-- The class without tags is skipped, and the document of the last class is left alone. -/
theorem program_effect_overlapping :
    ∃ outcomes t, (program {} true ⟨.relative, ["out"]⟩ overlapping) occupied = .ok outcomes t ∧
      occupied.LogsStand ∧
      Effect {} true ⟨.relative, ["out"]⟩ overlapping outcomes occupied t ∧
      outcomes.map (·.path.map Path.text) = [some "out/A.xml", none, some "out/B.xml"] ∧
      t.files.get? ["out", "B.xml"] =
        some (.file (Text.Utf8.encode (textDocument "b").toList)) := by
  have hlogs : occupied.LogsStand := by
    rintro loc ⟨handler, hmem, -⟩
    cases hmem
  have hrun : (match (program {} true ⟨.relative, ["out"]⟩ overlapping) occupied with
      | .ok outcomes t =>
        some (outcomes.map (·.path.map Path.text), t.files.get? ["out", "B.xml"])
      | .error _ _ => none) =
      some ([some "out/A.xml", none, some "out/B.xml"],
        some (.file (Text.Utf8.encode (textDocument "b").toList))) := by
    decide +kernel
  cases hr : (program {} true ⟨.relative, ["out"]⟩ overlapping) occupied with
  | error e t => rw [hr] at hrun; cases hrun
  | ok outcomes t =>
    rw [hr] at hrun
    obtain ⟨hpaths, hleft⟩ := Prod.mk.inj (Option.some.inj hrun)
    exact ⟨outcomes, t, rfl, hlogs, program_effect hlogs hr, hpaths, hleft⟩

end Export

end ProgramTags
