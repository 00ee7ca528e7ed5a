import ProgramTags.Export
import ProgramTags.Proofs.Telling

/-!
# Runs of an export

`Wrote directory name path bytes s t`: from `s` to `t` the document of a class has been written into
`path`, which leads to a file directly in the directory as it was found in `s`. `Exported` and
`Stopped` say what the export of one class comes to when it succeeds and when it fails, and
`ExportedAll` strings successful ones together.
-/

namespace ProgramTags.Export

open FileSystem (Contained Grows Rewrites)
open Session (Tells)

variable {settings : CollectSettings} {skipEmpty : Bool} {directory : Path} {c : ProgramClass}

/-! ## Gathering -/

theorem gather_ends (start : Collection) (g : Gather Unit) (s : Session) :
    Ends (gather start g) s (fun found t => t = s ∧ g.run start = .ok () found)
      fun e t => t = s ∧ ∃ e' found, e = .gather e' ∧ g.run start = .error e' found := by
  unfold gather
  cases hr : g.run start with
  | ok a found => exact Ends.pure ⟨rfl, rfl⟩
  | error e found => exact Ends.throw ⟨rfl, e, found, rfl, rfl⟩

/-- Collecting gives the collection of the class and does no more than telling. -/
theorem collect_ends (settings : CollectSettings) (c : ProgramClass) (s : Session) :
    Ends (collect settings c) s
      (fun found t => collection settings c = .ok found ∧ Tells s t)
      fun e t => ∃ e', e = .gather e' ∧ collection settings c = .error e' ∧ Tells s t := by
  refine Work.inClass_ends (Ends.bind ((gather_ends _ _ _).mono ?_ ?_))
  · rintro first t ⟨rfl, hfirst⟩
    refine Ends.bind ((Work.tell_ends _ _).mono (fun _ t ht => ?_) fun _ _ h => h.elim)
    by_cases hkeys : settings.keys
    · simp only [hkeys, if_true]
      refine (gather_ends _ _ _).mono ?_ ?_
      · rintro found u ⟨rfl, hfound⟩
        refine ⟨?_, ht.leave⟩
        simp [collection, gathering, hfirst, hkeys, hfound]
      · rintro e u ⟨rfl, e', found, rfl, hfound⟩
        refine ⟨e', rfl, ?_, ht.leave⟩
        simp [collection, gathering, hfirst, hkeys, hfound]
    · simp only [hkeys, Bool.false_eq_true, if_false]
      refine Ends.pure ⟨?_, ht.leave⟩
      simp [collection, gathering, hfirst, hkeys]
  · rintro e t ⟨rfl, e', found, rfl, hrun⟩
    refine ⟨e', rfl, ?_, Tells.leave (.refl _)⟩
    simp [collection, gathering, hrun]

/-! ## Writing -/

theorem documentPath_none (fs : FileSystem) (directory : Path) (name : String) :
    documentPath fs directory name = match documentName? name with
      | none => .error (.noDocumentName name)
      | some document =>
        (fs.resolve (directory.child document)).mapError .file >>= fun loc =>
          (fs.resolve directory).mapError .file >>= fun above =>
            if loc.dropLast = above then .ok (directory.child document)
            else .error (.outside name directory.text) := by
  unfold documentPath
  simp only [FileSystem.encodable_none]
  rfl

/-- The path of a document is that of the directory and a name that leads directly into it. If there
is none, that has nothing to do with records. -/
theorem documentPath_cases (fs : FileSystem) (directory : Path) (name : String) :
    (∃ document loc, documentPath fs directory name = .ok (directory.child document) ∧
      documentName? name = some document ∧ fs.resolve (directory.child document) = .ok loc ∧
      fs.resolve directory = .ok loc.dropLast) ∨
    ∃ e, documentPath fs directory name = .error e ∧ ∀ e', e ≠ .record e' := by
  rw [documentPath_none]
  cases hname : documentName? name with
  | none => exact .inr ⟨_, rfl, nofun⟩
  | some document =>
    cases hpath : fs.resolve (directory.child document) with
    | error e =>
      refine .inr ⟨.file e, ?_, nofun⟩
      simp only [hpath]
      rfl
    | ok loc =>
      cases hdir : fs.resolve directory with
      | error e =>
        refine .inr ⟨.file e, ?_, nofun⟩
        simp only [hpath]
        rfl
      | ok above =>
        simp only [hpath, Except.mapError_ok, Except.ok_bind]
        by_cases heq : loc.dropLast = above
        · subst heq
          exact .inl ⟨document, loc, if_pos rfl, rfl, hpath, rfl⟩
        · exact .inr ⟨_, if_neg heq, nofun⟩

theorem documentPath_eq_ok {fs : FileSystem} {name : String} {path : Path}
    (h : documentPath fs directory name = .ok path) :
    ∃ document loc, documentName? name = some document ∧ path = directory.child document ∧
      fs.resolve path = .ok loc ∧ fs.resolve directory = .ok loc.dropLast := by
  rcases documentPath_cases fs directory name with
    ⟨document, loc, hok, hname, hpath, hdir⟩ | ⟨e, he, -⟩
  · rw [hok] at h
    cases h
    exact ⟨document, loc, hname, rfl, hpath, hdir⟩
  · rw [he] at h
    cases h

theorem documentPath_ne_record {fs : FileSystem} {name : String} {e : RenderError} :
    documentPath fs directory name ≠ .error (.record e) := by
  intro h
  rcases documentPath_cases fs directory name with ⟨document, loc, hok, -⟩ | ⟨e', he', hne⟩
  · rw [hok] at h
    cases h
  · rw [he'] at h
    exact hne e (Except.error.inj h)

/-- The path of a document has been its path before. -/
theorem documentPath_of_grows {fs gs : FileSystem} {name : String} {path : Path}
    (hg : Grows fs gs) (h : documentPath gs directory name = .ok path) :
    documentPath fs directory name = .ok path := by
  obtain ⟨document, loc, hname, rfl, hpath, hdir⟩ := documentPath_eq_ok h
  rw [documentPath_none]
  simp only [hname, FileSystem.resolve_of_grows hg hpath, FileSystem.resolve_of_grows hg hdir]
  exact if_pos rfl

/-- The file that the path leads to has been filled with the text. -/
def Filled (path : Path) (text : String) (s t : Session) : Prop :=
  t.journal = s.journal ∧ ∃ loc, Files.Opens s.files path loc ∧ Rewrites loc s.files t.files ∧
    t.files.get? loc = some (.file (Text.Utf8.encode text.toList))

/-- The file is filled with the document or, if a record cannot be shown, with what comes before. -/
theorem writeDocument_ends (path : Path) (found : Collection) (s : Session) :
    Ends (writeDocument path found) s
      (fun _ t => ∃ text, Document.render found = .ok text ∧ Filled path text s t)
      fun e t => (t = s ∧ ∃ e', e = .file e') ∨
        ∃ e' text, e = .record e' ∧ (Document.write found).run "" = .error e' text ∧
          Filled path text s t := by
  refine Ends.bind (Work.onFiles_ends ((Files.openFile_ends path s.files).mono ?_ ?_))
  · rintro loc gs ⟨hopens, hr⟩
    have hfilled : ∀ text : String, Filled path text s
        { s with files := gs.put loc (.file (Text.Utf8.encode text.toList)) } := by
      intro text
      refine ⟨rfl, loc, hopens, hr.trans (.put (.inr hr.after)), ?_⟩
      rw [FileSystem.get?_put _ hr.ne_nil, if_pos rfl]
    cases hw : (Document.write found).run "" with
    | ok _ text =>
      refine Ends.bind (Work.onFiles_ends (Ends.modify (Ends.pure ⟨text, ?_, hfilled text⟩)))
      simp [Document.render, Document.textOf, hw]
    | error e text =>
      refine Ends.bind (Work.onFiles_ends (Ends.modify (Ends.throw (.inr ?_))))
      exact ⟨e, text, rfl, rfl, hfilled text⟩
  · rintro e gs rfl
    exact .inl ⟨rfl, e, rfl⟩

/-- The document of a class has been written into `path`, which leads to a file directly in the
directory as it was found in `s`. -/
structure Wrote (directory : Path) (name : String) (path : Path) (bytes : List UInt8)
    (s t : Session) : Prop where
  checked : documentPath s.files directory name = .ok path
  journal : t.journal = s.journal
  written : ∃ loc, s.files.resolve path = .ok loc ∧ Contained directory (· = loc) s.files t.files ∧
    t.files.find path = .ok (.entry loc (.file bytes))

theorem Wrote.logsStand {name : String} {path : Path} {bytes : List UInt8} {s t : Session}
    (h : Wrote directory name path bytes s t) (hs : s.LogsStand) : t.LogsStand := by
  obtain ⟨loc, -, hcontained, -⟩ := h.written
  exact hs.of_grows (by rw [h.journal]) hcontained.grows

/-- What is filled after its path has been checked and its directory made is written. -/
theorem Filled.wrote {name : String} {path : Path} {text : String} {s t u : Session}
    (h : Filled path text t u) (hpath : documentPath s.files directory name = .ok path)
    (hj : t.journal = s.journal) (hmade : Contained directory (fun _ => False) s.files t.files) :
    Wrote directory name path (Text.Utf8.encode text.toList) s u := by
  obtain ⟨hj', loc, hopens, hr, hbytes⟩ := h
  obtain ⟨document, l, -, -, hresolve, -⟩ := documentPath_eq_ok hpath
  have hloc := hopens.eq_of_resolve hmade.grows hresolve
  subst hloc
  refine ⟨hpath, hj'.trans hj, loc, hresolve, ?_, hopens.find_eq hr.grows hbytes⟩
  exact (hmade.mono fun _ => False.elim).trans (.of_rewrites hr rfl)

/-! ## One class -/

/-- What the export of a class leaves when it succeeds: nothing but what has been told if it is
skipped, otherwise its document. -/
inductive Exported (settings : CollectSettings) (skipEmpty : Bool) (directory : Path)
    (c : ProgramClass) (s t : Session) : Outcome → Prop
  | skipped (found : Collection) (hfound : collection settings c = .ok found)
      (hskip : (found.isEmpty && skipEmpty) = true) (htold : Tells s t) :
      Exported settings skipEmpty directory c s t
        ⟨c.name, none, found.attributes.length, found.keys.length⟩
  | written (found : Collection) (path : Path) (text : String) (u v : Session)
      (hfound : collection settings c = .ok found)
      (hskip : (found.isEmpty && skipEmpty) = false) (hcollect : Tells s u)
      (htext : Document.render found = .ok text)
      (hwrote : Wrote directory c.name path (Text.Utf8.encode text.toList) u v)
      (htold : Tells v t) :
      Exported settings skipEmpty directory c s t
        ⟨c.name, some path, found.attributes.length, found.keys.length⟩

/-- What it leaves when it fails: what has been told, the directory, or part of a document. -/
inductive Stopped (settings : CollectSettings) (skipEmpty : Bool) (directory : Path)
    (c : ProgramClass) (s t : Session) : ExportError → Prop
  | gather (e : GatherError) (hfound : collection settings c = .error e) (htold : Tells s t) :
      Stopped settings skipEmpty directory c s t (.gather e)
  | path (e : ExportError) (hpath : documentPath t.files directory c.name = .error e)
      (htold : Tells s t) : Stopped settings skipEmpty directory c s t e
  | file (e : FileError) (path : Path) (u : Session) (hcollect : Tells s u)
      (hpath : documentPath u.files directory c.name = .ok path) (hj : t.journal = u.journal)
      (hmade : Contained directory (fun _ => False) u.files t.files) :
      Stopped settings skipEmpty directory c s t (.file e)
  | record (found : Collection) (e : RenderError) (path : Path) (text : String) (u : Session)
      (hfound : collection settings c = .ok found)
      (hskip : (found.isEmpty && skipEmpty) = false) (hcollect : Tells s u)
      (htext : (Document.write found).run "" = .error e text)
      (hwrote : Wrote directory c.name path (Text.Utf8.encode text.toList) u t) :
      Stopped settings skipEmpty directory c s t (.record e)

theorem programClass_ends (settings : CollectSettings) (skipEmpty : Bool) (directory : Path)
    (c : ProgramClass) (s : Session) :
    Ends (programClass settings skipEmpty directory c) s
      (fun o t => Exported settings skipEmpty directory c s t o)
      fun e t => Stopped settings skipEmpty directory c s t e := by
  refine Ends.bind ((collect_ends settings c s).mono ?_ ?_)
  · rintro found u ⟨hfound, hcollect⟩
    by_cases hskip : (found.isEmpty && skipEmpty) = true
    · simp only [hskip, if_true]
      refine Ends.bind ((Work.tell_ends _ u).mono (fun _ t ht => ?_) fun _ _ h => h.elim)
      exact Ends.pure (.skipped found hfound hskip (hcollect.trans ht))
    · rw [Bool.not_eq_true] at hskip
      simp only [hskip, Bool.false_eq_true, if_false]
      refine Ends.bind (Ends.get (Ends.bind (Work.ofExcept_ends ?_ ?_)))
      · intro path hpath
        have hmake := Files.ensureDirectories_contained directory (fun _ => False) u.files
        refine Ends.bind (Work.onFiles_ends (hmake.mono ?_ fun e gs hmade => ?_))
        · intro _ gs hmade
          refine Ends.bind ((writeDocument_ends path found _).mono ?_ ?_)
          · rintro _ v ⟨text, htext, hfilled⟩
            refine Ends.bind ((Work.tell_ends _ v).mono (fun _ t ht => ?_) fun _ _ h => h.elim)
            exact Ends.pure (.written found path text u v hfound hskip hcollect htext
              (hfilled.wrote hpath rfl hmade) ht)
          · rintro e t (⟨rfl, e', rfl⟩ | ⟨e', text, rfl, hrun, hfilled⟩)
            · exact .file e' path u hcollect hpath rfl hmade
            · exact .record found e' path text u hfound hskip hcollect hrun
                (hfilled.wrote hpath rfl hmade)
        · exact .file e path u hcollect hpath rfl hmade
      · intro e hpath
        exact .path e hpath hcollect
  · rintro e t ⟨e', rfl, hfound, htold⟩
    exact .gather e' hfound htold

/-! ## All classes -/

/-- The classes have been exported one after the other, with these outcomes. -/
inductive ExportedAll (settings : CollectSettings) (skipEmpty : Bool) (directory : Path) :
    Session → List ProgramClass → List Outcome → Session → Prop
  | nil (s : Session) : ExportedAll settings skipEmpty directory s [] [] s
  | cons {s t u : Session} {c : ProgramClass} {cs : List ProgramClass} {o : Outcome}
      {os : List Outcome} (h : Exported settings skipEmpty directory c s t o)
      (hrest : ExportedAll settings skipEmpty directory t cs os u) :
      ExportedAll settings skipEmpty directory s (c :: cs) (o :: os) u

theorem mapM_eq_ok {classes : List ProgramClass} {outcomes : List Outcome} {s t : Session}
    (h : classes.mapM (programClass settings skipEmpty directory ·) s = .ok outcomes t) :
    ExportedAll settings skipEmpty directory s classes outcomes t := by
  induction classes generalizing s outcomes with
  | nil =>
    cases h
    exact .nil _
  | cons c classes ih =>
    rw [List.mapM_cons] at h
    obtain ⟨o, u, hfirst, h⟩ := Ends.bind_eq_ok h
    obtain ⟨os, v, hrest, h⟩ := Ends.bind_eq_ok h
    cases h
    exact .cons ((programClass_ends settings skipEmpty directory c s).of_ok hfirst) (ih hrest)

/-- An export that succeeds has exported all classes and told so. -/
theorem program_eq_ok {p : Program} {outcomes : List Outcome} {s t : Session}
    (h : (program settings skipEmpty directory p) s = .ok outcomes t) :
    ∃ u, ExportedAll settings skipEmpty directory s p.classes outcomes u ∧ Tells u t := by
  obtain ⟨os, u, hrun, h⟩ := Ends.bind_eq_ok h
  obtain ⟨_, v, htell, h⟩ := Ends.bind_eq_ok h
  cases h
  exact ⟨u, mapM_eq_ok hrun, (Work.tell_ends _ u).of_ok htell⟩

/-- An export that fails has exported the classes before the one that stops it. -/
theorem program_eq_error {p : Program} {e : ExportError} {s t : Session}
    (h : (program settings skipEmpty directory p) s = .error e t) :
    ∃ before c after outcomes u, p.classes = before ++ c :: after ∧
      before.mapM (programClass settings skipEmpty directory ·) s = .ok outcomes u ∧
      ExportedAll settings skipEmpty directory s before outcomes u ∧
      Stopped settings skipEmpty directory c u t e := by
  rcases Ends.bind_eq_error h with h | ⟨outcomes, v, -, h⟩
  · obtain ⟨before, c, after, outcomes, u, hp, hbefore, hc⟩ := Ends.mapM_eq_error h
    have hstopped := (programClass_ends settings skipEmpty directory c u).of_error hc
    exact ⟨before, c, after, outcomes, u, hp, hbefore, mapM_eq_ok hbefore, hstopped⟩
  · cases h

end ProgramTags.Export
