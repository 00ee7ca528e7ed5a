import ProgramTags.Proofs.Export.Run

/-!
# Exports stay in their directory

However an export ends, it has changed files directly in its directory and log files, and made the
directory and directories above it that were missing; nothing else. `Session.Stays` is what each
step keeps to, and since it is a preorder, so does the whole export.
-/

namespace ProgramTags

open FileSystem (Contained Grows)

def FileSystem.IsIn (fs : FileSystem) (directory : Path) (loc : Location) : Prop :=
  ∃ above name, fs.resolve directory = .ok above ∧ loc = above ++ [name]

/-- What is in the directory has been in it before. -/
theorem FileSystem.IsIn.of_grows {fs gs : FileSystem} {directory : Path} {loc : Location}
    (h : gs.IsIn directory loc) (hg : Grows fs gs) : fs.IsIn directory loc := by
  obtain ⟨above, name, hdir, hloc⟩ := h
  exact ⟨above, name, resolve_of_grows hg hdir, hloc⟩

/-- A document that has been written is in the directory. -/
theorem Export.Wrote.isIn {directory path : Path} {name : String} {bytes : List UInt8}
    {s t : Session} (h : Wrote directory name path bytes s t) :
    ∃ loc, Contained directory (· = loc) s.files t.files ∧
      t.files.find path = .ok (.entry loc (.file bytes)) ∧ s.files.IsIn directory loc := by
  obtain ⟨loc, hresolve, hcontained, hfind⟩ := h.written
  obtain ⟨document, l, -, -, hresolve', hdir⟩ := documentPath_eq_ok h.checked
  rw [hresolve] at hresolve'
  cases hresolve'
  have hne : loc ≠ [] := FileSystem.ne_nil_of_get? (.inr (FileSystem.find_isAt hfind)) nofun
  refine ⟨loc, hcontained, hfind, loc.dropLast, loc.getLast hne, hdir, ?_⟩
  exact (List.dropLast_append_getLast hne).symm

namespace Session

/-- An export into the directory may write to the file at the location. -/
def MayWrite (s : Session) (directory : Path) (loc : Location) : Prop :=
  s.IsLog loc ∨ s.files.IsIn directory loc

/-- What an export into the directory keeps to. -/
structure Stays (directory : Path) (s t : Session) : Prop where
  handlers : t.journal.handlers = s.journal.handlers
  contained : s.LogsStand → Contained directory (s.MayWrite directory) s.files t.files

variable {directory : Path} {s t u : Session}

/-- Nothing more may be written later. -/
theorem MayWrite.of_grows {loc : Location} (h : t.MayWrite directory loc)
    (hh : t.journal.handlers = s.journal.handlers) (hg : Grows s.files t.files) :
    s.MayWrite directory loc := by
  rcases h with hlog | hin
  · rw [isLog_of_handlers hh] at hlog
    exact .inl hlog
  · exact .inr (hin.of_grows hg)

namespace Stays

theorem refl (directory : Path) (s : Session) : Stays directory s s :=
  ⟨rfl, fun _ => .refl directory _ s.files⟩

theorem trans (h : Stays directory s t) (h' : Stays directory t u) : Stays directory s u := by
  refine ⟨h'.handlers.trans h.handlers, fun hs => ?_⟩
  have hfirst := h.contained hs
  have hthen := h'.contained (hs.of_grows h.handlers hfirst.grows)
  exact hfirst.trans (hthen.mono fun loc hw => hw.of_grows h.handlers hfirst.grows)

instance : IsPreorder Session (Stays directory) where
  refl := Stays.refl directory
  trans _ _ _ := Stays.trans

theorem grows (h : Stays directory s t) (hs : s.LogsStand) : Grows s.files t.files :=
  (h.contained hs).grows

theorem logsStand (h : Stays directory s t) (hs : s.LogsStand) : t.LogsStand :=
  hs.of_grows h.handlers (h.grows hs)

theorem of_tells (h : Tells s t) : Stays directory s t :=
  ⟨h.handlers, fun hs => (h.contained hs directory).mono fun _ => .inl⟩

theorem of_wrote {name : String} {path : Path} {bytes : List UInt8}
    (h : Export.Wrote directory name path bytes s t) : Stays directory s t := by
  refine ⟨by rw [h.journal], fun _ => ?_⟩
  obtain ⟨loc, hcontained, -, hin⟩ := h.isIn
  refine hcontained.mono ?_
  rintro l rfl
  exact .inr hin

end Stays

end Session

namespace Export

open Session (Stays)

variable {settings : CollectSettings} {skipEmpty : Bool} {directory : Path} {c : ProgramClass}
  {s t : Session}

theorem Exported.stays {o : Outcome} (h : Exported settings skipEmpty directory c s t o) :
    Stays directory s t := by
  cases h with
  | skipped found hfound hskip htold => exact .of_tells htold
  | written found path text u v hfound hskip hcollect htext hwrote htold =>
    exact (Stays.of_tells hcollect).trans ((Stays.of_wrote hwrote).trans (.of_tells htold))

theorem ExportedAll.stays {classes : List ProgramClass} {outcomes : List Outcome}
    (h : ExportedAll settings skipEmpty directory s classes outcomes t) :
    Stays directory s t := by
  induction h with
  | nil s => exact .refl directory s
  | cons h _ ih => exact h.stays.trans ih

theorem Stopped.stays {e : ExportError} (h : Stopped settings skipEmpty directory c s t e) :
    Stays directory s t := by
  cases h with
  | gather e hfound htold => exact .of_tells htold
  | path e hpath htold => exact .of_tells htold
  | file e path u hcollect hpath hj hmade =>
    refine (Stays.of_tells hcollect).trans ⟨by rw [hj], fun _ => hmade.mono ?_⟩
    exact fun _ => False.elim
  | record found e path text u hfound hskip hcollect htext hwrote =>
    exact (Stays.of_tells hcollect).trans (.of_wrote hwrote)

theorem programClass_stays (settings : CollectSettings) (skipEmpty : Bool) (directory : Path)
    (c : ProgramClass) : Moves (Stays directory) (programClass settings skipEmpty directory c) :=
  fun s => (programClass_ends settings skipEmpty directory c s).mono (fun _ _ h => h.stays)
    fun _ _ h => h.stays

theorem program_stays (settings : CollectSettings) (skipEmpty : Bool) (directory : Path)
    (p : Program) : Moves (Stays directory) (program settings skipEmpty directory p) := by
  refine (Moves.mapM (programClass_stays settings skipEmpty directory) p.classes).bind ?_
  intro outcomes
  refine Moves.bind (fun s => (Work.tell_ends _ s).mono (fun _ _ h => .of_tells h) ?_) ?_
  · exact fun _ _ h => h.elim
  · exact fun _ => Moves.pure outcomes

/-- However the export of a program ends, each location is as it was, or holds a file that is a log
or directly in the directory and has been a file if it was there, or was missing and is now a
directory that the path of the directory leads to or through. -/
theorem program_contained (settings : CollectSettings) (skipEmpty : Bool) (directory : Path)
    (p : Program) {s : Session} (hs : s.LogsStand) :
    Contained directory (fun loc => s.IsLog loc ∨ s.files.IsIn directory loc) s.files
      ((program settings skipEmpty directory p).after s).files :=
  (Ends.after (program_stays settings skipEmpty directory p s)).contained hs

/-- A session with a log file and a directory that has a link out of it under a document's name. -/
def linked : Session where
  files :=
    { entries :=
        [(["work"], .directory), (["work", "log"], .file []), (["work", "out"], .directory),
          (["work", "secret"], .file [1]), (["work", "out", "A.xml"], .link "../secret"),
          (["work", "out", "B.xml"], .link "C.xml")]
      workdir := ["work"] }
  journal := { level := some .debug, handlers := [⟨.file ["work", "log"], .debug⟩] }

theorem program_contained_linked :
    let p : Program := ⟨[⟨"B", [.text "b" ""], [], []⟩, ⟨"A", [.text "a" ""], [], []⟩]⟩
    linked.LogsStand ∧
      Contained ⟨.relative, ["out"]⟩
        (fun loc => linked.IsLog loc ∨ linked.files.IsIn ⟨.relative, ["out"]⟩ loc) linked.files
        ((program {} true ⟨.relative, ["out"]⟩ p).after linked).files := by
  have h : linked.LogsStand := by
    rintro loc ⟨handler, hmem, hsink⟩
    rw [List.mem_singleton.mp hmem] at hsink
    cases hsink
    exact ⟨[], by decide⟩
  exact ⟨h, program_contained {} true ⟨.relative, ["out"]⟩ _ h⟩

end Export

end ProgramTags
