import ProgramTags.Proofs.Document.Closing
import ProgramTags.Proofs.Export.Documents
import ProgramTags.Proofs.FileSystem.Alike

/-!
# Exports in parts

An export has nothing to remember from one class to the next, so the classes of a program may be
exported in several exports, one after the other: the outcomes are the same, and so are the files,
but for the logs, which tell of each export on its own (`Session.Alike`). An export that is stopped
by a class before anything of it is written is the export of the classes before it.
-/

namespace ProgramTags

open FileSystem (Grows)

/-! ## Sessions that are alike -/

namespace Session

/-- Both write to the same logs, and have the same files but for what logs hold. -/
structure Alike (logs : Location → Prop) (s t : Session) : Prop where
  left : s.IsLog = logs
  right : t.IsLog = logs
  files : FileSystem.Alike logs s.files t.files

variable {logs : Location → Prop} {s t u : Session}

namespace Alike

/-- Telling different things leads to sessions that are alike. -/
theorem of_tells (hs : s.LogsStand) (h : Tells s t) (h' : Tells s u) : Alike s.IsLog t u := by
  refine ⟨isLog_of_handlers h.handlers, isLog_of_handlers h'.handlers, ?_, fun loc hloc => ?_,
    fun loc hloc => ?_⟩
  · rw [(h'.grows hs).workdir, (h.grows hs).workdir]
  · rw [h'.elsewhere loc hloc, h.elsewhere loc hloc]
  · obtain ⟨bytes, hbytes⟩ := hs loc hloc
    exact ⟨(h.grows hs).file hbytes, (h'.grows hs).file hbytes⟩

protected theorem refl (hs : s.LogsStand) : Alike s.IsLog s s :=
  of_tells hs (.refl s) (.refl s)

theorem logsStand (h : Alike logs s t) : t.LogsStand := by
  intro loc hloc
  rw [h.right] at hloc
  exact (h.files.file loc hloc).2

theorem symm (h : Alike logs s t) : Alike logs t s :=
  ⟨h.right, h.left, h.files.symm⟩

theorem tell_right (h : Alike logs s t) (m : Message) : Alike logs s (t.tell m) := by
  have htold := of_tells h.logsStand (.refl t) (t.tells_tell m)
  rw [h.right] at htold
  exact ⟨h.left, htold.right, h.files.trans htold.files⟩

theorem tell (h : Alike logs s t) (m m' : Message) : Alike logs (s.tell m) (t.tell m') :=
  ((h.tell_right m').symm.tell_right m).symm

end Alike

end Session

/-- A class cannot be exported, and that is found out before anything is written for it. -/
def ExportError.isEarly : ExportError → Bool
  | .noDocumentName _ | .outside .. | .gather _ => true
  | .record _ | .file _ => false

/-! ## Steps in parallel -/

open Session (Alike Tells)

namespace Work

variable {ε δ α : Type} {logs : Location → Prop}

theorem tell_parallel (m m' : Message) :
    Parallel (Alike logs) (tell m : Work ε Unit) (tell m') :=
  Parallel.modify fun _ _ h => h.tell m m'

theorem tell_bind (m : Message) (f : Unit → Work ε α) (s : Session) :
    (tell m >>= f) s = f () (s.tell m) := rfl

theorem ofExcept_parallel (wrap : δ → ε) (x : Except δ α) :
    Parallel (Alike logs) (ofExcept wrap x) (ofExcept wrap x) := by
  cases x with
  | ok a => exact Parallel.pure a
  | error e => exact Parallel.throw (wrap e)

theorem onFiles_parallel {wrap : FileError → ε} {act : Files α}
    (h : ∀ loose, Parallel (FileSystem.Alike loose) act act) :
    Parallel (Alike logs) (onFiles wrap act) (onFiles wrap act) := by
  intro s t hst
  have hends := h logs s.files t.files hst.files
  unfold onFiles
  cases hr : act s.files with
  | ok a fs =>
    rw [hr] at hends
    obtain ⟨gs, ht, hfiles⟩ := hends.exists_of_ok
    rw [ht]
    exact .ok ⟨hst.left, hst.right, hfiles⟩
  | error e fs =>
    rw [hr] at hends
    obtain ⟨gs, ht, hfiles⟩ := hends.exists_of_error
    rw [ht]
    exact .error ⟨hst.left, hst.right, hfiles⟩

theorem inClass_parallel {name : String} {act : Work ε α} (h : Parallel (Alike logs) act act) :
    Parallel (Alike logs) (inClass name act) (inClass name act) := by
  intro s t hst
  have hinside : Alike logs { s with journal := (s.journal.enter name).2 }
      { t with journal := (t.journal.enter name).2 } := ⟨hst.left, hst.right, hst.files⟩
  have hends := h _ _ hinside
  unfold inClass
  simp only [Journal.enter] at hends ⊢
  cases hr : act { s with journal := { s.journal with current := some name } } with
  | ok a s' =>
    rw [hr] at hends
    obtain ⟨t', ht, hafter⟩ := hends.exists_of_ok
    rw [ht]
    exact .ok ⟨hafter.left, hafter.right, hafter.files⟩
  | error e s' =>
    rw [hr] at hends
    obtain ⟨t', ht, hafter⟩ := hends.exists_of_error
    rw [ht]
    exact .error ⟨hafter.left, hafter.right, hafter.files⟩

end Work

namespace Export

variable {settings : CollectSettings} {skipEmpty : Bool} {directory : Path} {c : ProgramClass}
  {logs : Location → Prop} {s t u : Session}

theorem gather_parallel (start : Collection) (g : Gather Unit) :
    Parallel (Alike logs) (gather start g) (gather start g) := by
  unfold gather
  cases g.run start with
  | ok _ found => exact Parallel.pure found
  | error e _ => exact Parallel.throw (ExportError.gather e)

theorem collect_parallel (settings : CollectSettings) (c : ProgramClass) :
    Parallel (Alike logs) (collect settings c) (collect settings c) := by
  refine Work.inClass_parallel ((gather_parallel _ _).bind fun found => ?_)
  refine (Work.tell_parallel _ _).bind fun _ => ?_
  split
  · exact gather_parallel _ _
  · exact Parallel.pure found

/-- The path of a document depends on nothing that a loose file holds. -/
theorem documentPath_eq {loose : Location → Prop} {fs gs : FileSystem}
    (h : FileSystem.Alike loose fs gs) (directory : Path) (name : String) :
    documentPath gs directory name = documentPath fs directory name := by
  unfold documentPath
  cases documentName? name with
  | none => rfl
  | some document => simp only [h.resolve_eq]

theorem writeDocument_parallel (path : Path) (found : Collection) :
    Parallel (Alike logs) (writeDocument path found) (writeDocument path found) := by
  refine (Work.onFiles_parallel fun _ => Files.openFile_parallel path).bind fun loc => ?_
  refine (Work.onFiles_parallel fun _ => Files.writeAt_parallel loc _).bind fun _ => ?_
  split
  · exact Parallel.pure ()
  · exact Parallel.throw _

/-- What logs hold has no influence on the export of a class. -/
theorem programClass_parallel (settings : CollectSettings) (skipEmpty : Bool) (directory : Path)
    (c : ProgramClass) : Parallel (Alike logs) (programClass settings skipEmpty directory c)
      (programClass settings skipEmpty directory c) := by
  refine (collect_parallel settings c).bind fun found => ?_
  split
  · exact (Work.tell_parallel _ _).bind fun _ => Parallel.pure _
  · refine Parallel.get_bind fun s t hst => ?_
    simp only [documentPath_eq hst.files]
    refine (Work.ofExcept_parallel id _ s t hst).bind fun path => ?_
    refine (Work.onFiles_parallel fun _ => Files.ensureDirectories_parallel directory).bind ?_
    refine fun _ => (writeDocument_parallel path found).bind fun _ => ?_
    exact (Work.tell_parallel _ _).bind fun _ => Parallel.pure _

/-- What logs hold has no influence on an export. -/
theorem program_parallel (settings : CollectSettings) (skipEmpty : Bool) (directory : Path)
    (p : Program) : Parallel (Alike logs) (program settings skipEmpty directory p)
      (program settings skipEmpty directory p) :=
  (Parallel.mapM (programClass_parallel settings skipEmpty directory) p.classes).bind fun _ =>
    (Work.tell_parallel _ _).bind fun _ => Parallel.pure _

/-! ## Exports in a row -/

/-- The exports of two programs, one after the other. -/
def inTurn (settings : CollectSettings) (skipEmpty : Bool) (directory : Path) (p q : Program) :
    Work ExportError (List Outcome) := do
  let first ← program settings skipEmpty directory p
  let second ← program settings skipEmpty directory q
  return first ++ second

/-- The classes of two programs exported together end as the programs exported in turn, but for
what is told in between. -/
theorem program_append (hs : s.LogsStand) (p q : Program) :
    SameEnd (Alike s.IsLog) ((program settings skipEmpty directory ⟨p.classes ++ q.classes⟩) s)
      (inTurn settings skipEmpty directory p q s) := by
  have hclasses : ∀ p : Program,
      Parallel (Alike s.IsLog) (p.classes.mapM (programClass settings skipEmpty directory ·))
        (p.classes.mapM (programClass settings skipEmpty directory ·)) :=
    fun p => Parallel.mapM (programClass_parallel settings skipEmpty directory) p.classes
  unfold inTurn program tell
  simp only [List.mapM_append, bind_assoc, pure_bind]
  refine (hclasses p s s (.refl hs)).bind fun first t u htu => ?_
  rw [Work.tell_bind]
  refine (hclasses q t _ (htu.tell_right _)).bind fun second t u htu => ?_
  exact .ok (htu.tell _ _)

/-! ## Exports that are stopped early -/

variable {p : Program} {before after : List ProgramClass} {outcomes : List Outcome}
  {e : ExportError}

/-- An early stop changes nothing but logs. -/
theorem Stopped.tells (h : Stopped settings skipEmpty directory c s t e) (he : e.isEarly) :
    Tells s t := by
  cases h with
  | gather e hfound htold => exact htold
  | path e hpath htold => exact htold
  | file => cases he
  | record => cases he

/-- The path of the outcome leads to a file. Unless that is a log, it holds the whole document of
the last of the classes that was written there. -/
def Complete (settings : CollectSettings) (results : List (ProgramClass × Outcome)) (s t : Session)
    (o : Outcome) : Prop :=
  ∃ loc, o.location? t.files = some loc ∧ (¬s.IsLog loc → ∃ c text,
    lastAt t.files loc results = some c ∧ Renders settings c text ∧ Document.Closes text ∧
    t.files.get? loc = some (.file (Text.Utf8.encode text.toList)))

theorem Renders.closes {text : String} (h : Renders settings c text) : Document.Closes text := by
  obtain ⟨t, ht⟩ := h {}
  obtain ⟨found, u, -, hrender⟩ := Ends.bind_eq_ok ht
  cases htext : Document.render found with
  | error e => rw [htext] at hrender; cases hrender
  | ok text' =>
    rw [htext] at hrender
    cases hrender
    exact Document.closes_of_render htext

/-- Every class that is reported as written has its document, or that of a later class which has
been written over it. -/
theorem program_complete (hs : s.LogsStand)
    (h : (program settings skipEmpty directory p) s = .ok outcomes t) :
    ∀ x ∈ p.classes.zip outcomes, x.2.written →
      Complete settings (p.classes.zip outcomes) s t x.2 := by
  intro x hx hw
  obtain ⟨loc, hloc⟩ := program_location?_isSome hs h hx hw
  refine ⟨loc, hloc, fun hlog => ?_⟩
  obtain ⟨y, -, -, hlast⟩ := lastAt_of_mem hx hloc
  obtain ⟨text, htext, hbytes⟩ := program_last hs h hlog hlast
  exact ⟨y.1, text, hlast, htext, htext.closes, hbytes⟩

/-- The classes of two programs may be exported together or in turn. And an export that a class
stops before anything is written for it leaves what an export of the classes before it leaves,
which succeeds: their documents are complete. -/
theorem program_splits (settings : CollectSettings) (skipEmpty : Bool) (directory : Path)
    {s : Session} (hs : s.LogsStand) :
    (∀ p q : Program, SameEnd (Alike s.IsLog)
      ((program settings skipEmpty directory ⟨p.classes ++ q.classes⟩) s)
      (inTurn settings skipEmpty directory p q s)) ∧
    ∀ p e t, (program settings skipEmpty directory p) s = .error e t → e.isEarly = true →
      ∃ before c after outcomes u v, p.classes = before ++ c :: after ∧
        before.mapM (programClass settings skipEmpty directory ·) s = .ok outcomes v ∧
        (programClass settings skipEmpty directory c) v = .error e t ∧
        (program settings skipEmpty directory ⟨before⟩) s = .ok outcomes u ∧ Alike s.IsLog t u ∧
        ∀ x ∈ before.zip outcomes, x.2.written →
          Complete settings (before.zip outcomes) s u x.2 := by
  refine ⟨program_append hs, fun p e t h he => ?_⟩
  rcases Ends.bind_eq_error h with h | ⟨outcomes, v, -, h⟩
  · obtain ⟨before, c, after, outcomes, v, hp, hbefore, hc⟩ := Ends.mapM_eq_error h
    have hall := mapM_eq_ok hbefore
    have hstopped := (programClass_ends settings skipEmpty directory c v).of_error hc
    have hv := hall.stays.logsStand hs
    have hlogs : v.IsLog = s.IsLog := Session.isLog_of_handlers hall.stays.handlers
    let summary : Message := {
      part := "exporter", level := .info
      text :=
        s!"Wrote {outcomes.countP Outcome.written} attribute document(s) to {directory.text}" }
    have hrun : (program settings skipEmpty directory ⟨before⟩) s =
        .ok outcomes (v.tell summary) := Ends.bind_ok hbefore rfl
    have hsame := Alike.of_tells hv (hstopped.tells he) (v.tells_tell summary)
    rw [hlogs] at hsame
    exact ⟨before, c, after, outcomes, _, v, hp, hbefore, hc, hrun, hsame,
      program_complete hs hrun⟩
  · cases h

/-- The second of three classes has a name that no document can have. -/
def unusable : Program :=
  ⟨[⟨"B", [.text "b" ""], [], []⟩, ⟨"x//y", [.text "x" ""], [], []⟩, ⟨"D", [.text "d" ""], [], []⟩]⟩

/-- The first class is exported through a link, and the others are not, together or in turn. -/
theorem program_splits_unusable :
    let directory : Path := ⟨.relative, ["out"]⟩
    linked.LogsStand ∧
      SameEnd (Alike linked.IsLog) ((program {} true directory unusable) linked)
        (inTurn {} true directory ⟨unusable.classes.take 1⟩ ⟨unusable.classes.drop 1⟩ linked) ∧
      ∃ t, (program {} true directory unusable) linked = .error (.noDocumentName "x//y") t ∧
        ExportError.isEarly (.noDocumentName "x//y") = true ∧
        t.files.get? ["work", "out", "C.xml"] =
          some (.file (Text.Utf8.encode (textDocument "b").toList)) ∧
        t.files.get? ["work", "out", "D.xml"] = none ∧
        ∃ before c after outcomes u, unusable.classes = before ++ c :: after ∧
          (program {} true directory ⟨before⟩) linked = .ok outcomes u ∧ Alike linked.IsLog t u ∧
          ∀ x ∈ before.zip outcomes, x.2.written →
            Complete {} (before.zip outcomes) linked u x.2 := by
  intro directory
  have hlogs : linked.LogsStand := by
    rintro loc ⟨handler, hmem, hsink⟩
    rw [List.mem_singleton.mp hmem] at hsink
    cases hsink
    exact ⟨[], by decide⟩
  have hrun : (match (program {} true directory unusable) linked with
      | .ok _ _ => none
      | .error e t => some (e, t.files.get? ["work", "out", "C.xml"],
          t.files.get? ["work", "out", "D.xml"])) =
      some (.noDocumentName "x//y",
        some (.file (Text.Utf8.encode (textDocument "b").toList)), none) := by
    decide +kernel
  have hsplits := program_splits {} true directory hlogs
  refine ⟨hlogs, hsplits.1 ⟨unusable.classes.take 1⟩ ⟨unusable.classes.drop 1⟩, ?_⟩
  cases hr : (program {} true directory unusable) linked with
  | ok outcomes t => rw [hr] at hrun; cases hrun
  | error e t =>
    rw [hr] at hrun
    obtain ⟨rfl, hfiles⟩ := Prod.mk.inj (Option.some.inj hrun)
    obtain ⟨hwritten, hmissing⟩ := Prod.mk.inj hfiles
    obtain ⟨before, c, after, outcomes, u, v, hp, -, -, halone, hsame, hcomplete⟩ :=
      hsplits.2 _ _ _ hr rfl
    exact ⟨t, rfl, rfl, hwritten, hmissing, before, c, after, outcomes, u, hp, halone, hsame,
      hcomplete⟩

end Export

end ProgramTags
