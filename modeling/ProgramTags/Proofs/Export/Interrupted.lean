import ProgramTags.Proofs.Document.Closing
import ProgramTags.Proofs.Export.Documents

/-!
# Exports that a record stops

A document is written from its beginning, record by record, into a file that has been emptied
before. So a record that cannot be shown leaves the file with the records before it, and what the
file held is lost: the document is `CutOff`. It is the only one. Every other location is as it was,
or is a directory that has been made, or holds a document up to its closing (`Whole`).
-/

namespace ProgramTags.Export

open Appendable (concat)
open Document (Closes)
open FileSystem (Contained)
open Session (Tells)

variable {settings : CollectSettings} {skipEmpty : Bool} {directory : Path}
  {classes others : List ProgramClass} {c : ProgramClass} {fs gs : FileSystem} {s t u : Session}
  {loc : Location}

/-! ## Whole documents -/

/-- What may become of a location: nothing, a directory that was missing, or the whole document of
one of the classes. -/
inductive Kept (settings : CollectSettings) (classes : List ProgramClass) (fs gs : FileSystem)
    (loc : Location) : Prop
  | same (h : gs.get? loc = fs.get? loc)
  | directory (before : fs.get? loc = none) (after : gs.get? loc = some .directory)
  | document (c : ProgramClass) (hc : c ∈ classes) (text : String)
      (hrenders : Renders settings c text) (hcloses : Closes text)
      (after : gs.get? loc = some (.file (Text.Utf8.encode text.toList)))

namespace Kept

theorem trans {hs : FileSystem} (h : Kept settings classes fs gs loc)
    (h' : Kept settings classes gs hs loc) : Kept settings classes fs hs loc := by
  cases h' with
  | same hsame =>
    cases h with
    | same hsame' => exact .same (hsame.trans hsame')
    | directory before after => exact .directory before (hsame.trans after)
    | document c hc text hrenders hcloses after =>
      exact .document c hc text hrenders hcloses (hsame.trans after)
  | directory before after =>
    cases h with
    | same hsame => exact .directory (hsame.symm.trans before) after
    | directory before' after' => rw [after'] at before; cases before
    | document c hc text hrenders hcloses after' => rw [after'] at before; cases before
  | document c hc text hrenders hcloses after =>
    exact .document c hc text hrenders hcloses after

theorem mono (h : Kept settings classes fs gs loc) (hsub : classes ⊆ others) :
    Kept settings others fs gs loc := by
  cases h with
  | same hsame => exact .same hsame
  | directory before after => exact .directory before after
  | document c hc text hrenders hcloses after =>
    exact .document c (hsub hc) text hrenders hcloses after

theorem of_contained {writable : Location → Prop} (h : Contained directory writable fs gs)
    (hloc : ¬writable loc) : Kept settings classes fs gs loc := by
  cases h.change loc with
  | same hsame => exact .same hsame
  | file hw before after => exact absurd hw hloc
  | directory q hq before after hfind => exact .directory before after

end Kept

/-- Every location that is no log and not `cut` has been kept or has got a whole document. -/
structure Whole (settings : CollectSettings) (classes : List ProgramClass)
    (cut : Location → Prop) (s t : Session) : Prop where
  handlers : t.journal.handlers = s.journal.handlers
  kept : ∀ loc, ¬s.IsLog loc → ¬cut loc → Kept settings classes s.files t.files loc

abbrev nowhere : Location → Prop := fun _ => False

namespace Whole

variable {cut other : Location → Prop}

theorem of_tells (h : Tells s t) : Whole settings classes cut s t :=
  ⟨h.handlers, fun loc hlog _ => .same (h.elsewhere loc hlog)⟩

theorem trans (h : Whole settings classes cut s t) (h' : Whole settings classes cut t u) :
    Whole settings classes cut s u := by
  refine ⟨h'.handlers.trans h.handlers, fun loc hlog hcut => ?_⟩
  have hlog' : ¬t.IsLog loc := by rwa [Session.isLog_of_handlers h.handlers]
  exact (h.kept loc hlog hcut).trans (h'.kept loc hlog' hcut)

theorem mono (h : Whole settings classes cut s t) (hsub : classes ⊆ others)
    (hcut : ∀ loc, cut loc → other loc) : Whole settings others other s t :=
  ⟨h.handlers, fun loc hlog hloc => (h.kept loc hlog fun h => hloc (hcut loc h)).mono hsub⟩

theorem of_contained (hj : t.journal = s.journal) (h : Contained directory cut s.files t.files) :
    Whole settings classes cut s t :=
  ⟨by rw [hj], fun _ _ hcut => .of_contained h hcut⟩

end Whole

/-! ## One class -/

theorem Exported.whole {o : Outcome} (h : Exported settings skipEmpty directory c s t o) :
    Whole settings [c] nowhere s t := by
  cases h with
  | skipped found hfound hskip htold => exact .of_tells htold
  | written found path text u v hfound hskip hcollect htext hwrote htold =>
    obtain ⟨loc, -, hcontained, hfind⟩ := hwrote.written
    have hwritten : Whole settings [c] nowhere u v := by
      refine ⟨by rw [hwrote.journal], fun l _ _ => ?_⟩
      by_cases hl : l = loc
      · subst hl
        exact .document c (.head _) text (renders_of_collection hfound htext)
          (Document.closes_of_render htext) (FileSystem.find_isAt hfind)
      · exact .of_contained hcontained hl
    exact (Whole.of_tells hcollect).trans (hwritten.trans (.of_tells htold))

/-- From `s` to `t` the document of the class has been begun at the location and cut off before the
first record that cannot be shown. -/
structure CutOff (settings : CollectSettings) (directory : Path) (c : ProgramClass)
    (e : RenderError) (loc : Location) (s t : Session) : Prop where
  path : ∃ path bytes, documentPath s.files directory c.name = .ok path ∧
    s.files.resolve path = .ok loc ∧ t.files.find path = .ok (.entry loc (.file bytes))
  begun : ∃ found texts rest, collection settings c = .ok found ∧
    Document.elements found = texts.map .ok ++ .error e :: rest ∧
    t.files.get? loc =
      some (.file (Text.Utf8.encode (Document.opening ++ concat texts).toList))
  unfinished : ∀ text : String,
    t.files.get? loc = some (.file (Text.Utf8.encode text.toList)) → ¬Closes text
  elsewhere : Whole settings [] (· = loc) s t

theorem Stopped.cutOff {e : RenderError} (hs : s.LogsStand)
    (h : Stopped settings skipEmpty directory c s t (.record e)) :
    ∃ loc, CutOff settings directory c e loc s t := by
  cases h with
  | path _ hpath htold => exact absurd hpath documentPath_ne_record
  | record found _ path text u hfound hskip hcollect htext hwrote =>
    obtain ⟨loc, hresolve, hcontained, hfind⟩ := hwrote.written
    obtain ⟨texts, rest, helements, rfl⟩ := Document.run_write_eq_error_iff.mp htext
    have hloc := FileSystem.find_isAt hfind
    have hgrows := hcollect.grows hs
    have hpath := documentPath_of_grows hgrows hwrote.checked
    have hbefore := FileSystem.resolve_of_grows hgrows hresolve
    refine ⟨loc, ⟨path, _, hpath, hbefore, hfind⟩, ⟨found, texts, rest, hfound, helements, hloc⟩,
      ?_, ?_⟩
    · intro text htext
      rw [hloc] at htext
      have hsame : Text.Utf8.encode (Document.opening ++ concat texts).toList =
          Text.Utf8.encode text.toList := Entry.file.inj (Option.some.inj htext)
      rw [← String.toList_injective (Text.Utf8.encode_injective hsame)]
      exact Document.not_closes_of_shown helements
    · exact (Whole.of_tells hcollect).trans (.of_contained hwrote.journal hcontained)

theorem Stopped.whole {e : ExportError} (h : Stopped settings skipEmpty directory c s t e)
    (he : ∀ e', e ≠ .record e') : Whole settings classes nowhere s t := by
  cases h with
  | gather e hfound htold => exact .of_tells htold
  | path e hpath htold => exact .of_tells htold
  | file e path u hcollect hpath hj hmade =>
    exact (Whole.of_tells hcollect).trans (.of_contained hj hmade)
  | record found e' => exact absurd rfl (he e')

/-! ## All classes -/

theorem ExportedAll.whole {outcomes : List Outcome}
    (h : ExportedAll settings skipEmpty directory s classes outcomes t) :
    Whole settings classes nowhere s t := by
  induction h with
  | nil s => exact .of_tells (.refl s)
  | @cons s t u c classes o os h hrest ih =>
    have hfirst := h.whole.mono (List.cons_subset_cons c (List.nil_subset classes)) fun _ => id
    exact hfirst.trans (ih.mono (List.subset_cons_self c classes) fun _ => id)

/-- An export leaves every location that is no log as it was, or makes a directory of it, or writes
the whole document of a class into it. If it fails because a record of a class cannot be shown,
there is one exception: the file of that class holds the records before that one and does not go on
to the closing of a document, whatever was there before. -/
theorem program_whole_or_cutOff (settings : CollectSettings) (skipEmpty : Bool) (directory : Path)
    (p : Program) {s : Session} (hs : s.LogsStand) :
    (∀ outcomes t, (program settings skipEmpty directory p) s = .ok outcomes t →
      Whole settings p.classes nowhere s t) ∧
    (∀ error t, (program settings skipEmpty directory p) s = .error error t →
      (∀ e, error ≠ .record e) → Whole settings p.classes nowhere s t) ∧
    ∀ e t, (program settings skipEmpty directory p) s = .error (.record e) t →
      ∃ before c after outcomes u loc, p.classes = before ++ c :: after ∧
        before.mapM (programClass settings skipEmpty directory ·) s = .ok outcomes u ∧
        Whole settings before nowhere s u ∧ CutOff settings directory c e loc u t := by
  refine ⟨fun outcomes t h => ?_, fun error t h hother => ?_, fun e t h => ?_⟩
  · obtain ⟨u, hrun, htold⟩ := program_eq_ok h
    exact hrun.whole.trans (.of_tells htold)
  · obtain ⟨before, c, after, outcomes, u, hp, -, hrun, hstopped⟩ := program_eq_error h
    rw [hp]
    have hbefore := hrun.whole.mono (List.subset_append_left before (c :: after)) fun _ => id
    exact hbefore.trans (hstopped.whole hother)
  · obtain ⟨before, c, after, outcomes, u, hp, hbefore, hrun, hstopped⟩ := program_eq_error h
    obtain ⟨loc, hcut⟩ := hstopped.cutOff (hrun.stays.logsStand hs)
    exact ⟨before, c, after, outcomes, u, loc, hp, hbefore, hrun.whole, hcut⟩

/-- A class with one text and a field that cannot be shown. -/
def spoiled : ProgramClass :=
  ⟨"A", [.text "a" ""], [⟨"f", [.foreign ⟨"Mark", .key, "Mark()", none⟩]⟩], []⟩

/-- The document of an earlier export of the class. -/
def exported : Session where
  files :=
    { entries := [(["out"], .directory),
        (["out", "A.xml"], .file (Text.Utf8.encode (textDocument "old").toList))] }

/-- What is left of the document of `spoiled`. -/
def remains : String :=
  Document.opening ++ "<attribute>\n<jmpPos sline=\"0\" eline=\"0\"/>\n" ++
    "<textAttribute info=\"a\" aType=\"\"/>\n</attribute>\n"

/-- The document of the earlier export is lost. -/
theorem program_whole_or_cutOff_spoiled :
    ∃ t, (program {} true ⟨.relative, ["out"]⟩ ⟨[spoiled]⟩) exported =
        .error (.record (.entry (.noKey "Mark"))) t ∧
      exported.LogsStand ∧
      (∃ u loc, CutOff {} ⟨.relative, ["out"]⟩ spoiled (.entry (.noKey "Mark")) loc u t) ∧
      t.files.get? ["out", "A.xml"] = some (.file (Text.Utf8.encode remains.toList)) := by
  have hlogs : exported.LogsStand := by
    rintro loc ⟨handler, hmem, -⟩
    cases hmem
  have hrun : (match (program {} true ⟨.relative, ["out"]⟩ ⟨[spoiled]⟩) exported with
      | .ok _ _ => none
      | .error e t => some (e, t.files.get? ["out", "A.xml"])) =
      some (.record (.entry (.noKey "Mark")), some (.file (Text.Utf8.encode remains.toList))) := by
    decide +kernel
  cases hr : (program {} true ⟨.relative, ["out"]⟩ ⟨[spoiled]⟩) exported with
  | ok outcomes t => rw [hr] at hrun; cases hrun
  | error e t =>
    rw [hr] at hrun
    obtain ⟨rfl, hleft⟩ := Prod.mk.inj (Option.some.inj hrun)
    obtain ⟨before, c, after, outcomes, u, loc, hp, -, -, hcut⟩ :=
      (program_whole_or_cutOff {} true ⟨.relative, ["out"]⟩ ⟨[spoiled]⟩ hlogs).2.2 _ _ hr
    cases before with
    | nil =>
      cases hp
      exact ⟨t, rfl, hlogs, ⟨u, loc, hcut⟩, hleft⟩
    | cons b before =>
      have hnil : [] = before ++ c :: after := (List.cons.inj hp).2
      cases before <;> cases hnil

end ProgramTags.Export
