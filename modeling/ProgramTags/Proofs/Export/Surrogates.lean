import ProgramTags.Export
import ProgramTags.Proofs.Parallel

/-!
# Lone surrogates in exports

A lone surrogate in a class can stop the export of the class: its path cannot have it, nor can its
document. Otherwise it makes no difference (`program_follows`), so what is known of an export
that knows of no lone surrogates is known of every export that does not fail for one.
-/

namespace ProgramTags

/-- The text of the record has a lone surrogate. -/
def RenderError.isSurrogate : RenderError → Bool
  | .surrogate _ => true
  | _ => false

/-- A path or a document has a lone surrogate. -/
def ExportError.isSurrogate : ExportError → Bool
  | .record e => e.isSurrogate
  | .file (.surrogate _) => true
  | _ => false

/-- U+E000 stands for U+D800, and nothing stands for other lone surrogates. -/
def Text.Surrogates.loneHigh : Text.Surrogates where
  stand _ := '\uE000'
  code? c := if c = '\uE000' then some 0xD800 else Option.none
  code?_ascii c h := by
    refine if_neg ?_
    rintro rfl
    revert h
    decide

/-- A dump with half a character in the text of a tag. -/
def Dump.halvedText : List Char :=
  "\x7b\"classes\":[\x7b\"name\":\"A\",\"tags\":[\x7b\"text\":\"\\ud800\"\x7d]\x7d]\x7d".toList

variable (surrogates : Text.Surrogates)

namespace Document

theorem put_follows (s : String) :
    Follows (fun e => RenderError.isSurrogate e = true) (put s surrogates) (put s) := by
  rw [put_none, put]
  split
  · exact .refl _
  · exact .throw rfl

theorem putElement_follows (element : Except RenderError String) :
    Follows (fun e => RenderError.isSurrogate e = true) (putElement element surrogates)
      (putElement element) := by
  cases element with
  | ok s => exact put_follows surrogates s
  | error e => exact .refl _

theorem write_follows (c : Collection) :
    Follows (fun e => RenderError.isSurrogate e = true) (write c surrogates) (write c) := by
  refine (put_follows surrogates opening).bind fun _ => ?_
  refine (Follows.forM (fun a => putElement_follows surrogates _) _).bind fun _ => ?_
  refine (Follows.forM (fun k => putElement_follows surrogates _) _).bind fun _ => ?_
  exact put_follows surrogates closing

end Document

namespace Export

variable {surrogates} {fs : FileSystem} {directory : Path} {name : String}

/-- Where file names can have the path, it is as if there were no lone surrogates. -/
theorem documentPath_of_nameFault? (h : ∀ document, documentName? name = some document →
      surrogates.nameFault? (directory.child document).text = none) :
    documentPath fs directory name surrogates = documentPath fs directory name := by
  unfold documentPath
  split
  · rfl
  · rename_i document hname
    simp only [FileSystem.encodable, h document hname, Text.Surrogates.nameFault?_none]

/-- A path that file names cannot have is refused. -/
theorem documentPath_eq_surrogate {document : String} {e : Text.SurrogateFault}
    (hname : documentName? name = some document)
    (h : surrogates.nameFault? (directory.child document).text = some e) :
    documentPath fs directory name surrogates = .error (.file (.surrogate e)) := by
  simp only [documentPath, hname, FileSystem.encodable, h]
  rfl

theorem documentPath_follows (fs : FileSystem) (directory : Path) (name : String)
    (surrogates : Text.Surrogates) :
    documentPath fs directory name surrogates = documentPath fs directory name ∨
      ∃ e, documentPath fs directory name surrogates = .error e ∧ e.isSurrogate = true := by
  cases hname : documentName? name with
  | none => exact .inl (documentPath_of_nameFault? fun document h => by rw [hname] at h; cases h)
  | some document =>
    cases hfault : surrogates.nameFault? (directory.child document).text with
    | some e => exact .inr ⟨_, documentPath_eq_surrogate hname hfault, rfl⟩
    | none =>
      refine .inl (documentPath_of_nameFault? fun document' h => ?_)
      rw [hname] at h
      cases h
      exact hfault

theorem documentPath_of_ok {path : Path}
    (h : documentPath fs directory name surrogates = .ok path) :
    documentPath fs directory name = .ok path := by
  rcases documentPath_follows fs directory name surrogates with hsame | ⟨e, he, -⟩
  · exact hsame.symm.trans h
  · rw [he] at h
    cases h

/-- A document fails for its records, or for a lone surrogate. -/
theorem writeDocument_follows (path : Path) (found : Collection) (surrogates : Text.Surrogates) :
    Follows (fun e => ExportError.isSurrogate e = true) (writeDocument path found surrogates)
      (writeDocument path found) := by
  refine (Follows.refl (Work.onFiles ExportError.file (Files.openFile path))).bind fun loc => ?_
  rcases Document.write_follows surrogates found "" with h | ⟨e, text, h, he⟩
  · unfold EStateM.run
    rw [h]
    exact .refl _
  · intro s
    unfold EStateM.run
    rw [h]
    exact .inr ⟨.record e, _, rfl, he⟩

theorem programClass_follows (settings : CollectSettings) (skipEmpty : Bool) (directory : Path)
    (c : ProgramClass) (surrogates : Text.Surrogates) :
    Follows (fun e => ExportError.isSurrogate e = true)
      (programClass settings skipEmpty directory c surrogates)
      (programClass settings skipEmpty directory c) := by
  refine (Follows.refl (collect settings c)).bind fun found => ?_
  split
  · exact .refl _
  · refine Follows.get_bind fun s => Follows.bind ?_ fun path => ?_
    · rcases documentPath_follows s.files directory c.name surrogates with h | ⟨e, h, he⟩
      · rw [h]
        exact .refl _
      · rw [h]
        exact .throw he
    · refine (Follows.refl (Work.onFiles ExportError.file
        (Files.ensureDirectories directory))).bind fun _ => ?_
      exact (writeDocument_follows path found surrogates).bind fun _ => .refl _

/-- An export goes as it would without lone surrogates, unless it fails for one. -/
theorem program_follows (settings : CollectSettings) (skipEmpty : Bool) (directory : Path)
    (p : Program) (surrogates : Text.Surrogates) :
    Follows (fun e => ExportError.isSurrogate e = true)
      (program settings skipEmpty directory p surrogates)
      (program settings skipEmpty directory p) :=
  (Follows.mapM (fun c => programClass_follows settings skipEmpty directory c surrogates)
    p.classes).bind fun _ => .refl _

end Export

end ProgramTags
