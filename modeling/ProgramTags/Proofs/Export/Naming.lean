import ProgramTags.Proofs.Export.Run
import ProgramTags.Proofs.Export.Surrogates
import ProgramTags.Proofs.FileSystem.Child

/-!
# Names of documents

A class has a document unless a part of its name is empty or consists of one or two dots, and the
name of the document is that of the class with dots for its separators (`documentName?_eq`). It is a
single name, so the document is directly in the directory wherever that is, and the check that it is
there succeeds (`documentPath_naming`). The path can only fail for a lone surrogate besides.
-/

namespace ProgramTags.Export

def dotted (name : String) : String :=
  name.map fun c => if isSeparator c then '.' else c

/-- Cutting at some characters and joining with another puts it in their place. -/
theorem intercalate_splitOnP {α : Type} (p : α → Bool) (mark : α) (l : List α) :
    [mark].intercalate (l.splitOnP p) = l.map fun c => if p c then mark else c := by
  induction l with
  | nil => rfl
  | cons c rest ih =>
    rw [List.splitOnP_cons_eq_if_modifyHead, List.map_cons, ← ih]
    cases hparts : rest.splitOnP p with
    | nil => exact absurd hparts (List.splitOnP_ne_nil p rest)
    | cons part parts =>
      by_cases hc : p c
      · rw [if_pos hc, if_pos hc, List.intercalate_cons_cons]
        rfl
      · rw [if_neg hc, if_neg hc, List.modifyHead_cons, List.intercalate_cons_cons_left]

theorem intercalate_segments (name : String) :
    ".".intercalate (segments name) = dotted name := by
  rw [← String.toList_inj, String.toList_intercalate, dotted, String.toList_map, segments,
    List.map_map]
  have hid : String.toList ∘ String.ofList = id := by
    funext l
    exact String.toList_ofList
  rw [hid, List.map_id]
  exact intercalate_splitOnP isSeparator '.' name.toList

theorem documentName?_eq (name : String) :
    documentName? name = if ∀ segment ∈ segments name, segment ∉ ["", ".", ".."]
      then some (dotted name ++ ".xml") else none := by
  have hbad : (segments name).any isBadSegment ↔
      ¬∀ segment ∈ segments name, segment ∉ ["", ".", ".."] := by
    simp only [List.any_eq_true, isBadSegment, decide_eq_true_eq, not_forall, not_not, exists_prop]
  rw [documentName?, intercalate_segments]
  by_cases h : ∀ segment ∈ segments name, segment ∉ ["", ".", ".."]
  · rw [if_neg fun hany => hbad.mp hany h, if_pos h]
  · rw [if_pos (hbad.mpr h), if_neg h]

variable {name document : String}

/-! ## A single name -/

/-- What the name of a document is made of. -/
theorem mem_document {c : Char} (h : c ∈ (dotted name ++ ".xml").toList) :
    c ∈ name.toList ∧ ¬isSeparator c ∨ c ∈ ".xml".toList := by
  simp only [dotted, String.toList_append, String.toList_map, List.mem_append,
    List.mem_map] at h
  rcases h with ⟨c', hmem, hc⟩ | h
  · by_cases hsep : isSeparator c'
    · rw [if_pos hsep] at hc
      subst hc
      exact .inr (by decide)
    · rw [if_neg hsep] at hc
      subst hc
      exact .inl ⟨hmem, hsep⟩
  · exact .inr h

theorem slash_not_mem_document (name : String) : '/' ∉ (dotted name ++ ".xml").toList := by
  intro h
  rcases mem_document h with ⟨-, hsep⟩ | h
  · exact hsep rfl
  · revert h
    decide

theorem null_not_mem_document (hnull : '\x00' ∉ name.toList) :
    '\x00' ∉ (dotted name ++ ".xml").toList := by
  intro h
  rcases mem_document h with ⟨hmem, -⟩ | h
  · exact hnull hmem
  · revert h
    decide

theorem document_ne (name : String) {s : String} (hs : s.toList.length < 4) :
    dotted name ++ ".xml" ≠ s := by
  rintro rfl
  rw [String.toList_append, List.length_append] at hs
  have hend : ".xml".toList.length = 4 := by decide
  omega

theorem document_not_isIdle (name : String) : ¬Path.isIdle (dotted name ++ ".xml") := by
  simp [Path.isIdle, document_ne name (s := ""), document_ne name (s := ".")]

/-- A text without slashes is a path of one name. -/
theorem ofText_eq (hidle : ¬Path.isIdle document) (hslash : '/' ∉ document.toList) :
    Path.ofText document = ⟨.relative, [document]⟩ := by
  have hparts : document.toList.splitOn '/' = [document.toList] := by
    rw [List.splitOn_eq_splitOnP]
    refine List.splitOnP_eq_singleton fun c hc => ?_
    exact beq_false_of_ne fun h => hslash (h ▸ hc)
  have hnames : Path.namesOf document = [document] := by
    simp [Path.namesOf, Path.piecesOf, hparts, hidle]
  have hroot : document.toList.takeWhile (· = '/') = [] := by
    cases hchars : document.toList with
    | nil => rfl
    | cons c rest =>
      rw [hchars] at hslash
      have hc : c ≠ '/' := fun h => hslash (h ▸ List.mem_cons_self)
      simp [hc]
  simp [Path.ofText, hnames, hroot]

/-! ## The path of a document -/

variable {fs : FileSystem} {directory path : Path} {above : Location}

theorem documentName?_eq_some :
    documentName? name = some document ↔
      (∀ segment ∈ segments name, segment ∉ ["", ".", ".."]) ∧
        dotted name ++ ".xml" = document := by
  rw [documentName?_eq, Option.ite_none_right_eq_some, Option.some_inj]

theorem resolve_document (hdir : directory.IsProper) (hresolve : fs.resolve directory = .ok above)
    (hnull : '\x00' ∉ name.toList) (hname : documentName? name = some document)
    (hlink : ¬fs.IsLinked (above ++ [document])) :
    fs.resolve (directory.child document) = .ok (above ++ [document]) := by
  obtain ⟨-, rfl⟩ := documentName?_eq_some.mp hname
  exact FileSystem.resolve_child hdir hresolve (document_not_isIdle name)
    (document_ne name (by decide)) (null_not_mem_document hnull) hlink

/-- A document under whose name there is no link has a path. -/
theorem documentPath_eq_child (hdir : directory.IsProper)
    (hresolve : fs.resolve directory = .ok above) (hnull : '\x00' ∉ name.toList)
    (hname : documentName? name = some document) (hlink : ¬fs.IsLinked (above ++ [document])) :
    documentPath fs directory name = .ok (directory.child document) := by
  rw [documentPath_none]
  simp only [hname, resolve_document hdir hresolve hnull hname hlink, hresolve]
  exact if_pos (List.dropLast_concat ..)

theorem documentPath_eq_noDocumentName (hname : documentName? name = none) :
    documentPath fs directory name = .error (.noDocumentName name) := by
  simp only [documentPath, hname]

theorem mem_text_child {c : Char} (h : c ∈ (directory.child document).text.toList) :
    c ∈ directory.text.toList ∨ c ∈ document.toList ∨ c = '/' := by
  obtain ⟨root, names⟩ := directory
  have hchild : (Path.child ⟨root, names⟩ document).text =
      root.text ++ "/".intercalate (names ++ [document]) := by
    simp [Path.text, Path.child]
  rw [hchild, String.toList_append, List.mem_append] at h
  cases names with
  | nil =>
    rcases h with h | h
    · cases root with
      | relative => cases h
      | slash => exact .inl h
      | twoSlashes => exact .inl h
    · exact .inr (.inl (by simpa using h))
  | cons first rest =>
    have htext : Path.text ⟨root, first :: rest⟩ =
        root.text ++ "/".intercalate (first :: rest) := by
      simp [Path.text]
    have hjoin : "/".intercalate (first :: rest ++ [document]) =
        "/".intercalate (first :: rest) ++ "/" ++ document := by
      rw [String.intercalate_append_of_ne_nil (List.cons_ne_nil _ _) (List.cons_ne_nil _ _),
        String.intercalate_singleton]
    rw [htext, String.toList_append, List.mem_append]
    rw [hjoin] at h
    simp only [String.toList_append, List.mem_append] at h
    rcases h with h | (h | h) | h
    · exact .inl (.inl h)
    · exact .inl (.inr h)
    · exact .inr (.inr (by simpa using h))
    · exact .inr (.inl h)

/-- File names can have the path of a document if they can have those of its directory and its
class. -/
theorem nameFault?_document {surrogates : Text.Surrogates}
    (hdirectory : surrogates.nameFault? directory.text = none)
    (hplain : surrogates.nameFault? name = none) (hname : documentName? name = some document) :
    surrogates.nameFault? (directory.child document).text = none := by
  obtain ⟨-, rfl⟩ := documentName?_eq_some.mp hname
  refine Text.Surrogates.faultFrom_eq_none_iff.mpr fun c hc code hcode => ?_
  have hascii : ¬c.toNat < 0x80 := fun h => by
    rw [surrogates.code?_ascii c h] at hcode
    cases hcode
  have hextension : ".xml".toList.all (·.toNat < 0x80) = true := by decide +kernel
  rcases mem_text_child hc with hc | hc | rfl
  · exact Text.Surrogates.faultFrom_eq_none_iff.mp hdirectory c hc code hcode
  · rcases mem_document hc with ⟨hc, -⟩ | hc
    · exact Text.Surrogates.faultFrom_eq_none_iff.mp hplain c hc code hcode
    · exact absurd (of_decide_eq_true (List.all_eq_true.mp hextension c hc)) hascii
  · exact absurd (by decide) hascii

theorem join_document (directory : Path) (name : String) :
    directory.join (.ofText (dotted name ++ ".xml")) =
      directory.child (dotted name ++ ".xml") := by
  rw [ofText_eq (document_not_isIdle name) (slash_not_mem_document name)]
  rfl

/-- The path of a document depends on the file system only in whether there is one. -/
theorem path_of_documentPath (h : documentPath fs directory name = .ok path) :
    path = directory.join (.ofText (dotted name ++ ".xml")) := by
  obtain ⟨document, -, hname, rfl, -⟩ := documentPath_eq_ok h
  obtain ⟨-, rfl⟩ := documentName?_eq_some.mp hname
  exact (join_document directory name).symm

theorem path_eq_iff {gs : FileSystem} {other : String} {path' : Path}
    (h : documentPath fs directory name = .ok path)
    (h' : documentPath gs directory other = .ok path') :
    path = path' ↔ dotted name = dotted other := by
  rw [path_of_documentPath h, path_of_documentPath h', join_document, join_document]
  simp [Path.child, String.append_left_inj]

/-- In a directory that resolves, to a location with no link under the name of the document, a class
has a path unless a part of its name is empty or consists of one or two dots. That is the only
fault, where file names can have those of the directory and the class: the path is a single name in
the directory, and what it resolves to is there. Two classes have the same path if their names are
the same with dots for separators. -/
theorem documentPath_naming {surrogates : Text.Surrogates} (hdir : directory.IsProper)
    (hdirectory : surrogates.nameFault? directory.text = none)
    (hresolve : fs.resolve directory = .ok above) (hnull : '\x00' ∉ name.toList)
    (hplain : surrogates.nameFault? name = none)
    (hlink : ∀ document, documentName? name = some document → ¬fs.IsLinked (above ++ [document])) :
    ((∃ path, documentPath fs directory name surrogates = .ok path) ↔
      ∀ segment ∈ segments name, segment ∉ ["", ".", ".."]) ∧
    (∀ path, documentPath fs directory name surrogates = .ok path →
      path = directory.join (.ofText (dotted name ++ ".xml")) ∧
      Path.ofText (dotted name ++ ".xml") = ⟨.relative, [dotted name ++ ".xml"]⟩ ∧
      fs.resolve path = .ok (above ++ [dotted name ++ ".xml"])) ∧
    (∀ e, documentPath fs directory name surrogates = .error e → e = .noDocumentName name) ∧
    ∀ other path path', documentPath fs directory name surrogates = .ok path →
      documentPath fs directory other surrogates = .ok path' →
      (path = path' ↔ dotted name = dotted other) := by
  have hsame : documentPath fs directory name surrogates = documentPath fs directory name :=
    documentPath_of_nameFault? fun document => nameFault?_document hdirectory hplain
  rw [hsame]
  refine ⟨?_, ?_, ?_, fun other path path' h h' => path_eq_iff h (documentPath_of_ok h')⟩
  · constructor
    · rintro ⟨path, h⟩
      obtain ⟨document, -, hname, -⟩ := documentPath_eq_ok h
      exact (documentName?_eq_some.mp hname).1
    · intro hparts
      have hname := documentName?_eq_some.mpr ⟨hparts, rfl⟩
      exact ⟨_, documentPath_eq_child hdir hresolve hnull hname (hlink _ hname)⟩
  · intro path h
    refine ⟨path_of_documentPath h,
      ofText_eq (document_not_isIdle name) (slash_not_mem_document name), ?_⟩
    obtain ⟨document, -, hname, rfl, -⟩ := documentPath_eq_ok h
    obtain ⟨-, rfl⟩ := documentName?_eq_some.mp hname
    exact resolve_document hdir hresolve hnull hname (hlink _ hname)
  · intro e h
    cases hname : documentName? name with
    | none =>
      rw [documentPath_eq_noDocumentName hname] at h
      cases h
      rfl
    | some document =>
      rw [documentPath_eq_child hdir hresolve hnull hname (hlink document hname)] at h
      cases h

/-- A directory that is reached through a link and from there through its parent, and is missing. -/
def besideLinked : FileSystem where
  entries :=
    [(["work"], .directory), (["work", "real"], .directory), (["work", "real", "sub"], .directory),
      (["work", "via"], .link "real/sub")]
  workdir := ["work"]

theorem documentPath_naming_besideLinked :
    let directory := Path.ofText "via/../out"
    let document := "a..b.c.xml"
    besideLinked.resolve directory = .ok ["work", "real", "out"] ∧
      documentName? "a./b\\c" = some document ∧
      ¬besideLinked.IsLinked (["work", "real", "out"] ++ [document]) ∧
      documentPath besideLinked directory "a./b\\c" = .ok (directory.join (.ofText document)) ∧
      ∀ path, documentPath besideLinked directory "a\\.b/c" = .ok path →
        directory.join (.ofText document) = path := by
  have hresolve : besideLinked.resolve (.ofText "via/../out") = .ok ["work", "real", "out"] := by
    decide +kernel
  have hname : documentName? "a./b\\c" = some "a..b.c.xml" := by decide +kernel
  have hflat : dotted "a./b\\c" = "a..b.c" := by decide +kernel
  have hlink : ¬besideLinked.IsLinked (["work", "real", "out"] ++ ["a..b.c.xml"]) :=
    FileSystem.not_isLinked (e := .refused .noEntry "/work/real/out/a..b.c.xml")
      (by decide +kernel) (by decide +kernel)
  have hlinks : ∀ document, documentName? "a./b\\c" = some document →
      ¬besideLinked.IsLinked (["work", "real", "out"] ++ [document]) := by
    intro document h
    rw [hname] at h
    cases h
    exact hlink
  obtain ⟨hiff, hpath, -, hsame⟩ := documentPath_naming (Path.ofText_isProper "via/../out")
    (Text.Surrogates.nameFault?_none _) hresolve (by decide +kernel)
    (Text.Surrogates.nameFault?_none _) hlinks
  obtain ⟨path, h⟩ := hiff.mpr (by decide +kernel)
  obtain ⟨rfl, -⟩ := hpath path h
  refine ⟨hresolve, hname, hlink, ?_, fun path' h' => ?_⟩
  · rwa [hflat] at h
  · rw [hflat] at h hsame
    exact (hsame _ _ _ h h').mpr (by decide +kernel)

/-- File names cannot have half a character, so there is no path for a class with such a name. -/
theorem documentPath_loneHigh :
    let directory := Path.ofText "out"
    let name := "\uE000"
    besideLinked.resolve directory = .ok ["work", "out"] ∧ '\x00' ∉ name.toList ∧
      documentName? name = some "\uE000.xml" ∧
      ¬besideLinked.IsLinked (["work", "out"] ++ ["\uE000.xml"]) ∧
      (∀ segment ∈ segments name, segment ∉ ["", ".", ".."]) ∧
      documentPath besideLinked directory name .loneHigh =
        .error (.file (.surrogate ⟨4, 0xD800, 1⟩)) := by
  have hlink : ¬besideLinked.IsLinked (["work", "out"] ++ ["\uE000.xml"]) :=
    FileSystem.not_isLinked (e := .refused .noEntry "/work/out/\uE000.xml")
      (by decide +kernel) (by decide +kernel)
  exact ⟨by decide +kernel, by decide +kernel, by decide +kernel, hlink, by decide +kernel,
    by decide +kernel⟩

end ProgramTags.Export
