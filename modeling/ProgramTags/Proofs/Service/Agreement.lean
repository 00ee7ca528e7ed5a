import ProgramTags.Dump.Load
import ProgramTags.Proofs.Dump.RoundTrip
import ProgramTags.Proofs.Export.Effect
import ProgramTags.Proofs.Export.Loaded
import ProgramTags.Proofs.Export.Surrogates
import ProgramTags.Service

/-!
# The service and the exports agree

A class can be rendered, exported into a file, or asked for in a request, and each way gathers and
writes on its own. `Agrees settings c d`: the document `d` that the service answers with for the
class `c` is the text that `c` is rendered as, it is what an export that writes `c` has put into the
file, and all ways count the same attributes and keys. `answerValue_agrees` says so of every class
of a program from a dump.
-/

namespace ProgramTags

open Export (Renders)
open Service (ClassDocument)

/-! ## Files that have just been written -/

namespace Export

variable {settings : CollectSettings} {skipEmpty : Bool} {directory path : Path}
  {c : ProgramClass} {s t : Session} {o : Outcome} {found : Collection} {text : String}

theorem Filled.read_eq (h : Filled path text s t) :
    t.files.read path = .ok (Text.Utf8.encode text.toList) := by
  obtain ⟨-, loc, hopens, hr, hbytes⟩ := h
  rw [FileSystem.read, hopens.find_eq hr.grows hbytes]

/-- When a class has been written, that is told, and nothing comes between. -/
theorem programClass_written (h : (programClass settings skipEmpty directory c) s = .ok o t)
    (hpath : o.path = some path) :
    ∃ found text message, ∃ v : Session, collection settings c = .ok found ∧
      Document.render found = .ok text ∧ t = v.tell message ∧
      v.files.read path = .ok (Text.Utf8.encode text.toList) := by
  obtain ⟨found, u, hcollect, h⟩ := Ends.bind_eq_ok h
  obtain ⟨hfound, -⟩ := (collect_ends settings c s).of_ok hcollect
  by_cases hskip : (found.isEmpty && skipEmpty) = true
  · simp only [hskip, if_true] at h
    obtain ⟨_, v, -, h⟩ := Ends.bind_eq_ok h
    cases h
    cases hpath
  · simp only [hskip, Bool.false_eq_true, if_false] at h
    obtain ⟨_, _, -, h⟩ := Ends.bind_eq_ok h
    obtain ⟨_, _, -, h⟩ := Ends.bind_eq_ok h
    obtain ⟨_, w, -, h⟩ := Ends.bind_eq_ok h
    obtain ⟨_, v, hwrite, h⟩ := Ends.bind_eq_ok h
    obtain ⟨_, _, htell, h⟩ := Ends.bind_eq_ok h
    cases htell
    cases h
    cases hpath
    obtain ⟨text, htext, hfilled⟩ := (writeDocument_ends path found w).of_ok hwrite
    exact ⟨found, text, _, v, hfound, htext, rfl, hfilled.read_eq⟩

end Export

/-! ## One class -/

namespace Service

variable {settings : CollectSettings} {skipEmpty : Bool} {directory : Path} {c : ProgramClass}
  {d : ClassDocument} {o : Outcome}

/-- The outcome of an export counts what the document of the service counts, and the class has been
left out exactly if that is nothing and such classes are. -/
structure Counted (skipEmpty : Bool) (d : ClassDocument) (o : Outcome) : Prop where
  className : o.className = d.name
  attributes : o.attributes = d.attributes
  keys : o.keys = d.keys
  skipped_iff : o.path = none ↔ skipEmpty = true ∧ d.attributes = 0 ∧ d.keys = 0

/-- The document that the service answers with for a class is that of every other way. -/
structure Agrees (settings : CollectSettings) (c : ProgramClass) (d : ClassDocument) : Prop where
  name : d.name = c.name
  counts : ∃ found, (∀ s, ∃ t, Export.collect settings c s = .ok found t) ∧
    d.attributes = found.attributes.length ∧ d.keys = found.keys.length
  rendered : Renders settings c d.xml
  /-- An export of the class counts the same. If it writes the class, all that follows is a message,
  and before that the file reads as the document. -/
  exported : ∀ skipEmpty directory s o t,
    (Export.programClass settings skipEmpty directory c) s = .ok o t →
      Counted skipEmpty d o ∧ ∀ path, o.path = some path → ∃ message bytes, ∃ v : Session,
        t = v.tell message ∧ v.files.read path = .ok bytes ∧
          Text.Utf8.decode bytes = .ok d.xml.toList

theorem counted_of_reported {found : Collection}
    (hfound : Export.collection settings c = .ok found)
    (h : Export.Reported settings skipEmpty directory c o) (xml : String) :
    Counted skipEmpty ⟨c.name, found.attributes.length, found.keys.length, xml⟩ o := by
  obtain ⟨found', hfound', hattributes, hkeys⟩ := h.counts
  rw [hfound] at hfound'
  cases hfound'
  refine ⟨h.className, hattributes, hkeys, ?_⟩
  rw [h.skipped_iff, hattributes, hkeys]

theorem Agrees.counted (h : Agrees settings c d)
    (ho : Export.Reported settings skipEmpty directory c o) : Counted skipEmpty d o := by
  obtain ⟨found, hcollect, hattributes, hkeys⟩ := h.counts
  obtain ⟨t, ht⟩ := hcollect {}
  obtain ⟨hfound, -⟩ := (Export.collect_ends settings c {}).of_ok ht
  have hcounted := counted_of_reported hfound ho d.xml
  rwa [← h.name, ← hattributes, ← hkeys] at hcounted

/-- The service shows a class whose tags are showable, as all other ways do. -/
theorem classDocument_agrees (settings : CollectSettings) (h : c.Conforms Tag.IsShowable) :
    ∃ d, classDocument collector settings c = .ok d ∧ Agrees settings c d := by
  have hfound := Export.collection_eq_ok settings h
  obtain ⟨text, htext, -⟩ :=
    Document.read?_render_shownOf (Export.collection_isPlain settings h hfound)
  refine ⟨_, by simp only [classDocument, collector, hfound, htext]; rfl, rfl,
    ⟨_, Export.collect_of_collection hfound, rfl, rfl⟩,
    Export.renders_of_collection hfound htext, fun skipEmpty directory s o t hr => ?_⟩
  have hexported := (Export.programClass_ends settings skipEmpty directory c s).of_ok hr
  refine ⟨counted_of_reported hfound hexported.reported text, fun path hpath => ?_⟩
  obtain ⟨found', text', message, v, hfound', htext', htell, hread⟩ :=
    Export.programClass_written hr hpath
  rw [hfound] at hfound'
  cases hfound'
  rw [htext] at htext'
  cases htext'
  exact ⟨message, _, v, htell, hread, Text.Utf8.decode_encode _⟩

/-! ## Requests -/

/-- The value asks for the documents of the program, gathered with these settings. -/
def Asks (v : Value) (p : Program) (settings : CollectSettings) : Prop :=
  ∃ r, Request.ofValue v = .ok r ∧ Dump.program (.mapping r.program) = .ok p ∧
    r.collect = settings

def requestFor (p : Program) (settings : CollectSettings) : Value :=
  .mapping [(.text "program", p.toDump), (.text "include_bodies", .bool settings.includeBodies),
    (.text "include_keys", .bool settings.keys)]

/-- Whatever can be loaded can be asked for. -/
theorem asks_requestFor {dump : Value} {p : Program} (h : Dump.program dump = .ok p)
    (settings : CollectSettings) : Asks (requestFor p settings) p settings := by
  have hfilled : p.Conforms Tag.IsFilled :=
    Dump.program_conforms Value.hereditary_true (fun loc v t _ => Dump.tag_isFilled loc v t)
      True.intro h
  refine ⟨⟨_, settings⟩, ?_, Dump.program_toDump hfilled, rfl⟩
  simp [Request.ofValue, requestFor, readProgram, readField, readChoice, Program.toDump]

/-- Octets that spell a value are answered as the value is. -/
theorem answer_of_read {collector : Collector} {bytes : List UInt8} {text : List Char} {v : Value}
    (htext : Json.textOf? bytes = some text) (hread : Json.read text = .ok v) :
    answer collector bytes = answerValue collector v := by
  have hne : bytes.isEmpty = false := by
    cases bytes with
    | cons b bytes => rfl
    | nil =>
      cases htext
      cases hread
  simp only [answer, hne, htext, hread, Bool.false_eq_true, if_false]

/-! ## Whole programs -/

theorem Agrees.counted_all {classes : List ProgramClass} {documents : List ClassDocument}
    {outcomes : List Outcome} (h : List.Forall₂ (Agrees settings) classes documents)
    (ho : List.Forall₂ (Export.Reported settings skipEmpty directory) classes outcomes) :
    List.Forall₂ (Counted skipEmpty) documents outcomes := by
  induction h generalizing outcomes with
  | nil =>
    cases ho
    exact .nil
  | cons hd _ ih =>
    cases ho with
    | cons ho hos => exact .cons (hd.counted ho) (ih hos)

/-- Every program from a dump whose numbers have decimal texts can be asked for, with any settings.
The answer has a document for each class, and the service, an export and whoever renders the class
agree on it. -/
theorem answerValue_agrees {dump : Value} {p : Program} (hd : dump.numbersFit = true)
    (h : Dump.program dump = .ok p) (settings : CollectSettings) :
    (∃ v, Asks v p settings) ∧ ∀ v, Asks v p settings → ∃ documents,
      answerValue collector v = .documents documents ∧
      (∀ bytes text, Json.textOf? bytes = some text → Json.read text = .ok v →
        answer collector bytes = .documents documents) ∧
      List.Forall₂ (Agrees settings) p.classes documents ∧
      ∀ skipEmpty directory s outcomes t,
        (Export.program settings skipEmpty directory p) s = .ok outcomes t →
          List.Forall₂ (Counted skipEmpty) documents outcomes := by
  have hshowable := Dump.program_conforms Value.hereditary_numbersFit Dump.tag_isShowable hd h
  refine ⟨⟨_, asks_requestFor h settings⟩, ?_⟩
  rintro v ⟨r, hr, hprogram, rfl⟩
  obtain ⟨documents, hdocuments, hagree⟩ := Except.exists_mapM_eq_ok fun c hc =>
    classDocument_agrees r.collect (hshowable c hc)
  have hanswer : answerValue collector v = .documents documents := by
    simp only [answerValue_none, hr, answerRequest, hprogram, hdocuments]
  refine ⟨documents, hanswer, fun bytes text htext hread => ?_, hagree, ?_⟩
  · rw [answer_of_read htext hread, hanswer]
  · intro skipEmpty directory s outcomes t hrun
    obtain ⟨u, hall, -⟩ := Export.program_eq_ok hrun
    exact Agrees.counted_all hagree hall.reported

/-- A class with a text of two lines and a record that shows nothing, and one without tags. -/
def quietDump : Value :=
  let note := Value.mapping [(.text "text", .text "ä\n<")]
  let line := Value.mapping [(.text "kind", .text "line_number"), (.text "line", .int 3)]
  let field := Value.mapping [(.text "name", .text "f"), (.text "tags", .list [line])]
  .mapping [(.text "classes", .list
    [.mapping [(.text "name", .text "A"), (.text "tags", .list [note]),
        (.text "fields", .list [field])],
      .mapping [(.text "name", .text "B")]])]

theorem answerValue_agrees_quietDump :
    let p : Program := ⟨[⟨"A", [.text "ä\n<" ""], [⟨"f", [.lineNumber 3]⟩], []⟩, ⟨"B", [], [], []⟩]⟩
    quietDump.numbersFit = true ∧ Dump.program quietDump = .ok p ∧ ∃ documents,
      answerValue collector (requestFor p ⟨true, false⟩) = .documents documents ∧
      List.Forall₂ (Agrees ⟨true, false⟩) p.classes documents ∧
      documents = [⟨"A", 2, 0, Export.textDocument "ä\n&lt;"⟩,
        ⟨"B", 0, 0, Document.opening ++ Document.closing⟩] := by
  intro p
  have hfit : quietDump.numbersFit = true := by decide +kernel
  have hread : Dump.program quietDump = .ok p := by decide +kernel
  obtain ⟨documents, hanswer, -, hagree, -⟩ :=
    (answerValue_agrees hfit hread ⟨true, false⟩).2 _ (asks_requestFor hread _)
  refine ⟨hfit, hread, documents, hanswer, hagree, ?_⟩
  have hrun : answerValue collector (requestFor p ⟨true, false⟩) =
      .documents [⟨"A", 2, 0, Export.textDocument "ä\n&lt;"⟩,
        ⟨"B", 0, 0, Document.opening ++ Document.closing⟩] := by
    rw [answerValue_none]
    decide +kernel
  rw [hrun] at hanswer
  cases hanswer
  rfl

/-- Half a character can be loaded and rendered, but neither a file nor an answer can have it. The
file has been opened before that, and what comes before the record stays in it. -/
theorem answerValue_loneHigh :
    let c : ProgramClass := ⟨"A", [.text "\uE000" ""], [], []⟩
    Dump.ofText (.ofText "p.json") Dump.halvedText .unbounded .loneHigh = .ok ⟨[c]⟩ ∧
      Renders {} c (Export.textDocument "\uE000") ∧
      Asks (requestFor ⟨[c]⟩ {}) ⟨[c]⟩ {} ∧
      answerValue collector (requestFor ⟨[c]⟩ {}) .loneHigh =
        .broken (.surrogate ⟨183, 0xD800, 1⟩) ∧
      ∃ t, (Export.program {} true ⟨.relative, ["out"]⟩ ⟨[c]⟩ .loneHigh) {} =
          .error (.record (.surrogate ⟨63, 0xD800, 1⟩)) t ∧
        t.files.get? ["out", "A.xml"] =
          some (.file (Text.Utf8.encode Document.opening.toList)) := by
  intro c
  have hload : Dump.ofText (.ofText "p.json") Dump.halvedText .unbounded .loneHigh = .ok ⟨[c]⟩ := by
    decide +kernel
  have hrun : (match (Export.program {} true ⟨.relative, ["out"]⟩ ⟨[c]⟩ .loneHigh) {} with
      | .ok .. => none
      | .error e t => some (e, t.files.get? ["out", "A.xml"])) =
      some (.record (.surrogate ⟨63, 0xD800, 1⟩),
        some (.file (Text.Utf8.encode Document.opening.toList))) := by
    decide +kernel
  have hread : Dump.program (Program.toDump ⟨[c]⟩) = .ok ⟨[c]⟩ := by decide +kernel
  have hrender : Renders {} c (Export.textDocument "\uE000") :=
    Export.renders_iff.mpr (by decide +kernel)
  refine ⟨hload, hrender, asks_requestFor hread {}, by decide +kernel, ?_⟩
  cases hr : (Export.program {} true ⟨.relative, ["out"]⟩ ⟨[c]⟩ .loneHigh) {} with
  | ok outcomes t =>
    rw [hr] at hrun
    cases hrun
  | error e t =>
    rw [hr] at hrun
    obtain ⟨rfl, hleft⟩ := Prod.mk.inj (Option.some.inj hrun)
    exact ⟨t, rfl, hleft⟩

end Service

end ProgramTags
