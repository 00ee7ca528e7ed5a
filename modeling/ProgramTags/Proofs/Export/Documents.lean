import Mathlib.Data.List.Forall2
import ProgramTags.Proofs.Export.Containment
import ProgramTags.Proofs.Text.Utf8

/-!
# What is left of the documents

An export reports each class that it has written, yet different classes may be written to one file:
the names of their documents may be the same, or links may lead from one to another. `lastAt` is
the last class that was written to a location, and its document is what the file holds in the end.
So all documents that are reported are there exactly if classes that share a file share a document.
-/

namespace ProgramTags

def Outcome.location? (fs : FileSystem) (o : Outcome) : Option Location :=
  match o.path.map fun path => fs.find path with
  | some (.ok (.entry loc (.file _))) => some loc
  | _ => none

namespace Export

open FileSystem (Contained Grows)
open Session (Stays)

variable {settings : CollectSettings} {skipEmpty : Bool} {directory : Path} {c : ProgramClass}
  {fs gs : FileSystem} {s t : Session} {o : Outcome} {loc : Location}

theorem location?_eq_some : o.location? fs = some loc ↔
    ∃ path bytes, o.path = some path ∧ fs.find path = .ok (.entry loc (.file bytes)) := by
  unfold Outcome.location?
  constructor
  · intro h
    split at h
    · rename_i l bytes heq
      cases h
      obtain ⟨path, hpath, hfind⟩ := Option.map_eq_some_iff.mp heq
      exact ⟨path, bytes, hpath, hfind⟩
    · cases h
  · rintro ⟨path, bytes, hpath, hfind⟩
    simp [hpath, hfind]

/-- A document stays where it is. -/
theorem location?_grows (h : Grows fs gs) (ho : o.location? fs = some loc) :
    o.location? gs = some loc := by
  obtain ⟨path, bytes, hpath, hfind⟩ := location?_eq_some.mp ho
  obtain ⟨bytes', hbytes'⟩ := h.file (FileSystem.find_isAt hfind)
  refine location?_eq_some.mpr ⟨path, bytes', hpath, ?_⟩
  rw [FileSystem.find_grows h hfind]
  simp [FileSystem.Found.now, hbytes']

/-! ## Documents of classes -/

/-- The text is the document of the class, in whatever session it is rendered. -/
def Renders (settings : CollectSettings) (c : ProgramClass) (text : String) : Prop :=
  ∀ s : Session, ∃ t, render settings c s = .ok text t

theorem Renders.unique {text text' : String} (h : Renders settings c text)
    (h' : Renders settings c text') : text = text' := by
  obtain ⟨t, ht⟩ := h {}
  obtain ⟨t', ht'⟩ := h' {}
  rw [ht] at ht'
  cases ht'
  rfl

/-- Gathering gives the collection of the class in every session. -/
theorem collect_of_collection {found : Collection}
    (hfound : collection settings c = .ok found) (s : Session) :
    ∃ t, collect settings c s = .ok found t := by
  have hends := collect_ends settings c s
  cases hr : collect settings c s with
  | ok found' t =>
    obtain ⟨hfound', -⟩ := hends.of_ok hr
    rw [hfound] at hfound'
    cases hfound'
    exact ⟨t, rfl⟩
  | error e t =>
    obtain ⟨e', -, hfound', -⟩ := hends.of_error hr
    rw [hfound] at hfound'
    cases hfound'

theorem renders_of_collection {found : Collection} {text : String}
    (hfound : collection settings c = .ok found) (htext : Document.render found = .ok text) :
    Renders settings c text := by
  intro s
  obtain ⟨t, ht⟩ := collect_of_collection hfound s
  refine ⟨t, Ends.bind_ok ht ?_⟩
  rw [htext]
  rfl

/-- The document of a class, or why it has none. -/
def document (settings : CollectSettings) (c : ProgramClass) : Except ExportError String := do
  let found ← (collection settings c).mapError .gather
  (Document.render found).mapError .record

theorem document_of_collection {found : Collection} (h : collection settings c = .ok found) :
    document settings c = (Document.render found).mapError .record := by
  rw [document, h]
  rfl

theorem document_of_gather_error {e : GatherError} (h : collection settings c = .error e) :
    document settings c = .error (.gather e) := by
  rw [document, h]
  rfl

/-- A class has the same document in every session. -/
theorem render_ends (settings : CollectSettings) (c : ProgramClass) (s : Session) :
    Ends (render settings c) s (fun text _ => document settings c = .ok text)
      fun e _ => document settings c = .error e := by
  refine Ends.bind ((collect_ends settings c s).mono ?_ ?_)
  · rintro found t ⟨hfound, -⟩
    rw [document_of_collection hfound]
    cases Document.render found with
    | ok text => exact Ends.pure rfl
    | error e => exact Ends.throw rfl
  · rintro e t ⟨e', rfl, hfound, -⟩
    exact document_of_gather_error hfound

theorem renders_iff {text : String} : Renders settings c text ↔ document settings c = .ok text := by
  have hends := render_ends settings c
  refine ⟨fun h => ?_, fun h s => ?_⟩
  · obtain ⟨t, ht⟩ := h {}
    exact (hends {}).of_ok ht
  · cases hr : render settings c s with
    | ok text' t =>
      have htext := (hends s).of_ok hr
      rw [h] at htext
      cases htext
      exact ⟨t, rfl⟩
    | error e t =>
      have herror := (hends s).of_error hr
      rw [h] at herror
      cases herror

/-! ## One class -/

/-- A class that is written has its document somewhere. -/
theorem Exported.location?_isSome (h : Exported settings skipEmpty directory c s t o)
    (hs : s.LogsStand) (hg : Grows t.files fs) (ho : o.written) :
    ∃ loc, o.location? fs = some loc := by
  cases h with
  | skipped found hfound hskip htold => cases ho
  | written found path text u v hfound hskip hcollect htext hwrote htold =>
    obtain ⟨loc, -, hcontained, hfind⟩ := hwrote.written
    have hv := hwrote.logsStand (hcollect.logsStand hs)
    refine ⟨loc, location?_grows ((htold.grows hv).trans hg) ?_⟩
    exact location?_eq_some.mpr ⟨path, _, rfl, hfind⟩

/-- After the export of a class its document is where it leads to, and every other file that is no
log holds what it held. -/
theorem Exported.documents (h : Exported settings skipEmpty directory c s t o)
    (hs : s.LogsStand) (hg : Grows t.files fs) (hloc : ¬s.IsLog loc) :
    (o.location? fs = some loc → ∃ text, Renders settings c text ∧
      t.files.get? loc = some (.file (Text.Utf8.encode text.toList))) ∧
    (o.location? fs ≠ some loc → ∀ bytes, s.files.get? loc = some (.file bytes) →
      t.files.get? loc = some (.file bytes)) := by
  cases h with
  | skipped found hfound hskip htold =>
    refine ⟨fun h => ?_, fun _ bytes hbytes => ?_⟩
    · obtain ⟨path, -, hpath, -⟩ := location?_eq_some.mp h
      cases hpath
    · rw [htold.elsewhere loc hloc, hbytes]
  | written found path text u v hfound hskip hcollect htext hwrote htold =>
    obtain ⟨l, -, hcontained, hfind⟩ := hwrote.written
    have hv := hwrote.logsStand (hcollect.logsStand hs)
    have hat : Outcome.location? v.files
        ⟨c.name, some path, found.attributes.length, found.keys.length⟩ = some l :=
      location?_eq_some.mpr ⟨path, _, rfl, hfind⟩
    have hl := location?_grows ((htold.grows hv).trans hg) hat
    have hlogs : v.IsLog = s.IsLog :=
      Session.isLog_of_handlers (by rw [hwrote.journal, hcollect.handlers])
    have hafter : t.files.get? loc = v.files.get? loc := htold.elsewhere loc (by rwa [hlogs])
    rw [hl, hafter]
    refine ⟨fun h => ?_, fun h bytes hbytes => ?_⟩
    · cases h
      exact ⟨text, renders_of_collection hfound htext, FileSystem.find_isAt hfind⟩
    · refine hcontained.file_stays ?_ fun heq => h (by rw [heq])
      rw [hcollect.elsewhere loc hloc, hbytes]

/-! ## All classes -/

/-- Classes that are written have their documents somewhere. -/
theorem ExportedAll.location?_isSome {classes : List ProgramClass} {outcomes : List Outcome}
    (h : ExportedAll settings skipEmpty directory s classes outcomes t) (hs : s.LogsStand)
    (hg : Grows t.files fs) :
    List.Forall₂ (fun _ o => o.written → ∃ loc, o.location? fs = some loc) classes outcomes := by
  induction h with
  | nil => exact .nil
  | cons h hrest ih =>
    have ht := h.stays.logsStand hs
    exact .cons (h.location?_isSome hs ((hrest.stays.grows ht).trans hg)) (ih ht hg)

/-- The last class of which the document was written to the location. -/
def lastAt (fs : FileSystem) (loc : Location) (results : List (ProgramClass × Outcome)) :
    Option ProgramClass :=
  (results.filter fun x => x.2.location? fs = some loc).getLast?.map Prod.fst

theorem lastAt_cons (x : ProgramClass × Outcome) (rest : List (ProgramClass × Outcome)) :
    lastAt fs loc (x :: rest) =
      (lastAt fs loc rest).or (if x.2.location? fs = some loc then some x.1 else none) := by
  unfold lastAt
  by_cases hx : x.2.location? fs = some loc
  · rw [List.filter_cons_of_pos (by simpa using hx), List.getLast?_cons, if_pos hx]
    cases (rest.filter fun x => x.2.location? fs = some loc).getLast? <;> rfl
  · rw [List.filter_cons_of_neg (by simpa using hx), if_neg hx, Option.or_none]

/-- After the export of classes the document of the last one that leads to a location is there, and
a file to which none leads, and which is no log, holds what it held. -/
theorem ExportedAll.documents {classes : List ProgramClass} {outcomes : List Outcome}
    (h : ExportedAll settings skipEmpty directory s classes outcomes t) (hs : s.LogsStand)
    (hg : Grows t.files fs) (hloc : ¬s.IsLog loc) :
    (∀ c, lastAt fs loc (classes.zip outcomes) = some c → ∃ text, Renders settings c text ∧
      t.files.get? loc = some (.file (Text.Utf8.encode text.toList))) ∧
    (lastAt fs loc (classes.zip outcomes) = none → ∀ bytes,
      s.files.get? loc = some (.file bytes) → t.files.get? loc = some (.file bytes)) := by
  induction h with
  | nil => exact ⟨nofun, fun _ bytes hbytes => hbytes⟩
  | @cons s u t c classes o os h hrest ih =>
    have hu := h.stays.logsStand hs
    have hlogs := Session.isLog_of_handlers h.stays.handlers
    have hthen := ih hu hg (by rwa [hlogs])
    have hhere := h.documents hs ((hrest.stays.grows hu).trans hg) hloc
    rw [List.zip_cons_cons, lastAt_cons]
    cases hlast : lastAt fs loc (classes.zip os) with
    | some d =>
      refine ⟨fun c' hc' => ?_, fun hnone => ?_⟩
      · cases hc'
        exact hthen.1 d hlast
      · cases hnone
    | none =>
      have hkeep := hthen.2 hlast
      by_cases hat : o.location? fs = some loc
      · rw [if_pos hat]
        refine ⟨fun c' hc' => ?_, fun hnone => ?_⟩
        · cases hc'
          obtain ⟨text, htext, hbytes⟩ := hhere.1 hat
          exact ⟨text, htext, hkeep _ hbytes⟩
        · cases hnone
      · rw [if_neg hat]
        exact ⟨nofun, fun _ bytes hbytes => hkeep _ (hhere.2 hat _ hbytes)⟩

/-- Of the classes that lead to a location, one is the last. -/
theorem lastAt_of_mem {results : List (ProgramClass × Outcome)} {x : ProgramClass × Outcome}
    (hx : x ∈ results) (hloc : x.2.location? fs = some loc) :
    ∃ y ∈ results, y.2.location? fs = some loc ∧ lastAt fs loc results = some y.1 := by
  have hmem : x ∈ results.filter fun x => x.2.location? fs = some loc :=
    List.mem_filter.mpr ⟨hx, by simpa using hloc⟩
  obtain ⟨y, hy⟩ := Option.isSome_iff_exists.mp (List.getLast?_isSome.mpr (List.ne_nil_of_mem hmem))
  obtain ⟨hmemy, hlocy⟩ := List.mem_filter.mp (List.mem_of_getLast? hy)
  exact ⟨y, hmemy, by simpa using hlocy, by rw [lastAt, hy, Option.map_some]⟩

/-! ## The whole export -/

variable {p : Program} {outcomes : List Outcome}

/-- A class that is reported as written has its document somewhere. -/
theorem program_location?_isSome (hs : s.LogsStand)
    (h : (program settings skipEmpty directory p) s = .ok outcomes t)
    {x : ProgramClass × Outcome} (hx : x ∈ p.classes.zip outcomes) (hw : x.2.written) :
    ∃ loc, x.2.location? t.files = some loc := by
  obtain ⟨u, hrun, htell⟩ := program_eq_ok h
  have hlocated := hrun.location?_isSome hs (htell.grows (hrun.stays.logsStand hs))
  exact (List.forall₂_iff_zip.mp hlocated).2 hx hw

/-- What is left at a location that is no log is the document of the last class written to it. -/
theorem program_last (hs : s.LogsStand)
    (h : (program settings skipEmpty directory p) s = .ok outcomes t) (hloc : ¬s.IsLog loc)
    (hc : lastAt t.files loc (p.classes.zip outcomes) = some c) :
    ∃ text, Renders settings c text ∧
      t.files.get? loc = some (.file (Text.Utf8.encode text.toList)) := by
  obtain ⟨u, hrun, htell⟩ := program_eq_ok h
  have hgrows := htell.grows (hrun.stays.logsStand hs)
  obtain ⟨text, htext, hbytes⟩ := (hrun.documents hs hgrows hloc).1 c hc
  refine ⟨text, htext, ?_⟩
  rw [htell.elsewhere loc (by rwa [Session.isLog_of_handlers hrun.stays.handlers]), hbytes]

/-- The document of the class is in its file, and nothing else. -/
def Holds (fs : FileSystem) (settings : CollectSettings) (c : ProgramClass) (o : Outcome) : Prop :=
  ∃ path loc text, o.path = some path ∧ Renders settings c text ∧
    fs.find path = .ok (.entry loc (.file (Text.Utf8.encode text.toList)))

/-- A file that holds the document of a class is where the class has its document. -/
theorem Holds.at_location (h : Holds fs settings c o) (ho : o.location? fs = some loc) :
    ∃ text, Renders settings c text ∧
      fs.get? loc = some (.file (Text.Utf8.encode text.toList)) := by
  obtain ⟨path, l, text, hpath, htext, hfind⟩ := h
  obtain ⟨path', bytes, hpath', hfind'⟩ := location?_eq_some.mp ho
  rw [hpath] at hpath'
  cases hpath'
  rw [hfind] at hfind'
  cases hfind'
  exact ⟨text, htext, FileSystem.find_isAt hfind⟩

theorem holds_of_location {text : String} (ho : o.location? fs = some loc)
    (htext : Renders settings c text)
    (hbytes : fs.get? loc = some (.file (Text.Utf8.encode text.toList))) :
    Holds fs settings c o := by
  obtain ⟨path, bytes, hpath, hfind⟩ := location?_eq_some.mp ho
  have hget : fs.get? loc = some (.file bytes) := FileSystem.find_isAt hfind
  rw [hbytes] at hget
  cases hget
  exact ⟨path, loc, text, hpath, htext, hfind⟩

/-- After a successful export, of which no document is a log file, the documents of all classes that
are reported as written are in their files exactly if classes that share a file have the same
document. -/
theorem program_holds_iff (hs : s.LogsStand)
    (h : (program settings skipEmpty directory p) s = .ok outcomes t)
    (hlogs : ∀ o ∈ outcomes, ∀ loc, o.location? t.files = some loc → ¬s.IsLog loc) :
    List.Forall₂ (fun c o => o.written → Holds t.files settings c o) p.classes outcomes ↔
      ∀ x ∈ p.classes.zip outcomes, ∀ y ∈ p.classes.zip outcomes, ∀ loc,
        x.2.location? t.files = some loc → y.2.location? t.files = some loc →
        ∀ text, Renders settings x.1 text → Renders settings y.1 text := by
  rw [List.forall₂_iff_zip]
  constructor
  · rintro ⟨-, hold⟩ x hx y hy loc hxloc hyloc text htext
    have hwritten : ∀ o : Outcome, o.location? t.files = some loc → o.written := by
      intro o ho
      obtain ⟨path, -, hpath, -⟩ := location?_eq_some.mp ho
      rw [Outcome.written, hpath]
      rfl
    obtain ⟨textx, hxtext, hxbytes⟩ := (hold hx (hwritten _ hxloc)).at_location hxloc
    obtain ⟨texty, hytext, hybytes⟩ := (hold hy (hwritten _ hyloc)).at_location hyloc
    rw [hxbytes] at hybytes
    have hsame : textx = texty := by
      have hencode : Text.Utf8.encode textx.toList = Text.Utf8.encode texty.toList :=
        Entry.file.inj (Option.some.inj hybytes)
      exact String.toList_injective (Text.Utf8.encode_injective hencode)
    rw [htext.unique hxtext, hsame]
    exact hytext
  · intro hshare
    obtain ⟨u, hrun, -⟩ := program_eq_ok h
    refine ⟨(hrun.location?_isSome hs (.refl _)).length_eq, fun {c o} hx hw => ?_⟩
    obtain ⟨loc, hxloc⟩ := program_location?_isSome hs h hx hw
    obtain ⟨y, hy, hyloc, hlast⟩ := lastAt_of_mem hx hxloc
    have hnolog := hlogs o (List.of_mem_zip hx).2 loc hxloc
    obtain ⟨text, htext, hbytes⟩ := program_last hs h hnolog hlast
    exact holds_of_location hxloc (hshare y hy (c, o) hx loc hyloc hxloc text htext) hbytes

/-- Two classes that lead to one file. -/
def flattened : Program :=
  ⟨[⟨"a/b", [.text "x" ""], [], []⟩, ⟨"a.b", [.text "y" ""], [], []⟩]⟩

def textDocument (info : String) : String :=
  Document.opening ++ "<attribute>\n<jmpPos sline=\"0\" eline=\"0\"/>\n<textAttribute info=\"" ++
    info ++ "\" aType=\"\"/>\n</attribute>\n" ++ Document.closing

/-- Both classes are reported as written, and a document is lost. -/
theorem program_holds_iff_flattened :
    ∃ outcomes t, (program {} true ⟨.relative, ["out"]⟩ flattened) {} = .ok outcomes t ∧
      Session.LogsStand {} ∧
      (∀ o ∈ outcomes, ∀ loc, o.location? t.files = some loc → ¬Session.IsLog {} loc) ∧
      (∀ o ∈ outcomes, o.written) ∧
      ¬List.Forall₂ (fun c o => o.written → Holds t.files {} c o) flattened.classes outcomes := by
  have hnolog : ∀ loc, ¬Session.IsLog {} loc := by
    rintro loc ⟨handler, hmem, -⟩
    cases hmem
  have hlogs : Session.LogsStand {} := fun loc hloc => absurd hloc (hnolog loc)
  have hlocs : (match (program {} true ⟨.relative, ["out"]⟩ flattened) {} with
      | .ok outcomes t => outcomes.map fun o => (o.location? t.files, o.written)
      | .error _ _ => []) =
      [(some ["out", "a.b.xml"], true), (some ["out", "a.b.xml"], true)] := by
    decide +kernel
  have hx : Renders {} ⟨"a/b", [.text "x" ""], [], []⟩ (textDocument "x") :=
    renders_of_collection rfl (by decide +kernel)
  have hy : Renders {} ⟨"a.b", [.text "y" ""], [], []⟩ (textDocument "y") :=
    renders_of_collection rfl (by decide +kernel)
  cases hr : (program {} true ⟨.relative, ["out"]⟩ flattened) {} with
  | error e t => rw [hr] at hlocs; cases hlocs
  | ok outcomes t =>
    rw [hr] at hlocs
    obtain ⟨o, rest, rfl, ho, hrest⟩ := List.map_eq_cons_iff.mp hlocs
    obtain ⟨o', rest', rfl, ho', hnil⟩ := List.map_eq_cons_iff.mp hrest
    rw [List.map_eq_nil_iff.mp hnil] at hr ⊢
    refine ⟨[o, o'], t, rfl, hlogs, fun _ _ loc _ => hnolog loc, ?_, fun hold => ?_⟩
    · intro x hx
      rcases List.mem_pair.mp hx with rfl | rfl
      · exact congrArg Prod.snd ho
      · exact congrArg Prod.snd ho'
    · have hshare := (program_holds_iff hlogs hr fun _ _ loc _ => hnolog loc).mp hold
      have hy' := hshare _ (.head _) _ (.tail _ (.head _)) _ (congrArg Prod.fst ho)
        (congrArg Prod.fst ho') _ hx
      have hsame : textDocument "x" = textDocument "y" := hy'.unique hy
      exact absurd hsame (by decide)

end Export

end ProgramTags
