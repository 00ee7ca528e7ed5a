import ProgramTags.Proofs.Dump.Loading
import ProgramTags.Proofs.Export.Loaded
import ProgramTags.Proofs.Export.Run
import ProgramTags.Proofs.Export.Surrogates

/-!
# How the export of a loaded program fails

The tags of a program from a dump are what they report and no body is lost, so gathering from it
does not fail. What can fail are names that lead to no document, files that cannot be made, and
integers that have no decimal text; and of these there are none but in a YAML text
(`load_showable`).
-/

namespace ProgramTags

/-! ## Records whose tags are what they report -/

namespace Document

variable {e : RenderError}

/-- A number that cannot be shown is too long. -/
theorem number_cases (n : Int) :
    (∃ text, number n = .ok text) ∨ ∃ long, number n = .error (.number long) := by
  unfold number Decimal.text
  split
  · exact .inr ⟨_, rfl⟩
  · exact .inl ⟨_, rfl⟩

/-- What begins with a number fails for a number if the rest does. -/
theorem bind_number_error {α : Type} {n : Int} {f : String → Except RenderError α}
    (hf : ∀ text, f text = .error e → ∃ long, e = .number long)
    (h : (number n >>= f) = .error e) : ∃ long, e = .number long := by
  rcases number_cases n with ⟨text, hn⟩ | ⟨long, hn⟩
  · rw [hn, Except.ok_bind] at h
    exact hf text h
  · rw [hn] at h
    exact ⟨long, (Except.error.inj h).symm⟩

theorem attributeElement_error {a : Attribute} (ha : ∀ t ∈ a.tags, t.isLabelled = true)
    (h : attributeElement a = .error e) : ∃ long, e = .number long := by
  obtain ⟨entries, hentries, -⟩ := entries_eq_ok ha
  unfold attributeElement at h
  rw [hentries, Except.mapError_ok, Except.ok_bind] at h
  split at h
  · cases h
  · refine bind_number_error ?_ h
    intro first h
    refine bind_number_error ?_ h
    intro last h
    cases h

theorem keyElement_error {k : Key} (h : keyElement k = .error e) : ∃ long, e = .number long := by
  refine bind_number_error ?_ h
  intro red h
  refine bind_number_error ?_ h
  intro green h
  refine bind_number_error ?_ h
  intro blue h
  cases h

/-- A document fails for a number if the tags of its records are what they report. -/
theorem write_error {c : Collection} {text : String}
    (hc : ∀ a ∈ c.attributes, ∀ t ∈ a.tags, t.isLabelled = true)
    (h : (write c).run "" = .error e text) : ∃ long, e = .number long := by
  obtain ⟨texts, rest, helements, -⟩ := run_write_eq_error_iff.mp h
  have hmem : Except.error e ∈ elements c := by
    rw [helements]
    exact List.mem_append_right _ List.mem_cons_self
  rcases List.mem_append.mp hmem with hmem | hmem
  · obtain ⟨a, ha, herror⟩ := List.mem_map.mp hmem
    exact attributeElement_error (hc a ha) herror
  · obtain ⟨k, -, herror⟩ := List.mem_map.mp hmem
    exact keyElement_error herror

theorem render_eq_error {c : Collection} (h : render c = .error e) :
    ∃ text, (write c).run "" = .error e text := by
  unfold render textOf at h
  split at h
  · cases h
  · rename_i e' text hrun
    cases h
    exact ⟨text, hrun⟩

end Document

/-! ## Programs from files -/

namespace Dump

variable {fs : FileSystem} {p : Path} {stack : Stack} {surrogates : Text.Surrogates}
  {found : Program}

theorem tag_isLabelled (loc : Location) (v : Value) (t : Tag) (h : tag loc v = .ok t) :
    t.isLabelled = true := by
  obtain ⟨entries, -, ht⟩ := tag_eq_ok h
  cases t with
  | foreign tag => exact ht.elim
  | _ => rfl

/-- The file spells in YAML an integer that has no decimal text. -/
def HasLongInteger (fs : FileSystem) (p : Path) (surrogates : Text.Surrogates) : Prop :=
  isJsonFile p = false ∧ ∃ text data, fs.readText p = .ok text ∧
    Yaml.read text surrogates = .ok data ∧ data.numbersFit = false

theorem load_eq_ok (h : load fs p stack surrogates = .ok found) :
    ∃ text data, fs.readText p = .ok text ∧ stack text = none ∧
      readData p text surrogates = .ok data ∧
      program (if data.isNull then .mapping [] else data) = .ok found := by
  have hcases := load_cases fs p stack surrogates
  split at hcases
  · rw [hcases] at h
    cases h
  · rw [hcases] at h
    cases h
  · rename_i hp
    rw [load_of_doesExist hp] at h
    obtain ⟨text, htext, h⟩ := Except.bind_eq_ok h
    unfold ofText at h
    split at h
    · cases h
    · rename_i room
      obtain ⟨data, hdata, h⟩ := Except.bind_eq_ok h
      exact ⟨text, data, Except.mapError_eq_ok htext, room, hdata, Except.mapError_eq_ok h⟩

theorem load_isLabelled (h : load fs p stack surrogates = .ok found) :
    found.Conforms fun t => t.isLabelled = true := by
  obtain ⟨text, data, -, -, -, hprogram⟩ := load_eq_ok h
  exact program_conforms Value.hereditary_true (fun loc v t _ => tag_isLabelled loc v t) trivial
    hprogram

/-- All tags of a loaded program can be shown, but where YAML has spelled an integer that is too
long. -/
theorem load_isShowable (h : load fs p stack surrogates = .ok found) :
    found.Conforms Tag.IsShowable ∨ HasLongInteger fs p surrogates := by
  obtain ⟨text, data, htext, room, hdata, hprogram⟩ := load_eq_ok h
  cases hfit : data.numbersFit with
  | true =>
    refine .inl (program_conforms Value.hereditary_numbersFit tag_isShowable ?_ hprogram)
    split
    · rfl
    · exact hfit
  | false =>
    rcases readData_cases p surrogates room with ⟨data', hdata', hformat⟩ | ⟨e, he, -⟩
    · rw [hdata] at hdata'
      cases hdata'
      rcases hformat with ⟨-, hread⟩ | ⟨hyaml, hread⟩
      · rw [Json.numbersFit_of_isData data (Json.isData_of_read hread)] at hfit
        cases hfit
      · exact .inr ⟨hyaml, text, data, htext, hread, hfit⟩
    · rw [hdata] at he
      cases he

end Dump

namespace Export

variable {fs : FileSystem} {p directory : Path} {stack : Stack} {surrogates : Text.Surrogates}
  {found : Program} {settings : CollectSettings} {skipEmpty : Bool} {c : ProgramClass}
  {s t : Session} {e : ExportError}

/-- Gathering from a loaded program does not fail, and its documents fail for integers that are too
long. -/
theorem collection_of_load (settings : CollectSettings)
    (h : Dump.load fs p stack surrogates = .ok found) (hc : c ∈ found.classes) :
    ∃ collected, collection settings c = .ok collected ∧
      ∀ e text, (Document.write collected).run "" = .error e text →
        (∃ long, e = .number long) ∧ Dump.HasLongInteger fs p surrogates := by
  have hlabelled := Dump.load_isLabelled h c hc
  have hcollected := collection_of_conforms settings (fun _ ht => ht) hlabelled
  refine ⟨_, hcollected, fun e text hwrite => ⟨?_, ?_⟩⟩
  · exact Document.write_error (ProgramClass.attributes_forall hlabelled _) hwrite
  · rcases Dump.load_isShowable h with hshowable | hlong
    · have hplain := collection_isPlain settings (hshowable c hc) hcollected
      obtain ⟨text', htext', -⟩ := Document.read?_render_shownOf hplain
      rw [Document.render, Document.textOf, hwrite] at htext'
      cases htext'
    · exact hlong

/-- Every class of a loaded program has a document, if there is no integer that is too long. -/
theorem exists_renders_of_load (settings : CollectSettings)
    (h : Dump.load fs p stack surrogates = .ok found)
    (hshort : ¬Dump.HasLongInteger fs p surrogates) (hc : c ∈ found.classes) :
    ∃ text, Renders settings c text := by
  obtain ⟨collected, hcollected, hwrites⟩ := collection_of_load settings h hc
  cases hrender : Document.render collected with
  | ok text => exact ⟨text, renders_of_collection hcollected hrender⟩
  | error e =>
    obtain ⟨text, hwrite⟩ := Document.render_eq_error hrender
    exact absurd (hwrites e text hwrite).2 hshort

/-- What can stop the export of the program of a file: a class without a name for its document, a
file that cannot be made, an integer that is too long, and a text with a lone surrogate. -/
inductive Hinders (fs : FileSystem) (p : Path) (surrogates : Text.Surrogates) :
    ExportError → Prop where
  | noDocumentName (name : String) : Hinders fs p surrogates (.noDocumentName name)
  | outside (name directory : String) : Hinders fs p surrogates (.outside name directory)
  | file (e : FileError) : Hinders fs p surrogates (.file e)
  | number (long : Decimal.TooLong) (h : Dump.HasLongInteger fs p surrogates) :
    Hinders fs p surrogates (.record (.number long))
  | surrogate (e : Text.SurrogateFault) : Hinders fs p surrogates (.record (.surrogate e))

/-- A class that no path leads to has a name that cannot be used, or a path cannot be resolved. -/
theorem documentPath_error {gs : FileSystem} {name : String}
    (h : documentPath gs directory name = .error e) :
    e = .noDocumentName name ∨ e = .outside name directory.text ∨ ∃ why, e = .file why := by
  rw [documentPath_none] at h
  split at h
  · cases h
    exact .inl rfl
  · cases hpath : gs.resolve (directory.child ‹String›) with
    | error why =>
      rw [hpath] at h
      cases h
      exact .inr (.inr ⟨why, rfl⟩)
    | ok loc =>
      rw [hpath, Except.mapError_ok, Except.ok_bind] at h
      cases hdir : gs.resolve directory with
      | error why =>
        rw [hdir] at h
        cases h
        exact .inr (.inr ⟨why, rfl⟩)
      | ok above =>
        rw [hdir, Except.mapError_ok, Except.ok_bind] at h
        split at h
        · cases h
        · cases h
          exact .inr (.inl rfl)

theorem documentPath_hinders {gs : FileSystem} {name : String}
    (h : documentPath gs directory name = .error e) : Hinders fs p surrogates e := by
  rcases documentPath_error h with rfl | rfl | ⟨why, rfl⟩
  · exact .noDocumentName name
  · exact .outside name _
  · exact .file why

/-- Nothing else stops it. -/
theorem program_hinders (hload : Dump.load fs p stack surrogates = .ok found)
    (h : (program settings skipEmpty directory found surrogates) s = .error e t) :
    Hinders fs p surrogates e := by
  rcases (program_follows settings skipEmpty directory found surrogates).of_error h with h | hbad
  · obtain ⟨before, c, after, outcomes, u, hclasses, -, -, hstopped⟩ := program_eq_error h
    have hc : c ∈ found.classes := hclasses ▸ List.mem_append_right _ List.mem_cons_self
    obtain ⟨collected, hcollected, hwrites⟩ := collection_of_load settings hload hc
    cases hstopped with
    | gather e' hfound =>
      rw [hcollected] at hfound
      cases hfound
    | path e hpath => exact documentPath_hinders hpath
    | file e' => exact .file e'
    | record found' e' path text v hfound hskip hcollect htext =>
      rw [hcollected] at hfound
      cases hfound
      obtain ⟨⟨long, rfl⟩, hlong⟩ := hwrites e' text htext
      exact .number long hlong
  · cases e with
    | file e' => exact .file e'
    | record e' =>
      cases e' with
      | surrogate fault => exact .surrogate fault
      | _ => cases hbad
    | _ => cases hbad

end Export

end ProgramTags
