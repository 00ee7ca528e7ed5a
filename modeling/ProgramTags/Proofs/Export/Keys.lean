import ProgramTags.Proofs.Export.Effect
import ProgramTags.Proofs.Export.Failures

/-!
# Keys and the tags that show them

The keys of a class are gathered from its own tags, and the same tags have entries in the attribute
of the class. `render_keys_agree` compares the two runs that do and do not gather keys: they fail
together, with the same fault, for a tag without the parts of a key has no entry either; and where
they do not, their documents differ in the elements of the keys alone, which tell what the key tags
show in the first attribute.
-/

namespace ProgramTags

/-! ## Tags that report a key -/

def Key.entry (k : Key) : TagEntry :=
  ⟨"Key: " ++ k.key, k.analysis⟩

namespace Tag

variable {t : Tag} {k : Key}

theorem kind_of_key? (h : t.key? = some k) : t.kind = .key :=
  (key?_eq_some h).1

theorem entry_of_key? (h : t.key? = some k) : t.entry = .ok k.entry := by
  obtain ⟨hkind, hparts⟩ := key?_eq_some h
  rw [entry, hkind, hparts]
  rfl

theorem LacksKey.entry_eq (h : t.LacksKey) : t.entry = .error (.noKey t.className) := by
  obtain ⟨hkind, hkey⟩ := h
  rw [key?, hkind] at hkey
  rw [entry, hkind]
  cases hparts : t.parts? with
  | none => rfl
  | some parts =>
    cases parts with
    | key red green blue label analysis =>
      rw [hparts] at hkey
      cases hkey
    | _ => rfl

/-- Where source files are left out, a tag that is shown as a text has an entry unless it lacks the
parts of a key. -/
theorem exists_entry (hfile : t.kind ≠ .sourceFile) (hline : t.kind ≠ .lineNumber)
    (hkey : ¬t.LacksKey) : ∃ e, t.entry = .ok e := by
  cases hentry : t.entry with
  | ok e => exact ⟨e, rfl⟩
  | error e =>
    refine absurd ?_ hkey
    unfold LacksKey key?
    unfold entry at hentry
    split at hentry <;> simp_all

end Tag

namespace Attribute

/-- The entries that the attribute has for the tags that are keys. -/
def keyEntries (a : Attribute) (entries : List TagEntry) : List TagEntry :=
  ((a.textTags.zip entries).filter (·.1.key?.isSome)).map (·.2)

/-- A tag that is a key shows the key. -/
theorem keyEntries_eq {a : Attribute} {entries : List TagEntry} (h : a.entries = .ok entries) :
    a.keyEntries entries = (a.textTags.filterMap Tag.key?).map Key.entry := by
  unfold keyEntries
  unfold Attribute.entries at h
  generalize a.textTags = ts at h ⊢
  induction ts generalizing entries with
  | nil => rfl
  | cons t ts ih =>
    rw [List.mapM_cons] at h
    obtain ⟨e, he, h⟩ := Except.bind_eq_ok h
    obtain ⟨es, hes, h⟩ := Except.bind_eq_ok h
    cases h
    rw [List.zip_cons_cons]
    cases hkey : t.key? with
    | none =>
      rw [List.filter_cons_of_neg (by simp [hkey]), List.filterMap_cons_none hkey, ih hes]
    | some k =>
      rw [Tag.entry_of_key? hkey] at he
      cases he
      rw [List.filter_cons_of_pos (by simp [hkey]), List.filterMap_cons_some hkey, List.map_cons,
        List.map_cons, ih hes]

end Attribute

/-- A class with tags that are not left out begins with the attribute of these. -/
theorem ProgramClass.attributes_of_tags {c : ProgramClass}
    (h : c.tags.filter (·.kind ≠ .sourceFile) ≠ []) (includeBodies : Bool) :
    ∃ rest, c.attributes includeBodies = ⟨c.tags.filter (·.kind ≠ .sourceFile)⟩ :: rest := by
  unfold attributes Attribute.ofTags
  rw [if_neg h]
  exact ⟨_, rfl⟩

/-- Every key of a class is that of a tag in its own attribute. -/
theorem ProgramClass.filterMap_key?_textTags (c : ProgramClass) :
    (Attribute.textTags ⟨c.tags.filter (·.kind ≠ .sourceFile)⟩).filterMap Tag.key? =
      c.tags.filterMap Tag.key? := by
  rw [Attribute.textTags, List.filterMap_filter, List.filterMap_filter]
  refine List.filterMap_congr fun t _ => ?_
  cases hkey : t.key? with
  | none => simp
  | some k => simp [Tag.kind_of_key? hkey]

/-! ## Documents without their keys -/

namespace Document

open Appendable

variable {c : Collection}

theorem render_of_not_shown {texts : List String} {e : RenderError}
    {rest : List (Except RenderError String)}
    (h : elements c = texts.map .ok ++ .error e :: rest) : render c = .error e := by
  rw [render, write_of_not_shown h]
  rfl

/-- If its keys can be shown, a collection has a document exactly if it has one without them, and
that is the same but for the elements of the keys. -/
theorem render_without_keys
    (hkeys : ∀ k ∈ c.keys, ∀ n ∈ [k.red, k.green, k.blue], Decimal.isTooLong n = false) :
    (∃ e, render c = .error e ∧ render { c with keys := [] } = .error e) ∨
    ∃ shown : List String, c.attributes.map attributeElement = shown.map .ok ∧
      render c = .ok (opening ++ (concat shown ++ (concat (c.keys.map keyText) ++ closing))) ∧
      render { c with keys := [] } = .ok (opening ++ (concat shown ++ closing)) := by
  have hkeyElements : c.keys.map keyElement = (c.keys.map keyText).map .ok := by
    rw [List.map_map]
    exact List.map_congr_left fun k hk => keyElement_eq_ok (hkeys k hk)
  have hwithout : elements { c with keys := [] } = c.attributes.map attributeElement :=
    List.append_nil _
  rcases shown_or_not (c.attributes.map attributeElement) with
    ⟨shown, h⟩ | ⟨shown, e, rest, h⟩
  · refine .inr ⟨shown, h, render_eq_ok_iff.mpr ⟨shown ++ c.keys.map keyText, ?_, ?_⟩,
      render_eq_ok_iff.mpr ⟨shown, hwithout.trans h, rfl⟩⟩
    · rw [elements, h, hkeyElements, List.map_append]
    · rw [concat_append, String.append_assoc]
  · have hwith : elements c =
        shown.map .ok ++ .error e :: (rest ++ c.keys.map keyElement) := by
      rw [elements, h, List.append_assoc, List.cons_append]
    exact .inl ⟨e, render_of_not_shown hwith, render_of_not_shown (hwithout.trans h)⟩

/-- An attribute one of whose tags reports a key and is none has no element. The first such tag is
at fault. -/
theorem attributeElement_eq_noKey {before after : List Tag} {t : Tag}
    (hbefore : ∀ u ∈ before, ¬u.LacksKey) (ht : t.LacksKey) :
    attributeElement ⟨(before ++ t :: after).filter (·.kind ≠ .sourceFile)⟩ =
      .error (.entry (.noKey t.className)) := by
  have htags : Attribute.textTags ⟨(before ++ t :: after).filter (·.kind ≠ .sourceFile)⟩ =
      Attribute.textTags ⟨before.filter (·.kind ≠ .sourceFile)⟩ ++
        t :: Attribute.textTags ⟨after.filter (·.kind ≠ .sourceFile)⟩ := by
    simp [Attribute.textTags, ht.1]
  have hentries : Attribute.entries ⟨(before ++ t :: after).filter (·.kind ≠ .sourceFile)⟩ =
      .error (.noKey t.className) := by
    rw [Attribute.entries, htags]
    refine Except.mapM_append_cons_eq_error (fun u hu => ?_) ht.entry_eq
    obtain ⟨hu, hline⟩ := List.mem_filter.mp hu
    obtain ⟨hu, hfile⟩ := List.mem_filter.mp hu
    exact Tag.exists_entry (by simpa using hfile) (by simpa using hline) (hbefore u hu)
  unfold attributeElement
  rw [hentries]
  rfl

end Document

/-! ## Faults -/

/-- What is at fault with a class that has no document, whichever step has found it. -/
inductive Fault where
  | missingBody (e : MissingBody)
  | entry (e : EntryError)
  | number (e : Decimal.TooLong)
  | surrogate (e : Text.SurrogateFault)
  deriving DecidableEq, Repr

def Fault.message : Fault → String
  | .missingBody e => e.message
  | .entry e => e.message
  | .number e => e.message
  | .surrogate e => e.message

/-- The fault of a class, if that is why an export stops. -/
def ExportError.fault? : ExportError → Option Fault
  | .gather (.missingBody e) => some (.missingBody e)
  | .gather (.noKey className) => some (.entry (.noKey className))
  | .record (.entry e) => some (.entry e)
  | .record (.number e) => some (.number e)
  | .record (.surrogate e) => some (.surrogate e)
  | .noDocumentName _ | .outside .. | .file _ => none

theorem ExportError.message_of_fault? {e : ExportError} {fault : Fault}
    (h : e.fault? = some fault) : e.message = fault.message := by
  unfold fault? at h
  split at h <;> cases h <;> rfl

theorem ExportError.exists_fault?_record (e : RenderError) :
    ∃ fault, (ExportError.record e).fault? = some fault := by
  cases e <;> exact ⟨_, rfl⟩

namespace Export

open Appendable (concat)
open Document (attributeElement keyText opening closing)

variable {settings : CollectSettings} {c : ProgramClass}

/-! ## The document of a class -/

/-- What does not come out of the document of a class does not come out of rendering it. -/
theorem exists_render_error_iff (s : Session) :
    (∃ e t, render settings c s = .error e t) ↔ ∃ e, document settings c = .error e := by
  have hends := render_ends settings c s
  constructor
  · rintro ⟨e, t, h⟩
    exact ⟨e, hends.of_error h⟩
  · rintro ⟨e, he⟩
    cases hr : render settings c s with
    | error e t => exact ⟨e, t, rfl⟩
    | ok text t =>
      have htext := hends.of_ok hr
      rw [he] at htext
      cases htext

/-! ## Runs with and without keys -/

/-- The documents differ in the elements of the keys alone. The keys are those of the class's own
tags, and show what these tags show in the first attribute, which is that of the class. -/
structure DifferByKeys (c : ProgramClass) (found : Collection) (whole plain : String) : Prop where
  documents : ∃ shown : List String, found.attributes.map attributeElement = shown.map .ok ∧
    whole = opening ++ (concat shown ++ (concat (found.keys.map keyText) ++ closing)) ∧
    plain = opening ++ (concat shown ++ closing)
  keys : found.keys = c.tags.filterMap Tag.key?
  first : found.keys ≠ [] → ∃ first rest entries, found.attributes = first :: rest ∧
    first.tags = c.tags.filter Tag.keptAtClassScope ∧ first.entries = .ok entries ∧
    found.keys.map Key.entry = first.keyEntries entries

/-- Rendering a class with its keys and without them. -/
structure KeysAgree (includeBodies : Bool) (c : ProgramClass) (s : Session) : Prop where
  fails_iff : (∃ e t, render ⟨includeBodies, true⟩ c s = .error e t) ↔
    ∃ e t, render ⟨includeBodies, false⟩ c s = .error e t
  faults : ∀ e t e' t', render ⟨includeBodies, true⟩ c s = .error e t →
    render ⟨includeBodies, false⟩ c s = .error e' t' →
    (∃ fault, e.fault? = some fault ∧ e'.fault? = some fault) ∧ e.message = e'.message
  documents : ∀ whole t plain t', render ⟨includeBodies, true⟩ c s = .ok whole t →
    render ⟨includeBodies, false⟩ c s = .ok plain t' →
    ∃ found, collection ⟨includeBodies, true⟩ c = .ok found ∧
      collection ⟨includeBodies, false⟩ c = .ok { found with keys := [] } ∧
      DifferByKeys c found whole plain
  skipped_iff : ∀ skipEmpty directory,
    (∃ o t, (programClass ⟨includeBodies, true⟩ skipEmpty directory c) s = .ok o t ∧
      o.written = false) ↔
    ∃ o t, (programClass ⟨includeBodies, false⟩ skipEmpty directory c) s = .ok o t ∧
      o.written = false

/-- What is gathered with keys and without them: a body that is missing is missed by both, and a
tag without the parts of a key only where keys are gathered, which is the first of them. -/
theorem collection_cases (includeBodies : Bool) (c : ProgramClass) :
    (∃ e, ∀ keys, collection ⟨includeBodies, keys⟩ c = .error (.missingBody e)) ∨
    (∃ before t after, c.tags = before ++ t :: after ∧ (∀ u ∈ before, ¬u.LacksKey) ∧
      t.LacksKey ∧ collection ⟨includeBodies, true⟩ c = .error (.noKey t.className) ∧
      collection ⟨includeBodies, false⟩ c = .ok ⟨c.attributes includeBodies, []⟩) ∨
    ∀ keys, collection ⟨includeBodies, keys⟩ c =
      .ok ⟨c.attributes includeBodies, if keys then c.tags.filterMap Tag.key? else []⟩ := by
  cases hbodies : c.firstBroken? includeBodies with
  | some m =>
    refine .inl ⟨⟨m.name⟩, fun keys => ?_⟩
    rw [collection, gathering, Gather.programClass_eq_appends_fault hbodies, appends_fault_bind]
    rfl
  | none =>
    cases hfirst : c.tags.find? Tag.LacksKey with
    | none =>
      have hkeys : ∀ t ∈ c.tags, t.kind = .key → t.key? ≠ none := by
        intro t ht hkind hkey
        have hgood : ¬t.LacksKey := by simpa using List.find?_eq_none.mp hfirst t ht
        exact hgood ⟨hkind, hkey⟩
      exact .inr (.inr fun keys => collection_of_unbroken ⟨_, keys⟩ hbodies fun _ => hkeys)
    | some t =>
      obtain ⟨ht, before, after, hc, hbefore⟩ := List.find?_eq_some_iff_append.mp hfirst
      have ht : t.LacksKey := by simpa using ht
      have hbefore : ∀ u ∈ before, ¬u.LacksKey := fun u hu => by simpa using hbefore u hu
      have hoff := collection_of_unbroken ⟨includeBodies, false⟩ hbodies (by simp)
      refine .inr (.inl ⟨before, t, after, hc, hbefore, ht, ?_, hoff⟩)
      rw [collection, gathering, Gather.programClass_eq_appends hbodies,
        Gather.keyTags_eq_appends_fault hc hbefore ht]
      simp only [if_true]
      rw [appends_bind]
      rfl

/-- A class with a key tag has an attribute, the first of which is that of its own tags. -/
theorem attributes_of_key {t : Tag} (ht : t ∈ c.tags) (hkind : t.kind = .key)
    (includeBodies : Bool) :
    ∃ rest, c.attributes includeBodies = ⟨c.tags.filter (·.kind ≠ .sourceFile)⟩ :: rest := by
  refine ProgramClass.attributes_of_tags (List.ne_nil_of_mem (a := t) ?_) includeBodies
  simp [ht, hkind]

/-- The documents of a class with keys and without them: both fail, with the same fault, or they
differ in the elements of the keys alone. -/
theorem documents_agree (hfit : ∀ t ∈ c.tags, ∀ n ∈ t.numbers, Decimal.isTooLong n = false)
    (includeBodies : Bool) :
    (∃ e e' fault, document ⟨includeBodies, true⟩ c = .error e ∧
      document ⟨includeBodies, false⟩ c = .error e' ∧
      e.fault? = some fault ∧ e'.fault? = some fault) ∨
    ∃ found whole plain, collection ⟨includeBodies, true⟩ c = .ok found ∧
      collection ⟨includeBodies, false⟩ c = .ok { found with keys := [] } ∧
      document ⟨includeBodies, true⟩ c = .ok whole ∧
      document ⟨includeBodies, false⟩ c = .ok plain ∧ DifferByKeys c found whole plain := by
  rcases collection_cases includeBodies c with ⟨e, h⟩ |
    ⟨before, t, after, hc, hbefore, ht, hon, hoff⟩ | h
  · exact .inl ⟨_, _, _, document_of_gather_error (h true), document_of_gather_error (h false),
      rfl, rfl⟩
  · have hmem : t ∈ c.tags := by simp [hc]
    obtain ⟨rest, hattributes⟩ := attributes_of_key hmem ht.1 includeBodies
    have hshown : Document.elements ⟨c.attributes includeBodies, []⟩ =
        ([] : List String).map .ok ++
          .error (.entry (.noKey t.className)) :: rest.map attributeElement := by
      rw [Document.elements, hattributes, List.map_cons, hc,
        Document.attributeElement_eq_noKey hbefore ht]
      exact List.append_nil _
    have hplain : document ⟨includeBodies, false⟩ c =
        .error (.record (.entry (.noKey t.className))) := by
      rw [document_of_collection hoff, Document.render_of_not_shown hshown]
      rfl
    exact .inl ⟨_, _, _, document_of_gather_error hon, hplain, rfl, rfl⟩
  · have hon := h true
    have hoff := h false
    simp only [if_true, Bool.false_eq_true, if_false] at hon hoff
    have hcolours : ∀ k ∈ c.tags.filterMap Tag.key?, ∀ n ∈ [k.red, k.green, k.blue],
        Decimal.isTooLong n = false := by
      intro k hk n hn
      obtain ⟨t, ht, hkey⟩ := List.mem_filterMap.mp hk
      rw [← Tag.numbers_of_key? hkey] at hn
      exact hfit t ht n hn
    rw [document_of_collection hon, document_of_collection hoff]
    rcases Document.render_without_keys (c := ⟨c.attributes includeBodies, _⟩) hcolours with
      ⟨e, hwith, hwithout⟩ | ⟨shown, hshown, hwith, hwithout⟩
    · obtain ⟨fault, hfault⟩ := ExportError.exists_fault?_record e
      rw [hwith, hwithout]
      exact .inl ⟨_, _, fault, rfl, rfl, hfault, hfault⟩
    · rw [hwith, hwithout]
      refine .inr ⟨_, _, _, hon, hoff, rfl, rfl, ⟨shown, hshown, rfl, rfl⟩, rfl, fun hne => ?_⟩
      obtain ⟨k, hk⟩ := List.exists_mem_of_ne_nil _ hne
      obtain ⟨t, ht, hkey⟩ := List.mem_filterMap.mp hk
      obtain ⟨rest, hattributes⟩ := attributes_of_key ht (Tag.kind_of_key? hkey) includeBodies
      have hfirst : attributeElement ⟨c.tags.filter (·.kind ≠ .sourceFile)⟩ ∈
          shown.map Except.ok := by
        rw [← hshown, hattributes]
        exact List.mem_cons_self
      obtain ⟨text, -, htext⟩ := List.mem_map.mp hfirst
      obtain ⟨entries, hentries, -⟩ := Except.bind_eq_ok htext.symm
      have hentries := Except.mapError_eq_ok hentries
      refine ⟨_, rest, entries, hattributes, rfl, hentries, ?_⟩
      rw [Attribute.keyEntries_eq hentries, ProgramClass.filterMap_key?_textTags]

theorem programClass_skips_iff {skipEmpty : Bool} {directory : Path} (s : Session) :
    (∃ o t, (programClass settings skipEmpty directory c) s = .ok o t ∧ o.written = false) ↔
      ∃ found, collection settings c = .ok found ∧ (found.isEmpty && skipEmpty) = true := by
  constructor
  · rintro ⟨o, t, h, ho⟩
    cases (programClass_ends settings skipEmpty directory c s).of_ok h with
    | skipped found hfound hskip htold => exact ⟨found, hfound, hskip⟩
    | written => cases ho
  · rintro ⟨found, hfound, hskip⟩
    obtain ⟨t, h, -⟩ := programClass_skipped hfound hskip s
    exact ⟨_, t, h, rfl⟩

/-- A class whose collection is empty has none to show with keys either, and the other way round. -/
theorem isEmpty_agree (includeBodies skipEmpty : Bool) (c : ProgramClass) :
    (∃ found, collection ⟨includeBodies, true⟩ c = .ok found ∧
      (found.isEmpty && skipEmpty) = true) ↔
    ∃ found, collection ⟨includeBodies, false⟩ c = .ok found ∧
      (found.isEmpty && skipEmpty) = true := by
  rcases collection_cases includeBodies c with ⟨e, h⟩ | ⟨before, t, after, hc, -, ht, hon, hoff⟩ | h
  · rw [h true, h false]
  · have hmem : t ∈ c.tags := by simp [hc]
    obtain ⟨rest, hattributes⟩ := attributes_of_key hmem ht.1 includeBodies
    rw [hon, hoff, hattributes]
    simp [Collection.isEmpty]
  · have hnone : c.attributes includeBodies = [] → c.tags.filterMap Tag.key? = [] := by
      intro hattributes
      refine List.filterMap_eq_nil_iff.mpr fun t ht => ?_
      cases hkey : t.key? with
      | none => rfl
      | some k =>
        obtain ⟨rest, hfirst⟩ := attributes_of_key ht (Tag.kind_of_key? hkey) includeBodies
        rw [hattributes] at hfirst
        cases hfirst
    rw [h true, h false]
    cases hattributes : c.attributes includeBodies with
    | nil => simp [hnone hattributes]
    | cons a as => simp [Collection.isEmpty]

/-- A class whose keys have short numbers is rendered with its keys exactly if it is without them,
the faults are the same, and the documents differ in the elements of the keys alone, which show what
the key tags of the class show in its first attribute. Whether the class is skipped for being empty
does not depend on keys, either. -/
theorem render_keys_agree (c : ProgramClass)
    (hfit : ∀ t ∈ c.tags, ∀ n ∈ t.numbers, Decimal.isTooLong n = false) (includeBodies : Bool)
    (s : Session) : KeysAgree includeBodies c s := by
  have hwith := render_ends ⟨includeBodies, true⟩ c s
  have hwithout := render_ends ⟨includeBodies, false⟩ c s
  have hagree := documents_agree hfit includeBodies
  refine ⟨?_, fun e t e' t' h h' => ?_, fun whole t plain t' h h' => ?_,
    fun skipEmpty directory => ?_⟩
  · rw [exists_render_error_iff, exists_render_error_iff]
    rcases hagree with ⟨e, e', -, he, he', -⟩ | ⟨-, whole, plain, -, -, hwhole, hplain, -⟩
    · exact iff_of_true ⟨e, he⟩ ⟨e', he'⟩
    · rw [hwhole, hplain]
      exact iff_of_false nofun nofun
  · have he := hwith.of_error h
    have he' := hwithout.of_error h'
    rcases hagree with ⟨d, d', fault, hd, hd', hfault, hfault'⟩ | ⟨-, whole, -, -, -, hwhole, -⟩
    · rw [he] at hd
      rw [he'] at hd'
      cases hd
      cases hd'
      refine ⟨⟨fault, hfault, hfault'⟩, ?_⟩
      rw [ExportError.message_of_fault? hfault, ExportError.message_of_fault? hfault']
    · rw [he] at hwhole
      cases hwhole
  · have hw := hwith.of_ok h
    have hp := hwithout.of_ok h'
    rcases hagree with ⟨d, -, -, hd, -⟩ | ⟨found, w, p, hon, hoff, hwhole, hplain, hdiffer⟩
    · rw [hw] at hd
      cases hd
    · rw [hw] at hwhole
      rw [hp] at hplain
      cases hwhole
      cases hplain
      exact ⟨found, hon, hoff, hdiffer⟩
  · rw [programClass_skips_iff, programClass_skips_iff]
    exact isEmpty_agree includeBodies skipEmpty c

/-- A class with a repeated key, mislabelled tags and a method whose body is lost. -/
theorem render_keys_agree_repeated :
    let key := Tag.key 255 0 (-1) "<k>" "a"
    let derived := TagParts.key 0 0 0 "d" ""
    let c : ProgramClass :=
      ⟨"A", [.sourceFile "A.java", key, .foreign ⟨"Mark", .sourceFile, "Mark()", none⟩,
        .text "t" "", key, .foreign ⟨"Hint", .text, "Hint()", derived⟩],
        [⟨"f", [.key 0 0 0 "f" ""]⟩], [⟨"m", [.lineNumber 4], .lost⟩]⟩
    (∀ t ∈ c.tags, ∀ n ∈ t.numbers, Decimal.isTooLong n = false) ∧
      ∀ includeBodies, KeysAgree includeBodies c {} := by
  intro key derived c
  have hfit : ∀ t ∈ c.tags, ∀ n ∈ t.numbers, Decimal.isTooLong n = false := by decide +kernel
  exact ⟨hfit, fun includeBodies => render_keys_agree c hfit includeBodies {}⟩

end Export

end ProgramTags
