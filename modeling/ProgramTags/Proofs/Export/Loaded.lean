import ProgramTags.Proofs.Document.RoundTrip
import ProgramTags.Proofs.Dump.Conforms
import ProgramTags.Proofs.Export.Documents
import ProgramTags.Proofs.Gathering

/-!
# Programs from dumps have documents

A tag is showable if it has the content of its kind and its numbers have decimal texts. Every tag
of a program from a dump whose numbers have decimal texts is showable, so is every tag of every
record that is gathered from the program, and nothing that gathers or shows them can fail
(`program_neverFails`).
-/

namespace ProgramTags

def TagParts.numbers : TagParts → List Int
  | .lineNumber line => [line]
  | .key red green blue _ _ => [red, green, blue]
  | _ => []

def Tag.numbers (t : Tag) : List Int :=
  t.parts?.elim [] TagParts.numbers

structure Tag.IsShowable (t : Tag) : Prop where
  labelled : t.isLabelled = true
  numbers : ∀ n ∈ t.numbers, Decimal.isTooLong n = false

theorem Tag.IsShowable.isTooLong_line? {t : Tag} (h : t.IsShowable) {n : Int}
    (hn : t.line? = some n) : Decimal.isTooLong n = false := by
  refine h.numbers n ?_
  rw [Tag.numbers, line?_eq_some hn]
  exact List.mem_singleton.mpr rfl

theorem Tag.numbers_of_key? {t : Tag} {k : Key} (h : t.key? = some k) :
    t.numbers = [k.red, k.green, k.blue] := by
  rw [numbers, (key?_eq_some h).2]
  rfl

/-! ## Tags from dumps -/

namespace Dump

theorem isTooLong_of_lookup {v : Value} {entries : Entries} {key : String} {n : Int}
    (hv : v.numbersFit = true) (hentries : v.entries? = some entries)
    (h : Value.lookup key entries = .int n) : Decimal.isTooLong n = false := by
  have hfit := Value.hereditary_numbersFit.lookup hv hentries key
  rw [h] at hfit
  exact Value.numbersFit_int.mp hfit

theorem tag_isShowable (loc : Location) (v : Value) (t : Tag) (hv : v.numbersFit = true)
    (h : tag loc v = .ok t) : t.IsShowable := by
  obtain ⟨entries, hentries, ht⟩ := tag_eq_ok h
  cases t with
  | sourceFile file => exact ⟨rfl, nofun⟩
  | lineNumber line =>
    refine ⟨rfl, fun n hn => ?_⟩
    rw [List.mem_singleton.mp hn]
    exact isTooLong_of_lookup hv hentries ht
  | key red green blue label analysis =>
    obtain ⟨hred, hgreen, hblue, -⟩ := ht
    have hall : ∀ n ∈ [red, green, blue], Decimal.isTooLong n = false := by
      simp only [List.forall_mem_cons]
      exact ⟨isTooLong_of_lookup hv hentries hred, isTooLong_of_lookup hv hentries hgreen,
        isTooLong_of_lookup hv hentries hblue, nofun⟩
    exact ⟨rfl, hall⟩
  | text content analysis => exact ⟨rfl, nofun⟩
  | bare => exact ht.elim
  | foreign tag => exact ht.elim

end Dump

/-! ## Tags of records -/

section

variable {P : Tag → Prop}

theorem Attribute.ofTags_forall {ts : List Tag} (h : ∀ t ∈ ts, P t) :
    ∀ a ∈ ofTags ts, ∀ t ∈ a.tags, P t := by
  intro a ha
  unfold ofTags at ha
  split at ha
  · cases ha
  · rw [List.mem_singleton.mp ha]
    exact h

theorem Operand.attributes_forall {o : Operand} {marker : Option Tag} (h : o.Conforms P)
    (hmarker : ∀ t ∈ marker, P t) : ∀ a ∈ o.attributes marker, ∀ t ∈ a.tags, P t := by
  intro a ha t ht
  unfold attributes at ha
  split at ha
  · cases ha
  · rw [List.mem_singleton.mp ha] at ht
    obtain ⟨u, hu, ht⟩ := List.mem_flatMap.mp ht
    rcases List.mem_cons.mp ht with rfl | ht
    · exact h t hu
    · exact hmarker t (Option.mem_toList.mp ht)

theorem Statement.attributes_forall {s : Statement} (h : s.Conforms P) :
    ∀ a ∈ s.attributes, ∀ t ∈ a.tags, P t := by
  have hmarker : ∀ t ∈ s.lineMarker?, P t := fun t ht =>
    h.tags t (List.mem_of_mem_filter (List.mem_of_getLast? ht))
  intro a ha
  rcases List.mem_cons.mp ha with rfl | ha
  · exact h.tags
  · obtain ⟨o, ho, ha⟩ := List.mem_flatMap.mp ha
    exact Operand.attributes_forall (h.operands o ho) hmarker a ha

theorem Method.attributes_forall {m : Method} (h : m.Conforms P) (includeBodies : Bool) :
    ∀ a ∈ m.attributes includeBodies, ∀ t ∈ a.tags, P t := by
  obtain ⟨name, ts, b⟩ := m
  intro a ha
  cases b with
  | absent => cases ha
  | lost => exact h.body.elim
  | active statements =>
    rcases List.mem_append.mp ha with ha | ha
    · exact Attribute.ofTags_forall h.tags a ha
    · cases includeBodies with
      | false => cases ha
      | true =>
        obtain ⟨s, hs, ha⟩ := List.mem_flatMap.mp ha
        exact Statement.attributes_forall (h.body s hs) a ha

/-- The tags of the attributes of a class are tags in the class. -/
theorem ProgramClass.attributes_forall {c : ProgramClass} (h : c.Conforms P)
    (includeBodies : Bool) : ∀ a ∈ c.attributes includeBodies, ∀ t ∈ a.tags, P t := by
  intro a ha
  rcases List.mem_append.mp ha with ha | ha
  · rcases List.mem_append.mp ha with ha | ha
    · have hkept : ∀ t ∈ c.tags.filter (·.kind ≠ .sourceFile), P t := fun t ht =>
        h.tags t (List.mem_of_mem_filter ht)
      exact Attribute.ofTags_forall hkept a ha
    · obtain ⟨f, hf, ha⟩ := List.mem_flatMap.mp ha
      exact Attribute.ofTags_forall (h.fields f hf).tags a ha
  · obtain ⟨m, hm, ha⟩ := List.mem_flatMap.mp ha
    exact Method.attributes_forall (h.methods m hm) includeBodies a ha

theorem Method.Conforms.isBroken_eq_false {m : Method} (h : m.Conforms P) :
    m.isBroken = false := by
  cases hbroken : m.isBroken with
  | false => rfl
  | true =>
    have hbody := h.body
    rw [(Gather.isBroken_iff m).mp hbroken] at hbody
    exact hbody.elim

end

theorem Tag.key?_ne_none {t : Tag} (h : t.isLabelled = true) (hkind : t.kind = .key) :
    t.key? ≠ none := by
  cases t with
  | key red green blue label analysis => exact nofun
  | foreign tag => cases h
  | _ => cases hkind

namespace Export

variable {c : ProgramClass}

/-- What is gathered from a class of which no body is missed and no key. -/
theorem collection_of_unbroken (settings : CollectSettings)
    (hbodies : c.firstBroken? settings.includeBodies = none)
    (hkeys : settings.keys = true → ∀ t ∈ c.tags, t.kind = .key → t.key? ≠ none) :
    collection settings c = .ok ⟨c.attributes settings.includeBodies,
      if settings.keys then c.tags.filterMap Tag.key? else []⟩ := by
  have hgathering : gathering settings c = appends ⟨c.attributes settings.includeBodies,
      if settings.keys then c.tags.filterMap Tag.key? else []⟩ := by
    unfold gathering
    rw [Gather.programClass_eq_appends hbodies]
    cases hset : settings.keys with
    | true =>
      simp only [if_true]
      rw [Gather.keyTags_eq_appends (hkeys hset), appends_bind, Collection.append_keys]
      rfl
    | false =>
      simp only [Bool.false_eq_true, if_false]
      rw [pure_eq_appends, appends_bind, Appendable.append_nothing]
  rw [collection, hgathering]
  rfl

/-- What is gathered from a class whose tags are what they report. -/
theorem collection_of_conforms (settings : CollectSettings) {P : Tag → Prop}
    (hP : ∀ t, P t → t.isLabelled = true) (h : c.Conforms P) :
    collection settings c = .ok ⟨c.attributes settings.includeBodies,
      if settings.keys then c.tags.filterMap Tag.key? else []⟩ := by
  refine collection_of_unbroken settings ?_ fun _ t ht hkind => ?_
  · exact Gather.firstBroken?_eq_none.mpr fun m hm _ => (h.methods m hm).isBroken_eq_false
  · exact Tag.key?_ne_none (hP t (h.tags t ht)) hkind

theorem collection_eq_ok (settings : CollectSettings) (h : c.Conforms Tag.IsShowable) :
    collection settings c = .ok ⟨c.attributes settings.includeBodies,
      if settings.keys then c.tags.filterMap Tag.key? else []⟩ :=
  collection_of_conforms settings (fun _ ht => ht.labelled) h

/-- The collection of a class whose tags are showable is plain. -/
theorem collection_isPlain (settings : CollectSettings) (h : c.Conforms Tag.IsShowable)
    {found : Collection} (hfound : collection settings c = .ok found) : found.IsPlain := by
  rw [collection_eq_ok settings h] at hfound
  cases hfound
  have htags := ProgramClass.attributes_forall h settings.includeBodies
  refine ⟨fun a ha t ht => (htags a ha t ht).labelled, fun a ha n hn => ?_, fun k hk n hn => ?_⟩
  · obtain ⟨t, ht, hline⟩ := List.mem_filterMap.mp hn
    exact (htags a ha t ht).isTooLong_line? hline
  · split at hk
    · obtain ⟨t, ht, hkey⟩ := List.mem_filterMap.mp hk
      rw [← Tag.numbers_of_key? hkey] at hn
      exact (h.tags t ht).numbers n hn
    · cases hk

/-- Nothing that gathers or shows the class can fail: the bodies and keys that are asked for are
there, tags that are shown have entries, and whatever the settings, the class has its collection
and its document in every session. -/
structure NeverFails (c : ProgramClass) : Prop where
  bodies : ∀ m ∈ c.methods, m.hasActiveBody = true → ∃ statements, m.activeBody = .ok statements
  keys : ∀ t ∈ c.tags, t.kind = .key → t.key? ≠ none
  documents : ∀ settings, ∃ found text,
    (∀ s, ∃ t, collect settings c s = .ok found t) ∧
    (∀ a ∈ found.attributes, ∀ t ∈ a.textTags, ∃ entry, t.entry = .ok entry) ∧
    ∀ s, ∃ t, render settings c s = .ok text t

theorem neverFails_of_isShowable (h : c.Conforms Tag.IsShowable) : NeverFails c where
  bodies m hm hactive := by
    have hbroken := (h.methods m hm).isBroken_eq_false
    rw [Method.isBroken, hactive, Bool.true_and] at hbroken
    cases hbody : m.activeBody with
    | ok statements => exact ⟨statements, rfl⟩
    | error e => rw [hbody] at hbroken; cases hbroken
  keys t ht := Tag.key?_ne_none (h.tags t ht).labelled
  documents settings := by
    have hfound := collection_eq_ok settings h
    have hplain := collection_isPlain settings h hfound
    obtain ⟨text, htext, -⟩ := Document.read?_render_shownOf hplain
    refine ⟨_, text, collect_of_collection hfound, fun a ha t ht => ?_,
      renders_of_collection hfound htext⟩
    obtain ⟨hmem, hkind⟩ := List.mem_filter.mp ht
    exact Document.entry_of_isLabelled (hplain.tags a ha t hmem) (by simpa using hkind)

/-- Nothing that gathers or shows a class of a program can fail if the program comes from a dump
whose numbers have decimal texts. -/
theorem program_neverFails {d : Value} {p : Program} (hd : d.numbersFit = true)
    (h : Dump.program d = .ok p) : ∀ c ∈ p.classes, NeverFails c := by
  intro c hc
  have hconforms := Dump.program_conforms Value.hereditary_numbersFit Dump.tag_isShowable hd h
  exact neverFails_of_isShowable (hconforms c hc)

/-- A dump with a tag of each kind, a method without a body and negative numbers. -/
def fullDump : Value :=
  let file := Value.mapping [(.text "kind", .text "source_file"), (.text "source_file", .text "A")]
  let line := Value.mapping [(.text "kind", .text "line_number"), (.text "line", .int (-3))]
  let key := Value.mapping
    [(.text "kind", .text "key"), (.text "red", .int 1), (.text "green", .int 2),
      (.text "blue", .int (-255)), (.text "key", .text "k")]
  let note := Value.mapping [(.text "text", .text "t")]
  let operand := Value.mapping [(.text "value", .int 1), (.text "tags", .list [key, line])]
  let statement := Value.mapping [(.text "tags", .list [line]), (.text "boxes", .list [operand])]
  let body := Value.mapping [(.text "units", .list [statement])]
  let methods := Value.list
    [.mapping [(.text "name", .text "m"), (.text "body", body)],
      .mapping [(.text "name", .text "n"), (.text "tags", .list [line])]]
  .mapping [(.text "classes", .list [.mapping
    [(.text "name", .text "A"), (.text "tags", .list [file, key, note]),
      (.text "methods", methods)]])]

theorem program_neverFails_fullDump :
    let key := Tag.key 1 2 (-255) "k" ""
    let statement : Statement := ⟨"", [.lineNumber (-3)], [⟨"1", [key, .lineNumber (-3)]⟩]⟩
    let c : ProgramClass := ⟨"A", [.sourceFile "A", key, .text "t" ""], [],
      [⟨"m", [], .active [statement]⟩, ⟨"n", [.lineNumber (-3)], .absent⟩]⟩
    fullDump.numbersFit = true ∧ Dump.program fullDump = .ok ⟨[c]⟩ ∧ NeverFails c := by
  intro key statement c
  have hfit : fullDump.numbersFit = true := by decide +kernel
  have hread : Dump.program fullDump = .ok ⟨[c]⟩ := by decide +kernel
  exact ⟨hfit, hread, program_neverFails hfit hread c List.mem_cons_self⟩

end Export

end ProgramTags
