import Mathlib.Data.List.Perm.Basic
import ProgramTags.Proofs.Dump.Nulls

/-!
# Keys without a meaning

`Part.keys` are the keys that a mapping is read by; which they are for a tag depends on its kind.
`Part.Resembles` compares the entries of two mappings that have the same entries under these keys,
in any order and with any other entries between them. What is under `analysis_type` has to have a
text, though, also in a tag that has no use for one: if it has none, the tag has a *stray*, and
reading it fails. A dump reads as before when resembling entries are put into it, at any number of
places, as long as no stray comes or goes (`Rearranged.program_eq`).
-/

namespace ProgramTags

namespace Value

def text? : Value → Option String
  | .text s => some s
  | _ => none

theorem isText_eq (key : String) (v : Value) : v.isText key = decide (v.text? = some key) := by
  cases v <;> simp [isText, text?]

end Value

/-! ## Recognised keys -/

def Dump.Need.key : Dump.Need → String
  | .text key => key
  | .integer key => key

/-- Tags of the kind name the analysis they come from. -/
def TagKind.isAnalysed : TagKind → Bool
  | .key | .text => true
  | .sourceFile | .lineNumber => false

/-- The keys that a tag of the kind is read by, besides `kind`. -/
def TagKind.keys (kind : TagKind) : List String :=
  kind.needs.map Dump.Need.key ++ if kind.isAnalysed then ["analysis_type"] else []

namespace Dump

open Value (lookup lookup?)

def Part.keys : Part → Entries → List String
  | .tag, es => "kind" :: ((kind? es).map TagKind.keys).getD []
  | p, _ => p.slots.map Prod.fst

def Part.recognised (p : Part) (es : Entries) : Entries :=
  es.filter fun e => e.1.text?.any (p.keys es).contains

def textKeys (es : Entries) : List String :=
  es.filterMap (·.1.text?)

/-- What is under `analysis_type` has no text, in a tag of a kind that has no use for one. -/
def HasStray (es : Entries) : Prop :=
  ∃ kind v e, kind? es = some kind ∧ kind.isAnalysed = false ∧
    lookup? "analysis_type" es = some v ∧ v.toText = .error e

/-- Each text is one key at most, and both have the same entries under the keys that the part is
read by. -/
structure Part.Resembles (p : Part) (es es' : Entries) : Prop where
  once : (textKeys es).Nodup
  once' : (textKeys es').Nodup
  recognised : (p.recognised es).Perm (p.recognised es')

/-- The entries resemble each other. Either both tags have a stray or none. -/
structure Part.Rearranges (p : Part) (es es' : Entries) : Prop
    extends Part.Resembles p es es' where
  stray : p = .tag → (HasStray es ↔ HasStray es')

/-! ## Lookups -/

section

variable {p : Part} {key : String} {es es' : Entries}

/-- There is one entry under a key at most. -/
theorem length_filter_isText (h : (textKeys es).Nodup) (key : String) :
    (es.filter fun e => e.1.isText key).length ≤ 1 := by
  have hcount : (textKeys es).count key = (es.filter fun e => e.1.isText key).length := by
    rw [textKeys, List.count, List.countP_filterMap, ← List.countP_eq_length_filter]
    refine List.countP_congr fun e _ => ?_
    cases htext : e.1.text? <;> simp [Value.isText_eq, htext]
  rw [← hcount]
  exact List.nodup_iff_count_le_one.mp h key

theorem filter_isText_recognised (h : key ∈ p.keys es) :
    ((p.recognised es).filter fun e => e.1.isText key) = es.filter fun e => e.1.isText key := by
  rw [Part.recognised, List.filter_filter]
  refine List.filter_congr fun e _ => ?_
  by_cases htext : e.1.text? = some key
  · simp [Value.isText_eq, htext, h]
  · simp [Value.isText_eq, htext]

theorem lookup?_eq_head? (key : String) (es : Entries) :
    lookup? key es = (es.filter fun e => e.1.isText key).head?.map Prod.snd := by
  rw [List.head?_filter]
  rfl

namespace Part.Resembles

theorem symm (h : p.Resembles es es') : p.Resembles es' es :=
  ⟨h.once', h.once, h.recognised.symm⟩

theorem lookup?_eq (h : p.Resembles es es') (hkey : key ∈ p.keys es) (hkey' : key ∈ p.keys es') :
    lookup? key es = lookup? key es' := by
  have hperm := h.recognised.filter fun e => e.1.isText key
  rw [filter_isText_recognised hkey, filter_isText_recognised hkey'] at hperm
  have hlength := length_filter_isText h.once key
  rw [lookup?_eq_head?, lookup?_eq_head?]
  match hfilter : es.filter fun e => e.1.isText key with
  | [] =>
    rw [hfilter] at hperm
    rw [hfilter, ← hperm.nil_eq]
  | [e] =>
    rw [hfilter] at hperm
    rw [hfilter, ← List.singleton_perm.mp hperm]
  | _ :: _ :: _ => simp [hfilter] at hlength

theorem kind?_eq (h : Part.tag.Resembles es es') : kind? es = kind? es' := by
  have hkind : lookup? "kind" es = lookup? "kind" es' :=
    h.lookup?_eq (List.mem_cons_self ..) (List.mem_cons_self ..)
  rw [kind?, hkind, kind?]

theorem tag_lookup?_eq (h : Part.tag.Resembles es es') {kind : TagKind}
    (hkind : kind? es = some kind) (hkey : key ∈ kind.keys) :
    lookup? key es = lookup? key es' := by
  have hkind' : kind? es' = some kind := h.kind?_eq ▸ hkind
  refine h.lookup?_eq ?_ ?_
  · simp [Part.keys, hkind, hkey]
  · simp [Part.keys, hkind', hkey]

end Part.Resembles

end

/-! ## Tags -/

section

variable {es es' : Entries} {kind : TagKind} {v w : Value}

theorem kindAt_of_kind? (h : kind? es = some kind) (loc : Location) : kindAt loc es = .ok kind := by
  unfold kind? at h
  unfold kindAt
  split at h
  · rename_i hkind
    rw [hkind]
    exact congrArg Except.ok (Option.some.inj h)
  · rename_i hkind
    simp only [hkind, h]
  · cases h

theorem kindAt_of_not_kind? (h : kind? es = none) (loc : Location) :
    ∃ e, kindAt loc es = .error e := by
  unfold kind? at h
  unfold kindAt
  split at h
  · cases h
  · rename_i word hkind
    exact ⟨.broken loc (.unknownKind word), by simp only [hkind, h]; rfl⟩
  · rename_i v hv hkind
    have hshown : ∀ shown : Except Error String, ∃ e, (do
        let s ← shown
        .error (.broken loc (.unknownKind s)) : Except Error TagKind) = .error e :=
      fun shown => by cases shown <;> exact ⟨_, rfl⟩
    rw [hkind]
    cases v with
    | text word => exact absurd rfl (hv word)
    | _ => exact hshown _

/-- Reads a tag of the kind that comes from the analysis. -/
def tagOfKind (loc : Location) (es : Entries) (kind : TagKind) (analysis : String) :
    Except Error Tag :=
  match kind with
  | .sourceFile => return .sourceFile (← textAt loc es "source_file")
  | .lineNumber => return .lineNumber (← intAt loc es "line")
  | .key => do
    let red ← intAt loc es "red"
    let green ← intAt loc es "green"
    let blue ← intAt loc es "blue"
    return .key red green blue (← textAt loc es "key") analysis
  | .text => return .text (← textAt loc es "text") analysis

theorem tag_of_kind? (hv : v.entries? = some es) (hkind : kind? es = some kind) (loc : Location) :
    tag loc v = shownAt es "analysis_type" >>= tagOfKind loc es kind := by
  have hes : mappingAt loc v = .ok es := by rw [mappingAt, hv]
  rw [tag, hes, Except.ok_bind, kindAt_of_kind? hkind, Except.ok_bind]
  cases kind <;> rfl

theorem tagOfKind_congr (h : ∀ key ∈ kind.keys, lookup key es = lookup key es')
    (loc : Location) (analysis : String) :
    tagOfKind loc es kind analysis = tagOfKind loc es' kind analysis := by
  cases kind with
  | sourceFile =>
    have hfile := textAt_congr (h "source_file" (by decide)) loc
    simp only [tagOfKind, hfile]
  | lineNumber =>
    have hline := intAt_congr (h "line" (by decide)) loc
    simp only [tagOfKind, hline]
  | key =>
    have hred := intAt_congr (h "red" (by decide)) loc
    have hgreen := intAt_congr (h "green" (by decide)) loc
    have hblue := intAt_congr (h "blue" (by decide)) loc
    have hlabel := textAt_congr (h "key" (by decide)) loc
    simp only [tagOfKind, hred, hgreen, hblue, hlabel]
  | text =>
    have htext := textAt_congr (h "text" (by decide)) loc
    simp only [tagOfKind, htext]

theorem tagOfKind_of_not_isAnalysed (h : kind.isAnalysed = false) (loc : Location) (es : Entries)
    (analysis analysis' : String) :
    tagOfKind loc es kind analysis = tagOfKind loc es kind analysis' := by
  cases kind with
  | sourceFile | lineNumber => rfl
  | key | text => cases h

theorem shownAt_of_hasStray (h : HasStray es) :
    shownAt es "analysis_type" = .error (.number {}) := by
  obtain ⟨_, v, e, -, -, hv, htext⟩ := h
  rw [shownAt, hv]
  simp only [htext, Except.mapError_error]

/-- Without a stray there is an analysis type, of use or not. -/
theorem shownAt_of_not_hasStray (h : ¬ HasStray es) (hkind : kind? es = some kind)
    (hnone : kind.isAnalysed = false) : ∃ shown, shownAt es "analysis_type" = .ok shown := by
  rw [shownAt]
  cases hv : lookup? "analysis_type" es with
  | none => exact ⟨"", rfl⟩
  | some v =>
    cases htext : v.toText with
    | ok shown => exact ⟨shown, by simp only [htext, Except.mapError_ok]⟩
    | error e => exact absurd ⟨kind, v, e, hkind, hnone, hv, htext⟩ h

/-- A tag is read by the entries that its kind asks for, if there is no stray. -/
theorem tag_rearranged (h : Part.tag.Rearranges es es') (hv : v.entries? = some es)
    (hw : w.entries? = some es') (loc : Location) : tag loc v = tag loc w := by
  cases hkind : kind? es with
  | none =>
    have hes : mappingAt loc v = .ok es := by rw [mappingAt, hv]
    have hes' : mappingAt loc w = .ok es' := by rw [mappingAt, hw]
    have hsame : kindAt loc es = kindAt loc es' :=
      kindAt_congr (h.lookup?_eq (List.mem_cons_self ..) (List.mem_cons_self ..)) loc
    obtain ⟨e, he⟩ := kindAt_of_not_kind? hkind loc
    rw [tag, tag, hes, hes', Except.ok_bind, Except.ok_bind, ← hsame, he]
    rfl
  | some kind =>
    have hkind' : kind? es' = some kind := h.kind?_eq ▸ hkind
    have hkeys : ∀ analysis, tagOfKind loc es kind analysis = tagOfKind loc es' kind analysis :=
      tagOfKind_congr (fun key hkey => lookup_congr (h.tag_lookup?_eq hkind hkey)) loc
    rw [tag_of_kind? hv hkind, tag_of_kind? hw hkind']
    cases hanalysed : kind.isAnalysed with
    | true =>
      have hanalysis : lookup? "analysis_type" es = lookup? "analysis_type" es' :=
        h.tag_lookup?_eq hkind (by simp [TagKind.keys, hanalysed])
      rw [shownAt_congr hanalysis, funext hkeys]
    | false =>
      by_cases hstray : HasStray es
      · rw [shownAt_of_hasStray hstray, shownAt_of_hasStray ((h.stray rfl).mp hstray)]
        rfl
      · obtain ⟨shown, hshown⟩ := shownAt_of_not_hasStray hstray hkind hanalysed
        obtain ⟨shown', hshown'⟩ :=
          shownAt_of_not_hasStray (mt (h.stray rfl).mpr hstray) hkind' hanalysed
        rw [hshown, hshown', Except.ok_bind, Except.ok_bind, hkeys,
          tagOfKind_of_not_isAnalysed hanalysed]

end

/-! ## Rearranged dumps -/

section

variable {p : Part} {es es' : Entries} {v w : Value}

/-- A part reads the same by the entries under its keys, in whatever order they are. -/
theorem Part.Rearranges.read_eq (h : p.Rearranges es es') (hv : v.entries? = some es)
    (hw : w.entries? = some es') (loc : Location) : p.read loc v = p.read loc w := by
  by_cases htag : p = .tag
  · subst htag
    exact tag_rearranged h hv hw loc
  · have hkeys : ∀ es, p.keys es = p.slots.map Prod.fst := fun es => by
      cases p <;> first | rfl | exact absurd rfl htag
    refine Part.read_congr hv hw (fun key slot hslot => ?_) loc
    have hkey : key ∈ p.slots.map Prod.fst := List.mem_map_of_mem hslot
    exact Slot.agrees_of_lookup? hslot
      (h.lookup?_eq ((hkeys es).symm ▸ hkey) ((hkeys es').symm ▸ hkey))

/-- The second dump is the first with one mapping rearranged, at a place where the first has a
part. -/
def Rearranged (v w : Value) : Prop :=
  ∃ (part : Part) (loc : Location) (x : Value) (es es' : Entries),
    Leads .root loc part ∧ loc.follow? v = some x ∧ x.entries? = some es ∧
    part.Rearranges es es' ∧ w = alterAt (fun _ => es') loc v

theorem Rearranged.program_eq (h : Rearranged v w) : program v = program w := by
  obtain ⟨part, loc, x, es, es', hleads, hx, hes, hsame, rfl⟩ := h
  refine (read_alterAt_of_follow? hleads (fun y ys hy hys here => ?_) []).symm
  obtain rfl : x = y := Option.some.inj (hx.symm.trans hy)
  obtain rfl : es = ys := Option.some.inj (hes.symm.trans hys)
  exact (hsame.read_eq hes rfl here).symm

end

end Dump

end ProgramTags
