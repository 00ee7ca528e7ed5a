import Mathlib.Logic.Relation
import ProgramTags.Proofs.Dump.Recognised

/-!
# Strays in dumps

`Spoils e x y`: where `x` succeeds, `y` fails with `e`. A reading that is spoiled spoils what comes
after it, so that a dump that can be read cannot be read any more, with the error `e`, if one of its
parts is altered so that reading it fails with `e` (`spoils_alterAt`). Reading a tag with a stray
fails with the same error wherever it is. So a dump with a stray cannot be read, and putting
resembling entries into a tag of a dump that can be read leaves what is read exactly if they have
no stray (`program_rearranged`).
-/

namespace ProgramTags

/-! ## Spoiled readings -/

section

variable {ε α β : Type} {e : ε} {x y : Except ε α} {f g : α → Except ε β}

/-- Where `x` succeeds, `y` fails with `e`. -/
def Spoils (e : ε) (x y : Except ε α) : Prop :=
  ∀ a, x = .ok a → y = .error e

theorem Spoils.of_error (h : y = .error e) : Spoils e x y :=
  fun _ _ => h

/-- What comes after a spoiled reading is not reached. -/
theorem Spoils.bind (h : Spoils e x y) (f g : α → Except ε β) : Spoils e (x >>= f) (y >>= g) := by
  intro b hb
  obtain ⟨a, ha, -⟩ := Except.bind_eq_ok hb
  rw [h a ha]
  rfl

theorem Spoils.ok_bind (x : Except ε α) (h : ∀ a, Spoils e (f a) (g a)) :
    Spoils e (x >>= f) (x >>= g) := by
  intro b hb
  obtain ⟨a, rfl, hf⟩ := Except.bind_eq_ok hb
  exact h a b hf

end

namespace Dump

open Value (lookup lookup?)
open Relation (ReflTransGen)

/-- Reading the slot from the first entries is spoiled in the second ones. Only what has parts of
its own can be. -/
def Slot.Spoils (e : Error) (key : String) (es es' : Entries) : Slot → Prop
  | .list item => ∀ loc, ProgramTags.Spoils e (each loc key (lookup key es) item.read)
      (each loc key (lookup key es') item.read)
  | .body => ∀ loc, ProgramTags.Spoils e (Dump.body loc (lookup key es))
      (Dump.body loc (lookup key es'))
  | .shown => False
  | .kind => False
  | .needed => False

section

variable {key : String} {e : Error} {es es' : Entries} {v w x : Value}

/-- A part is spoiled by a slot of it. -/
theorem Part.spoils_of_slot {p : Part} {slot : Slot} (hmem : (key, slot) ∈ p.slots)
    (hv : v.entries? = some es) (hw : w.entries? = some es') (h : slot.Spoils e key es es')
    (hothers : ∀ key' ≠ key, lookup? key' es = lookup? key' es') (loc : Location) :
    Spoils e (p.read loc v) (p.read loc w) := by
  have hes : mappingAt loc v = .ok es := by rw [mappingAt, hv]
  have hes' : mappingAt loc w = .ok es' := by rw [mappingAt, hw]
  have hname : ∀ k ≠ key, textAt loc es k = textAt loc es' k := fun k hk =>
    textAt_congr (lookup_congr (hothers k hk)) loc
  have hshown : ∀ k ≠ key, shownAt es k = shownAt es' k := fun k hk =>
    shownAt_congr (hothers k hk)
  have hvalue : ∀ k ≠ key, lookup k es = lookup k es' := fun k hk => lookup_congr (hothers k hk)
  cases p with
  | root =>
    obtain ⟨rfl, rfl⟩ : key = "classes" ∧ slot = .list .programClass := by simpa [slots] using hmem
    show Spoils e (program v) (program w)
    simp only [program, hv, hw]
    exact (h []).bind _ _
  | programClass =>
    simp only [slots, List.mem_cons, List.not_mem_nil, Prod.mk.injEq, or_false] at hmem
    show Spoils e (Dump.programClass loc v) (Dump.programClass loc w)
    simp only [Dump.programClass, hes, hes', Except.ok_bind]
    rcases hmem with ⟨rfl, rfl⟩ | ⟨rfl, rfl⟩ | ⟨rfl, rfl⟩ | ⟨rfl, rfl⟩
    · exact h.elim
    · rw [hname "name" (by decide)]
      exact .ok_bind _ fun _ => (h loc).bind _ _
    · rw [hname "name" (by decide), Dump.tags, Dump.tags, hvalue "tags" (by decide)]
      exact .ok_bind _ fun _ => .ok_bind _ fun _ => (h loc).bind _ _
    · rw [hname "name" (by decide), Dump.tags, Dump.tags, hvalue "tags" (by decide),
        hvalue "fields" (by decide)]
      exact .ok_bind _ fun _ => .ok_bind _ fun _ => .ok_bind _ fun _ => (h loc).bind _ _
  | field =>
    simp only [slots, List.mem_cons, List.not_mem_nil, Prod.mk.injEq, or_false] at hmem
    show Spoils e (Dump.field loc v) (Dump.field loc w)
    simp only [Dump.field, hes, hes', Except.ok_bind]
    rcases hmem with ⟨rfl, rfl⟩ | ⟨rfl, rfl⟩
    · exact h.elim
    · rw [hname "name" (by decide)]
      exact .ok_bind _ fun _ => (h loc).bind _ _
  | method =>
    simp only [slots, List.mem_cons, List.not_mem_nil, Prod.mk.injEq, or_false] at hmem
    show Spoils e (Dump.method loc v) (Dump.method loc w)
    simp only [Dump.method, hes, hes', Except.ok_bind]
    rcases hmem with ⟨rfl, rfl⟩ | ⟨rfl, rfl⟩ | ⟨rfl, rfl⟩
    · exact (h _).bind _ _
    · exact h.elim
    · rw [hvalue "body" (by decide), hname "name" (by decide)]
      exact .ok_bind _ fun _ => .ok_bind _ fun _ => (h loc).bind _ _
  | body =>
    obtain ⟨rfl, rfl⟩ : key = "units" ∧ slot = .list .statement := by simpa [slots] using hmem
    show Spoils e (Dump.body loc v) (Dump.body loc w)
    simp only [Dump.body, Value.isNull_of_entries? hv, Value.isNull_of_entries? hw, hes, hes',
      Except.ok_bind]
    exact (h loc).bind _ _
  | statement =>
    simp only [slots, List.mem_cons, List.not_mem_nil, Prod.mk.injEq, or_false] at hmem
    show Spoils e (Dump.statement loc v) (Dump.statement loc w)
    simp only [Dump.statement, hes, hes', Except.ok_bind]
    rcases hmem with ⟨rfl, rfl⟩ | ⟨rfl, rfl⟩ | ⟨rfl, rfl⟩
    · exact (h loc).bind _ _
    · exact h.elim
    · rw [hvalue "boxes" (by decide), hshown "text" (by decide)]
      exact .ok_bind _ fun _ => .ok_bind _ fun _ => (h loc).bind _ _
  | operand =>
    simp only [slots, List.mem_cons, List.not_mem_nil, Prod.mk.injEq, or_false] at hmem
    show Spoils e (Dump.operand loc v) (Dump.operand loc w)
    simp only [Dump.operand, hes, hes', Except.ok_bind]
    rcases hmem with ⟨rfl, rfl⟩ | ⟨rfl, rfl⟩
    · exact h.elim
    · rw [hshown "value" (by decide)]
      exact .ok_bind _ fun _ => (h loc).bind _ _
  | tag => cases slot <;> first | exact h.elim | simp [slots] at hmem

/-- A list is spoiled by one of its items. -/
theorem spoils_mapM_modify {α : Type} {read : Value × Nat → Except Error α} {f : Value → Value}
    {items : List Value} {i : Nat} (hi : items[i]? = some x)
    (h : ∀ n, Spoils e (read (x, n)) (read (f x, n))) (n : Nat) :
    Spoils e ((items.zipIdx n).mapM read) (((items.modify i f).zipIdx n).mapM read) := by
  induction items generalizing i n with
  | nil => cases hi
  | cons v rest ih =>
    cases i with
    | zero =>
      obtain rfl : v = x := Option.some.inj hi
      rw [List.modify_zero_cons, List.zipIdx_cons, List.zipIdx_cons, List.mapM_cons,
        List.mapM_cons]
      exact (h n).bind _ _
    | succ i =>
      rw [List.modify_succ_cons, List.zipIdx_cons, List.zipIdx_cons, List.mapM_cons,
        List.mapM_cons]
      exact .ok_bind _ fun _ => (ih hi (n + 1)).bind _ _

theorem spoils_each_alterAt {α : Type} {read : Location → Value → Except Error α}
    {g : Entries → Entries} {loc : Location} {i : Nat} {items : List Value}
    (hitems : v.items? = some items) (hi : items[i]? = some x)
    (h : ∀ here, Spoils e (read here x) (read here (alterAt g loc x))) (here : Location) :
    Spoils e (each here key v read) (each here key (alterAt g (.index i :: loc) v) read) := by
  rw [alterAt_index g i loc hitems, each_of_items? hitems, each_of_items? rfl]
  exact spoils_mapM_modify hi (fun n => h _) 0

theorem exists_of_follow?_key {loc : Location}
    (h : Location.follow? (.key key :: loc) v = some x) :
    ∃ es y, v.entries? = some es ∧ lookup? key es = some y ∧ loc.follow? y = some x := by
  rw [Location.follow?, List.foldlM_cons] at h
  obtain ⟨y, hstep, h⟩ := Option.bind_eq_some_iff.mp h
  obtain ⟨es, hes, hy⟩ := Option.bind_eq_some_iff.mp hstep
  exact ⟨es, y, hes, hy, h⟩

theorem exists_of_follow?_index {loc : Location} {i : Nat}
    (h : Location.follow? (.index i :: loc) v = some x) :
    ∃ items y, v.items? = some items ∧ items[i]? = some y ∧ loc.follow? y = some x := by
  rw [Location.follow?, List.foldlM_cons] at h
  obtain ⟨y, hstep, h⟩ := Option.bind_eq_some_iff.mp h
  obtain ⟨items, hitems, hy⟩ := Option.bind_eq_some_iff.mp hstep
  exact ⟨items, y, hitems, hy, h⟩

/-- A dump is spoiled by the part that is altered in it, wherever it is. -/
theorem spoils_alterAt {p r : Part} {loc : Location} {f : Entries → Entries}
    (h : Leads p loc r) (hx : loc.follow? v = some x) (hes : x.entries? = some es)
    (hf : ∀ here, Spoils e (r.read here x) (r.read here (.mapping (f es)))) (here : Location) :
    Spoils e (p.read here v) (p.read here (alterAt f loc v)) := by
  induction h generalizing here v with
  | here r =>
    obtain rfl : v = x := Option.some.inj hx
    have halter : alterAt f [] v = .mapping (f es) := by simp only [alterAt, hes]
    rw [halter]
    exact hf here
  | @item p q r key loc i hslot _ ih =>
    obtain ⟨entries, list, hv, hlist, hx⟩ := exists_of_follow?_key hx
    obtain ⟨items, y, hitems, hy, hx⟩ := exists_of_follow?_index hx
    rw [alterAt_key f _ hv]
    refine Part.spoils_of_slot hslot hv rfl (fun l => ?_)
      (fun k hk => by rw [lookup?_alterKey, if_neg hk]) here
    rw [lookup_alterKey (alterAt_null f _), lookup, hlist, Option.getD_some]
    exact spoils_each_alterAt hitems hy (fun l => ih hx hf l) l
  | @body p r key loc hslot _ ih =>
    obtain ⟨entries, y, hv, hy, hx⟩ := exists_of_follow?_key hx
    rw [alterAt_key f _ hv]
    refine Part.spoils_of_slot hslot hv rfl (fun l => ?_)
      (fun k hk => by rw [lookup?_alterKey, if_neg hk]) here
    rw [lookup_alterKey (alterAt_null f _), lookup, hy, Option.getD_some]
    exact ih hx hf l

end

/-! ## Tags with strays -/

section

variable {es es' : Entries} {kind : TagKind}

theorem textAt_ne_number (loc : Location) (es : Entries) (key : String) (e : Decimal.TooLong) :
    textAt loc es key ≠ .error (.number e) := by
  unfold textAt
  split
  · split <;> exact nofun
  · exact nofun

theorem intAt_ne_number (loc : Location) (es : Entries) (key : String) (e : Decimal.TooLong) :
    intAt loc es key ≠ .error (.number e) := by
  unfold intAt
  split <;> exact nofun

theorem tagOfKind_ne_number (h : kind.isAnalysed = false) (loc : Location) (es : Entries)
    (analysis : String) (e : Decimal.TooLong) :
    tagOfKind loc es kind analysis ≠ .error (.number e) := by
  cases kind with
  | sourceFile =>
    have hfile := textAt_ne_number loc es "source_file" e
    unfold tagOfKind
    cases htext : textAt loc es "source_file" with
    | ok file => exact nofun
    | error f => exact fun hf => hfile (htext.trans (congrArg _ (Except.error.inj hf)))
  | lineNumber =>
    have hline := intAt_ne_number loc es "line" e
    unfold tagOfKind
    cases hint : intAt loc es "line" with
    | ok line => exact nofun
    | error f => exact fun hf => hline (hint.trans (congrArg _ (Except.error.inj hf)))
  | key | text => cases h

theorem tag_of_hasStray (h : HasStray es) (loc : Location) :
    tag loc (.mapping es) = .error (.number {}) := by
  obtain ⟨kind, _, _, hkind, -, -, -⟩ := id h
  rw [tag_of_kind? rfl hkind, shownAt_of_hasStray h]
  rfl

theorem tag_of_not_hasStray (h : ¬ HasStray es) (hkind : kind? es = some kind)
    (hnone : kind.isAnalysed = false) (loc : Location) (e : Decimal.TooLong) :
    tag loc (.mapping es) ≠ .error (.number e) := by
  obtain ⟨shown, hshown⟩ := shownAt_of_not_hasStray h hkind hnone
  rw [tag_of_kind? rfl hkind, hshown, Except.ok_bind]
  exact tagOfKind_ne_number hnone loc es shown e

theorem HasStray.of_tag_eq (h : HasStray es) (hsame : Part.tag.Resembles es es') {loc : Location}
    (htag : tag loc (.mapping es) = tag loc (.mapping es')) : HasStray es' := by
  obtain ⟨kind, _, _, hkind, hnone, -, -⟩ := id h
  have hkind' : kind? es' = some kind := hsame.kind?_eq ▸ hkind
  by_contra hstray
  refine tag_of_not_hasStray hstray hkind' hnone loc {} ?_
  rw [← htag, tag_of_hasStray h]

/-- Tags that resemble each other read the same exactly if both have a stray or none. -/
theorem tag_eq_iff (h : Part.tag.Resembles es es') (loc : Location) :
    tag loc (.mapping es) = tag loc (.mapping es') ↔ (HasStray es ↔ HasStray es') :=
  ⟨fun htag => ⟨fun hstray => hstray.of_tag_eq h htag,
      fun hstray => hstray.of_tag_eq h.symm htag.symm⟩,
    fun hstray => tag_rearranged ⟨h, fun _ => hstray⟩ rfl rfl loc⟩

/-- A stray holds an integer that is too long. -/
theorem HasStray.not_numbersFit (h : HasStray es) :
    ∃ v, lookup? "analysis_type" es = some v ∧ v.numbersFit = false := by
  obtain ⟨-, v, e, -, -, hv, htext⟩ := h
  refine ⟨v, hv, Bool.eq_false_iff.mpr fun hfit => ?_⟩
  obtain ⟨s, hs⟩ := Value.toText_eq_ok hfit
  cases htext.symm.trans hs

end

/-! ## Dumps with strays -/

/-- The second dump is the first with `es'` for the entries `es` of a tag. -/
def Retagged (es es' : Entries) (v w : Value) : Prop :=
  ∃ loc x, Leads .root loc .tag ∧ loc.follow? v = some x ∧ x.entries? = some es ∧
    w = alterAt (fun _ => es') loc v

namespace Retagged

variable {es es' : Entries} {v w : Value} {p : Program}

theorem spoils (h : Retagged es es' v w) (hstray : HasStray es') :
    Spoils (.number {}) (program v) (program w) := by
  obtain ⟨loc, x, hleads, hx, hes, rfl⟩ := h
  have hfails : ∀ here, Part.tag.read here (.mapping es') = .error (.number {}) :=
    tag_of_hasStray hstray
  exact spoils_alterAt hleads hx hes (fun here => .of_error (hfails here)) []

/-- A dump with a stray cannot be read. -/
theorem exists_error (h : Retagged es es' v w) (hstray : HasStray es) :
    ∃ e, program v = .error e := by
  obtain ⟨loc, x, hleads, hx, hes, -⟩ := h
  have hself : Retagged es es v (alterAt (fun _ => es) loc v) := ⟨loc, x, hleads, hx, hes, rfl⟩
  have hsame : program (alterAt (fun _ => es) loc v) = program v := by
    refine read_alterAt_of_follow? hleads (fun y ys hy hys here => ?_) []
    obtain rfl : x = y := Option.some.inj (hx.symm.trans hy)
    exact Part.read_congr rfl hes (fun key slot hslot => Slot.agrees_of_lookup? hslot rfl) here
  cases hv : program v with
  | error e => exact ⟨e, rfl⟩
  | ok p =>
    have hfails := hself.spoils hstray p hv
    rw [hsame, hv] at hfails
    cases hfails

theorem program_eq_iff (h : Retagged es es' v w) (hsame : Part.tag.Resembles es es')
    (hv : program v = .ok p) : program w = program v ↔ (HasStray es ↔ HasStray es') := by
  have hnone : ¬ HasStray es := fun hstray => by
    obtain ⟨e, he⟩ := h.exists_error hstray
    cases hv.symm.trans he
  constructor
  · refine fun heq => iff_of_false hnone fun hstray => ?_
    cases (heq.trans hv).symm.trans (h.spoils hstray p hv)
  · intro hstrays
    obtain ⟨loc, x, hleads, hx, hes, hw⟩ := h
    have hstep : Rearranged v w :=
      ⟨.tag, loc, x, es, es', hleads, hx, hes, ⟨hsame, fun _ => hstrays⟩, hw⟩
    exact hstep.program_eq.symm

end Retagged

/-- Dumps that differ in the order of keys and in what is under keys without a meaning read the
same, with the same error if there is one, as long as no stray comes or goes. A tag with a stray,
which has an integer that is too long, cannot be read, and reads the same only as tags that have a
stray, too. So a dump with a stray cannot be read, and a dump that can be read does not read the
same any more, but fails with the error of the stray, once a tag has one. -/
theorem program_rearranged (v : Value) (loc : Location) (es es' : Entries) :
    (∀ w, ReflTransGen Rearranged v w → program w = program v) ∧
    (Part.tag.Resembles es es' →
      (tag loc (.mapping es) = tag loc (.mapping es') ↔ (HasStray es ↔ HasStray es'))) ∧
    (HasStray es → tag loc (.mapping es) = .error (.number {}) ∧
      ∃ v, lookup? "analysis_type" es = some v ∧ v.numbersFit = false) ∧
    ∀ w, Retagged es es' v w →
      (HasStray es → ∃ e, program v = .error e) ∧
      ∀ p, program v = .ok p →
        (HasStray es' → program w = .error (.number {})) ∧
        (Part.tag.Resembles es es' →
          (program w = program v ↔ (HasStray es ↔ HasStray es'))) := by
  refine ⟨fun w h => ?_, fun h => tag_eq_iff h loc, fun h => ?_, fun w h => ?_⟩
  · induction h with
    | refl => rfl
    | tail _ hstep ih => exact hstep.program_eq.symm.trans ih
  · exact ⟨tag_of_hasStray h loc, h.not_numbersFit⟩
  · exact ⟨h.exists_error, fun p hv =>
      ⟨fun hstray => h.spoils hstray p hv, fun hsame => h.program_eq_iff hsame hv⟩⟩

/-- A class with one tag and other entries before its name. -/
def taggedDump (before tag : Entries) : Value :=
  .mapping [(.text "classes", .list [
    .mapping (before ++ [(.text "name", .text "A"), (.text "tags", .list [.mapping tag])])])]

/-- A text with a line that is none. -/
def linedTag : Entries :=
  [(.text "line", .text "none"), (.text "analysis_type", .text "a"), (.text "text", .text "t")]

def plainTag : Entries :=
  [(.text "text", .text "t"), (.text "analysis_type", .text "a")]

/-- A line marker with an integer of 4301 digits for an analysis type. -/
def strayTag : Entries :=
  [(.text "kind", .text "line_number"), (.text "line", .int 1),
    (.text "analysis_type", .int (10 ^ Decimal.digitLimit))]

theorem program_rearranged_linedTag :
    ReflTransGen Rearranged (taggedDump [(.int 1, .null)] linedTag) (taggedDump [] plainTag) ∧
      program (taggedDump [] plainTag) = program (taggedDump [(.int 1, .null)] linedTag) ∧
      program (taggedDump [] plainTag) = .ok ⟨[⟨"A", [.text "t" "a"], [], []⟩]⟩ ∧
      Part.tag.Resembles strayTag (strayTag.take 2) ∧ HasStray strayTag ∧
      tag [] (.mapping strayTag) ≠ tag [] (.mapping (strayTag.take 2)) ∧
      tag [] (.mapping strayTag) = .error (.number {}) ∧
      tag [] (.mapping (strayTag.take 2)) = .ok (.lineNumber 1) ∧
      Retagged (strayTag.take 2) strayTag (taggedDump [] (strayTag.take 2))
        (taggedDump [] strayTag) ∧
      program (taggedDump [] (strayTag.take 2)) = .ok ⟨[⟨"A", [.lineNumber 1], [], []⟩]⟩ ∧
      program (taggedDump [] strayTag) = .error (.number {}) ∧
      program (taggedDump [] strayTag) ≠ program (taggedDump [] (strayTag.take 2)) := by
  have hclasses : ("classes", .list .programClass) ∈ Part.root.slots := by decide
  have htags : ("tags", .list .tag) ∈ Part.programClass.slots := by decide
  have hclass : Leads .root [.key "classes", .index 0] .programClass := .item 0 hclasses (.here _)
  have htag : Leads .root [.key "classes", .index 0, .key "tags", .index 0] .tag :=
    .item 0 hclasses (.item 0 htags (.here _))
  have hanalysed : ∀ es, kind? es = some .text → ¬ HasStray es := by
    rintro es hkind ⟨kind, -, -, hkind', hnone, -, -⟩
    obtain rfl : TagKind.text = kind := Option.some.inj (hkind.symm.trans hkind')
    cases hnone
  have hfirst : Rearranged (taggedDump [(.int 1, .null)] linedTag) (taggedDump [] linedTag) :=
    ⟨_, _, _, _, [(.text "name", .text "A"), (.text "tags", .list [.mapping linedTag])], hclass,
      rfl, rfl, ⟨⟨by decide, by decide, .of_eq rfl⟩, nofun⟩, rfl⟩
  have hsecond : Rearranged (taggedDump [] linedTag) (taggedDump [] plainTag) :=
    ⟨_, _, _, _, plainTag, htag, rfl, rfl, ⟨⟨by decide, by decide, .swap ..⟩, fun _ =>
      iff_of_false (hanalysed _ rfl) (hanalysed _ rfl)⟩, rfl⟩
  have hsteps := ReflTransGen.tail (.single hfirst) hsecond
  have hlong := Value.toText_int_eq_error Decimal.isTooLong_limit
  have hstray : HasStray strayTag := ⟨.lineNumber, _, {}, rfl, rfl, rfl, hlong⟩
  have hnone : ¬ HasStray (strayTag.take 2) := by
    rintro ⟨-, v, -, -, -, hv, -⟩
    cases hv
  have hresembles : Part.tag.Resembles strayTag (strayTag.take 2) :=
    ⟨by decide, by decide, .of_eq rfl⟩
  have hretagged : Retagged (strayTag.take 2) strayTag (taggedDump [] (strayTag.take 2))
      (taggedDump [] strayTag) := ⟨_, _, htag, rfl, rfl, rfl⟩
  obtain ⟨hsame, hstrays, hfails, -⟩ :=
    program_rearranged (taggedDump [(.int 1, .null)] linedTag) [] strayTag (strayTag.take 2)
  obtain ⟨-, -, -, hdumps⟩ :=
    program_rearranged (taggedDump [] (strayTag.take 2)) [] (strayTag.take 2) strayTag
  obtain ⟨herror, hiff⟩ := (hdumps _ hretagged).2 _ rfl
  exact ⟨hsteps, hsame _ hsteps, rfl, hresembles, hstray,
    fun heq => hnone (((hstrays hresembles).mp heq).mp hstray), (hfails hstray).1, rfl, hretagged,
    rfl, herror hstray, fun heq => hnone (((hiff hresembles.symm).mp heq).mpr hstray)⟩

end Dump

end ProgramTags
