import Mathlib.Data.List.Nodup
import ProgramTags.Proofs.Dump.Located

/-!
# Keys that are missing or null

The mappings of a dump are of eight parts, and `Part.slots` lists the keys that each of them is read
by. `alterAt` changes the mapping at one place of a dump, and what is read stays the same if the
changed entries agree in every slot (`read_alterAt`). So a list or a body may be missing or null
without a difference, but where a text is shown, a missing key is an empty text and null is the text
`None`; a tag without a kind is of kind `text`, and one of kind null is of kind `None`, which there
is not (`program_alterAt_nulls`).
-/

namespace ProgramTags

namespace Value

variable {key key' : String} {v : Value}

/-- A text is one key at most. -/
theorem isText_of_ne (h : v.isText key = true) (hne : key' ≠ key) : v.isText key' = false := by
  cases v <;> simp_all [isText, eq_comm]

theorem lookup?_cons (key : String) (e : Value × Value) (rest : List (Value × Value)) :
    lookup? key (e :: rest) = if e.1.isText key then some e.2 else lookup? key rest := by
  unfold lookup?
  rw [List.find?_cons]
  cases e.1.isText key <;> rfl

theorem isNull_of_entries? {entries : List (Value × Value)} (h : v.entries? = some entries) :
    v.isNull = false := by
  cases v with
  | null => cases h
  | _ => rfl

theorem isNull_of_items? {items : List Value} (h : v.items? = some items) : v.isNull = false := by
  cases v with
  | null => cases h
  | _ => rfl

end Value

namespace Dump

open Value (lookup lookup?)

/-! ## Parts of a dump -/

/-- A part of a dump that is a mapping. -/
inductive Part where
  | root
  | programClass
  | field
  | method
  | body
  | statement
  | operand
  | tag
  deriving DecidableEq, Repr

/-- How a key of a mapping is read. -/
inductive Slot where
  /-- As a list of parts, which is empty if there is none. -/
  | list (item : Part)
  /-- As the body of a method, which may be absent. -/
  | body
  /-- As the text of whatever is there, or of nothing. -/
  | shown
  /-- As the kind of a tag, which there is without a word, too. -/
  | kind
  /-- As what the mapping needs. -/
  | needed
  deriving DecidableEq, Repr

namespace Part

/-- The keys that a part is read by, each once. -/
def slots : Part → List (String × Slot)
  | .root => [("classes", .list .programClass)]
  | .programClass =>
    [("name", .needed), ("tags", .list .tag), ("fields", .list .field), ("methods", .list .method)]
  | .field => [("name", .needed), ("tags", .list .tag)]
  | .method => [("body", .body), ("name", .needed), ("tags", .list .tag)]
  | .body => [("units", .list .statement)]
  | .statement => [("boxes", .list .operand), ("text", .shown), ("tags", .list .tag)]
  | .operand => [("value", .shown), ("tags", .list .tag)]
  | .tag =>
    [("kind", .kind), ("analysis_type", .shown), ("source_file", .needed), ("line", .needed),
      ("red", .needed), ("green", .needed), ("blue", .needed), ("key", .needed), ("text", .needed)]

theorem slots_nodup (p : Part) : (p.slots.map Prod.fst).Nodup := by
  cases p <;> decide

theorem slots_unique {p : Part} {key : String} {slot slot' : Slot} (h : (key, slot) ∈ p.slots)
    (h' : (key, slot') ∈ p.slots) : slot = slot' :=
  congrArg Prod.snd (List.inj_on_of_nodup_map p.slots_nodup h h' rfl)

theorem key_of_kind {p : Part} {key : String} (h : (key, .kind) ∈ p.slots) : key = "kind" := by
  cases p <;> simp_all [slots]

def Result : Part → Type
  | .root => Program
  | .programClass => ProgramClass
  | .field => Field
  | .method => Method
  | .body => Body
  | .statement => Statement
  | .operand => Operand
  | .tag => Tag

def read : (p : Part) → Location → Value → Except Error p.Result
  | .root => fun _ => Dump.program
  | .programClass => Dump.programClass
  | .field => Dump.field
  | .method => Dump.method
  | .body => Dump.body
  | .statement => Dump.statement
  | .operand => Dump.operand
  | .tag => Dump.tag

end Part

/-! ## Entries that read the same -/

section

variable {key : String} {es es' : Entries}

theorem lookup_congr (h : lookup? key es = lookup? key es') : lookup key es = lookup key es' :=
  congrArg (·.getD .null) h

theorem shownAt_congr (h : lookup? key es = lookup? key es') :
    shownAt es key = shownAt es' key := by
  rw [shownAt, h, shownAt]

theorem kindAt_congr (h : lookup? "kind" es = lookup? "kind" es') (loc : Location) :
    kindAt loc es = kindAt loc es' := by
  rw [kindAt, h, kindAt]

theorem textAt_congr (h : lookup key es = lookup key es') (loc : Location) :
    textAt loc es key = textAt loc es' key := by
  rw [textAt, h, textAt]

theorem intAt_congr (h : lookup key es = lookup key es') (loc : Location) :
    intAt loc es key = intAt loc es' key := by
  rw [intAt, h, intAt]

end

def Slot.Agrees (key : String) (es es' : Entries) : Slot → Prop
  | .list item => ∀ loc, each loc key (lookup key es) item.read =
      each loc key (lookup key es') item.read
  | .body => ∀ loc, Dump.body loc (lookup key es) = Dump.body loc (lookup key es')
  | .shown => shownAt es key = shownAt es' key
  | .kind => ∀ loc, kindAt loc es = kindAt loc es'
  | .needed => lookup key es = lookup key es'

/-- All slots of the part read the same from both. -/
def Part.Agrees (p : Part) (es es' : Entries) : Prop :=
  ∀ key slot, (key, slot) ∈ p.slots → slot.Agrees key es es'

section

variable {p : Part} {key : String} {slot : Slot} {es es' : Entries} {v w : Value}

theorem Slot.agrees_of_lookup? (hmem : (key, slot) ∈ p.slots)
    (h : lookup? key es = lookup? key es') : slot.Agrees key es es' := by
  have hvalue := lookup_congr h
  cases slot with
  | list item => exact fun loc => by rw [hvalue]
  | body => exact fun loc => by rw [hvalue]
  | shown => exact shownAt_congr h
  | kind =>
    cases Part.key_of_kind hmem
    exact kindAt_congr h
  | needed => exact hvalue

/-- Entries that differ under one key agree if they do so in its slot. -/
theorem Part.agrees_of_slot (hmem : (key, slot) ∈ p.slots) (hslot : slot.Agrees key es es')
    (hothers : ∀ key' ≠ key, lookup? key' es = lookup? key' es') : p.Agrees es es' := by
  intro key' slot' hmem'
  by_cases hkey : key' = key
  · subst hkey
    rw [Part.slots_unique hmem' hmem]
    exact hslot
  · exact Slot.agrees_of_lookup? hmem' (hothers key' hkey)

theorem Part.Agrees.tags (h : p.Agrees es es') (hmem : ("tags", .list .tag) ∈ p.slots)
    (loc : Location) : Dump.tags loc es = Dump.tags loc es' :=
  h "tags" _ hmem loc

theorem Part.Agrees.text (h : p.Agrees es es') (key : String) (hmem : (key, .needed) ∈ p.slots)
    (loc : Location) : textAt loc es key = textAt loc es' key :=
  textAt_congr (h key _ hmem) loc

theorem Part.Agrees.int (h : p.Agrees es es') (key : String) (hmem : (key, .needed) ∈ p.slots)
    (loc : Location) : intAt loc es key = intAt loc es' key :=
  intAt_congr (h key _ hmem) loc

/-- A part is read by its slots alone. -/
theorem Part.read_congr (hv : v.entries? = some es) (hw : w.entries? = some es')
    (h : p.Agrees es es') (loc : Location) : p.read loc v = p.read loc w := by
  have hes : mappingAt loc v = .ok es := by rw [mappingAt, hv]
  have hes' : mappingAt loc w = .ok es' := by rw [mappingAt, hw]
  cases p with
  | root =>
    have hclasses : each [] "classes" (lookup "classes" es) Dump.programClass =
      each [] "classes" (lookup "classes" es') Dump.programClass :=
      h "classes" (.list .programClass) (by decide) []
    show program v = program w
    simp only [program, hv, hw, hclasses]
  | programClass =>
    have hname := h.text "name" (by decide) loc
    have htags := h.tags (by decide) loc
    have hfields : each loc "fields" (lookup "fields" es) Dump.field =
      each loc "fields" (lookup "fields" es') Dump.field :=
      h "fields" (.list .field) (by decide) loc
    have hmethods : each loc "methods" (lookup "methods" es) Dump.method =
      each loc "methods" (lookup "methods" es') Dump.method :=
      h "methods" (.list .method) (by decide) loc
    show Dump.programClass loc v = Dump.programClass loc w
    simp only [Dump.programClass, hes, hes', Except.ok_bind, hname, htags, hfields, hmethods]
  | field =>
    have hname := h.text "name" (by decide) loc
    have htags := h.tags (by decide) loc
    show Dump.field loc v = Dump.field loc w
    simp only [Dump.field, hes, hes', Except.ok_bind, hname, htags]
  | method =>
    have hbody : Dump.body (loc ++ [.key "body"]) (lookup "body" es) =
      Dump.body (loc ++ [.key "body"]) (lookup "body" es') := h "body" .body (by decide) _
    have hname := h.text "name" (by decide) loc
    have htags := h.tags (by decide) loc
    show Dump.method loc v = Dump.method loc w
    simp only [Dump.method, hes, hes', Except.ok_bind, hbody, hname, htags]
  | body =>
    have hunits : each loc "units" (lookup "units" es) Dump.statement =
      each loc "units" (lookup "units" es') Dump.statement :=
      h "units" (.list .statement) (by decide) loc
    show Dump.body loc v = Dump.body loc w
    simp only [Dump.body, Value.isNull_of_entries? hv, Value.isNull_of_entries? hw, hes, hes',
      Except.ok_bind, hunits]
  | statement =>
    have hboxes : each loc "boxes" (lookup "boxes" es) Dump.operand =
      each loc "boxes" (lookup "boxes" es') Dump.operand :=
      h "boxes" (.list .operand) (by decide) loc
    have htext : shownAt es "text" = shownAt es' "text" := h "text" .shown (by decide)
    have htags := h.tags (by decide) loc
    show Dump.statement loc v = Dump.statement loc w
    simp only [Dump.statement, hes, hes', Except.ok_bind, hboxes, htext, htags]
  | operand =>
    have hvalue : shownAt es "value" = shownAt es' "value" := h "value" .shown (by decide)
    have htags := h.tags (by decide) loc
    show Dump.operand loc v = Dump.operand loc w
    simp only [Dump.operand, hes, hes', Except.ok_bind, hvalue, htags]
  | tag =>
    have hkind : kindAt loc es = kindAt loc es' := h "kind" .kind (by decide) loc
    have hanalysis : shownAt es "analysis_type" = shownAt es' "analysis_type" :=
      h "analysis_type" .shown (by decide)
    have hfile := h.text "source_file" (by decide) loc
    have hline := h.int "line" (by decide) loc
    have hred := h.int "red" (by decide) loc
    have hgreen := h.int "green" (by decide) loc
    have hblue := h.int "blue" (by decide) loc
    have hlabel := h.text "key" (by decide) loc
    have htext := h.text "text" (by decide) loc
    show Dump.tag loc v = Dump.tag loc w
    simp only [Dump.tag, hes, hes', Except.ok_bind, hkind, hanalysis, hfile, hline, hred, hgreen,
      hblue, hlabel, htext]

end

/-! ## Altering a dump -/

def alterKey (key : String) (f : Value → Value) (es : Entries) : Entries :=
  es.map fun e => if e.1.isText key then (e.1, f e.2) else e

/-- The value with the mapping at a location altered. It stays as it is if there is none. -/
def alterAt (f : Entries → Entries) : Location → Value → Value
  | [], v =>
    match v.entries? with
    | some es => .mapping (f es)
    | none => v
  | .key key :: loc, v =>
    match v.entries? with
    | some es => .mapping (alterKey key (alterAt f loc) es)
    | none => v
  | .index i :: loc, v =>
    match v.items? with
    | some items => .list (items.modify i (alterAt f loc))
    | none => v

/-- Where a part of a dump has its parts. -/
inductive Leads : Part → Location → Part → Prop
  | here (p : Part) : Leads p [] p
  | item {p q r : Part} {key : String} {loc : Location} (i : Nat)
      (hslot : (key, .list q) ∈ p.slots) (h : Leads q loc r) :
      Leads p (.key key :: .index i :: loc) r
  | body {p r : Part} {key : String} {loc : Location} (hslot : (key, .body) ∈ p.slots)
      (h : Leads .body loc r) : Leads p (.key key :: loc) r

section

variable {key : String} {f : Value → Value} {es : Entries}

theorem lookup?_alterKey (key' : String) : lookup? key' (alterKey key f es) =
    if key' = key then (lookup? key es).map f else lookup? key' es := by
  induction es with
  | nil => by_cases h : key' = key <;> simp [alterKey, lookup?]
  | cons e rest ih =>
    rw [alterKey, List.map_cons, ← alterKey, Value.lookup?_cons, ih, Value.lookup?_cons key,
      Value.lookup?_cons key']
    by_cases hkey : e.1.isText key
    · by_cases h : key' = key
      · subst h
        simp [hkey]
      · simp [hkey, Value.isText_of_ne hkey h, h]
    · by_cases h : key' = key
      · subst h
        simp [hkey]
      · simp [hkey, h]

/-- What is under a key is altered, null where there is nothing if that is left alone. -/
theorem lookup_alterKey (hf : f .null = .null) :
    lookup key (alterKey key f es) = f (lookup key es) := by
  rw [lookup, lookup?_alterKey, if_pos rfl, lookup]
  cases lookup? key es with
  | none => exact hf.symm
  | some v => rfl

theorem Part.agrees_alterKey {p : Part} {slot : Slot} (hslot : (key, slot) ∈ p.slots)
    (h : slot.Agrees key (alterKey key f es) es) : p.Agrees (alterKey key f es) es :=
  Part.agrees_of_slot hslot h fun key' hkey => by rw [lookup?_alterKey, if_neg hkey]

theorem follow?_key_cons {v : Value} {loc : Location} (hv : v.entries? = some es) :
    Location.follow? (.key key :: loc) v = (lookup? key es).bind loc.follow? := by
  rw [Location.follow?, List.foldlM_cons, Step.follow?, hv]
  rfl

theorem follow?_index_cons {v : Value} {i : Nat} {loc : Location} {items : List Value}
    (hv : v.items? = some items) :
    Location.follow? (.index i :: loc) v = items[i]?.bind loc.follow? := by
  rw [Location.follow?, List.foldlM_cons, Step.follow?, hv]
  rfl

theorem lookup?_of_items? {items : List Value} (h : (lookup key es).items? = some items) :
    lookup? key es = some (lookup key es) := by
  cases hkey : lookup? key es with
  | none =>
    rw [lookup, hkey] at h
    cases h
  | some v => rw [lookup, hkey, Option.getD_some]

theorem alterAt_key {v : Value} (f : Entries → Entries) (loc : Location)
    (hv : v.entries? = some es) :
    alterAt f (.key key :: loc) v = .mapping (alterKey key (alterAt f loc) es) := by
  simp only [alterAt, hv]

theorem alterAt_index {v : Value} {items : List Value} (f : Entries → Entries) (i : Nat)
    (loc : Location) (hv : v.items? = some items) :
    alterAt f (.index i :: loc) v = .list (items.modify i (alterAt f loc)) := by
  simp only [alterAt, hv]

theorem alterAt_null (f : Entries → Entries) (loc : Location) : alterAt f loc .null = .null := by
  match loc with
  | [] => rfl
  | .key _ :: _ => rfl
  | .index _ :: _ => rfl

/-- Items are read as before if the altered one is. -/
theorem mapM_modify_zipIdx {α : Type} {read : Value × Nat → Except Error α} {items : List Value}
    {i : Nat} (h : ∀ v, items[i]? = some v → ∀ n, read (f v, n) = read (v, n)) (n : Nat) :
    ((items.modify i f).zipIdx n).mapM read = (items.zipIdx n).mapM read := by
  induction items generalizing i n with
  | nil => rw [List.modify_nil]
  | cons v rest ih =>
    cases i with
    | zero =>
      rw [List.modify_zero_cons, List.zipIdx_cons, List.zipIdx_cons, List.mapM_cons,
        List.mapM_cons, h v rfl]
    | succ i =>
      rw [List.modify_succ_cons, List.zipIdx_cons, List.zipIdx_cons, List.mapM_cons,
        List.mapM_cons, ih h]

theorem each_of_items? {α : Type} {v : Value} {items : List Value} (hv : v.items? = some items)
    (here : Location) (key : String) (read : Location → Value → Except Error α) :
    each here key v read =
      items.zipIdx.mapM fun (x, i) => read (here ++ [.key key] ++ [.index i]) x := by
  simp only [each, listAt, Value.isNull_of_items? hv, hv, Bool.false_eq_true, if_false,
    Except.ok_bind]

theorem each_alterAt {α : Type} {read : Location → Value → Except Error α}
    {g : Entries → Entries} {loc : Location} {i : Nat} {v : Value}
    (h : ∀ items x, v.items? = some items → items[i]? = some x →
      ∀ here, read here (alterAt g loc x) = read here x) (here : Location) :
    each here key (alterAt g (.index i :: loc) v) read = each here key v read := by
  cases hitems : v.items? with
  | none => simp only [alterAt, hitems]
  | some items =>
    rw [alterAt_index g i loc hitems, each_of_items? rfl, each_of_items? hitems]
    exact mapM_modify_zipIdx (fun x hx n => h items x hitems hx _) 0

end

/-- A part reads as before if the mapping that is altered in it does. -/
theorem read_alterAt_of_follow? {p r : Part} {loc : Location} {f : Entries → Entries} {v : Value}
    (h : Leads p loc r)
    (hf : ∀ x es, loc.follow? v = some x → x.entries? = some es →
      ∀ here, r.read here (.mapping (f es)) = r.read here x) (here : Location) :
    p.read here (alterAt f loc v) = p.read here v := by
  induction h generalizing here v with
  | here r =>
    cases hv : v.entries? with
    | none => simp only [alterAt, hv]
    | some es =>
      have halter : alterAt f [] v = .mapping (f es) := by simp only [alterAt, hv]
      rw [halter]
      exact hf v es rfl hv here
  | @item p q r key loc i hslot _ ih =>
    cases hv : v.entries? with
    | none => simp only [alterAt, hv]
    | some es =>
      rw [alterAt_key f _ hv]
      refine Part.read_congr rfl hv (Part.agrees_alterKey hslot fun l => ?_) here
      rw [lookup_alterKey (alterAt_null f _)]
      refine each_alterAt (fun items x hitems hx => ih fun y ys hy => hf y ys ?_) l
      rw [follow?_key_cons hv, lookup?_of_items? hitems, Option.bind_some,
        follow?_index_cons hitems, hx]
      exact hy
  | @body p r key loc hslot _ ih =>
    cases hv : v.entries? with
    | none => simp only [alterAt, hv]
    | some es =>
      rw [alterAt_key f _ hv]
      refine Part.read_congr rfl hv (Part.agrees_alterKey hslot fun l => ?_) here
      rw [lookup_alterKey (alterAt_null f _)]
      cases hkey : lookup? key es with
      | none => rw [lookup, hkey, Option.getD_none, alterAt_null]
      | some x =>
        rw [lookup, hkey, Option.getD_some]
        refine ih (fun y ys hy => hf y ys ?_) l
        rw [follow?_key_cons hv, hkey]
        exact hy

/-- A part reads as before if the mapping that is altered in it does in all slots. -/
theorem read_alterAt {p r : Part} {loc : Location} {f : Entries → Entries} (h : Leads p loc r)
    (hf : ∀ es, r.Agrees (f es) es) (here : Location) (v : Value) :
    p.read here (alterAt f loc v) = p.read here v :=
  read_alterAt_of_follow? h (fun _ es _ hx => Part.read_congr rfl hx (hf es)) here

/-! ## Nulls -/

/-- The entries without a key that is null. -/
def dropNull (key : String) (es : Entries) : Entries :=
  match lookup? key es with
  | some .null => es.filter fun e => !e.1.isText key
  | _ => es

/-- The entries with the text that a key stands for when it is missing or null. -/
def spelledOut (key absent : String) (es : Entries) : Entries :=
  match lookup? key es with
  | none => es ++ [(.text key, .text absent)]
  | some .null => alterKey key (fun _ => .text "None") es
  | some _ => es

section

variable {key key' absent : String} {es : Entries}

theorem lookup?_filter (key key' : String) (es : Entries) :
    lookup? key' (es.filter fun e => !e.1.isText key) =
      if key' = key then none else lookup? key' es := by
  induction es with
  | nil => simp [lookup?]
  | cons e rest ih =>
    by_cases hkey : e.1.isText key
    · by_cases h : key' = key
      · simpa [hkey, h] using ih
      · simpa [hkey, h, Value.lookup?_cons, Value.isText_of_ne hkey h] using ih
    · by_cases h : key' = key
      · subst h
        simpa [hkey, Value.lookup?_cons] using ih
      · simp [hkey, h, Value.lookup?_cons, ih]

theorem lookup?_dropNull_of_ne (h : key' ≠ key) :
    lookup? key' (dropNull key es) = lookup? key' es := by
  unfold dropNull
  split
  · rw [lookup?_filter, if_neg h]
  · rfl

/-- Without its null, a key holds null as before. -/
theorem lookup_dropNull (key : String) (es : Entries) :
    lookup key (dropNull key es) = lookup key es := by
  unfold dropNull
  split
  · rename_i hnull
    rw [lookup, lookup?_filter, if_pos rfl, lookup, hnull]
    rfl
  · rfl

theorem lookup?_spelledOut_of_ne (h : key' ≠ key) :
    lookup? key' (spelledOut key absent es) = lookup? key' es := by
  unfold spelledOut
  split
  · rw [lookup?, List.find?_append]
    simp [lookup?, Value.isText, Ne.symm h]
  · rw [lookup?_alterKey, if_neg h]
  · rfl

theorem lookup?_spelledOut (key absent : String) (es : Entries) :
    lookup? key (spelledOut key absent es) =
      match lookup? key es with
      | none => some (.text absent)
      | some .null => some (.text "None")
      | some v => some v := by
  unfold spelledOut
  cases hkey : lookup? key es with
  | none =>
    have hnone : es.find? (fun e => e.1.isText key) = none := Option.map_eq_none_iff.mp hkey
    rw [lookup?, List.find?_append, hnone]
    simp [Value.isText]
  | some v =>
    cases v with
    | null => simp [lookup?_alterKey, hkey]
    | _ => exact hkey

theorem shownAt_spelledOut (key : String) (es : Entries) :
    shownAt (spelledOut key "" es) key = shownAt es key := by
  unfold shownAt
  rw [lookup?_spelledOut]
  cases lookup? key es with
  | none => rfl
  | some v => cases v <;> rfl

theorem kindAt_spelledOut (loc : Location) (es : Entries) :
    kindAt loc (spelledOut "kind" TagKind.text.word es) = kindAt loc es := by
  unfold kindAt
  rw [lookup?_spelledOut]
  cases lookup? "kind" es with
  | none => rfl
  | some v => cases v <;> rfl

end

/-- Wherever a part of a dump is: without a null that stands for a list or a body, the same is read.
A text that is shown is empty if it is missing and `None` if it is null, and a tag whose kind is
missing or null is read as one of kind `text` or `None`. -/
theorem program_alterAt_nulls {part : Part} {loc : Location} (h : Leads .root loc part)
    (v : Value) :
    (∀ key item, (key, .list item) ∈ part.slots →
      program (alterAt (dropNull key) loc v) = program v) ∧
    (∀ key, (key, .body) ∈ part.slots → program (alterAt (dropNull key) loc v) = program v) ∧
    (∀ key, (key, .shown) ∈ part.slots →
      program (alterAt (spelledOut key "") loc v) = program v) ∧
    ∀ key, (key, .kind) ∈ part.slots →
      program (alterAt (spelledOut key TagKind.text.word) loc v) = program v := by
  have hread : ∀ f, (∀ es, part.Agrees (f es) es) → program (alterAt f loc v) = program v :=
    fun f hf => read_alterAt h hf [] v
  refine ⟨fun key item hslot => hread _ fun es => ?_, fun key hslot => hread _ fun es => ?_,
    fun key hslot => hread _ fun es => ?_, fun key hslot => hread _ fun es => ?_⟩
  · refine Part.agrees_of_slot hslot (fun l => ?_) fun _ hkey => lookup?_dropNull_of_ne hkey
    rw [lookup_dropNull]
  · refine Part.agrees_of_slot hslot (fun l => ?_) fun _ hkey => lookup?_dropNull_of_ne hkey
    rw [lookup_dropNull]
  · exact Part.agrees_of_slot hslot (shownAt_spelledOut key es)
      fun _ hkey => lookup?_spelledOut_of_ne hkey
  · cases Part.key_of_kind hslot
    exact Part.agrees_of_slot hslot (fun l => kindAt_spelledOut l es)
      fun _ hkey => lookup?_spelledOut_of_ne hkey

/-- A class without a list of fields whose tag has nothing for its analysis type. -/
def blankDump : Value :=
  .mapping [(.text "classes", .list [
    .mapping [
      (.text "name", .text "A"),
      (.text "fields", .null),
      (.text "tags", .list [
        .mapping [(.text "text", .text "t"), (.text "analysis_type", .null)]])]])]

theorem program_alterAt_nulls_blankDump :
    let ofClass : Location := [.key "classes", .index 0]
    let ofTag : Location := ofClass ++ [.key "tags", .index 0]
    Leads .root ofClass .programClass ∧ Leads .root ofTag .tag ∧
      program (alterAt (dropNull "fields") ofClass blankDump) = program blankDump ∧
      program (alterAt (spelledOut "analysis_type" "") ofTag blankDump) = program blankDump ∧
      program blankDump = .ok ⟨[⟨"A", [.text "t" "None"], [], []⟩]⟩ ∧
      program (alterAt (dropNull "analysis_type") ofTag blankDump) =
        .ok ⟨[⟨"A", [.text "t" ""], [], []⟩]⟩ := by
  intro ofClass ofTag
  have hclasses : ("classes", .list .programClass) ∈ Part.root.slots := by decide
  have htags : ("tags", .list .tag) ∈ Part.programClass.slots := by decide
  have hclass : Leads .root ofClass .programClass := .item 0 hclasses (.here _)
  have htag : Leads .root ofTag .tag := .item 0 hclasses (.item 0 htags (.here _))
  obtain ⟨hfields, -⟩ := program_alterAt_nulls hclass blankDump
  obtain ⟨-, -, hanalysis, -⟩ := program_alterAt_nulls htag blankDump
  exact ⟨hclass, htag, hfields "fields" .field (by decide),
    hanalysis "analysis_type" (by decide), rfl, rfl⟩

end Dump

end ProgramTags
