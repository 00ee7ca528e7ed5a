import ProgramTags.Collection
import ProgramTags.Proofs.Appending

/-!
# What gathering a class appends

Every gathering operation appends to the collection, and what it appends does not hang on what has
been gathered before. `Statement.attributes`, `Method.attributes` and `ProgramClass.attributes` say
what it is by walking the class without a state, and `Gather.run_programClass_appends` equates the
two. `Gather.keyTags_eq_appends` is the same for the keys among the tags of a class.
-/

namespace ProgramTags

/-! ## Collections end to end -/

namespace Collection

instance : Appendable Collection where
  append c d := ⟨c.attributes ++ d.attributes, c.keys ++ d.keys⟩
  nothing := {}
  append_nothing c := by
    show mk (c.attributes ++ []) (c.keys ++ []) = c
    rw [List.append_nil, List.append_nil]
  append_assoc c d e := by
    show mk (c.attributes ++ d.attributes ++ e.attributes) (c.keys ++ d.keys ++ e.keys) = _
    rw [List.append_assoc, List.append_assoc]
    rfl

theorem append_def (c d : Collection) :
    c ++ d = ⟨c.attributes ++ d.attributes, c.keys ++ d.keys⟩ := rfl

@[simp] theorem append_attributes (c : Collection) (as : List Attribute) :
    c ++ ({ attributes := as } : Collection) = { c with attributes := c.attributes ++ as } := by
  rw [append_def, List.append_nil]

theorem concat_map_attributes {α : Type} (f : α → List Attribute) (xs : List α) :
    Appendable.concat (xs.map fun x => ({ attributes := f x } : Collection)) =
      { attributes := xs.flatMap f } := by
  induction xs with
  | nil => rfl
  | cons x xs ih =>
    rw [List.map_cons, Appendable.concat_cons, ih, append_attributes, List.flatMap_cons]

theorem append_keys (c : Collection) (ks : List Key) :
    c ++ ({ keys := ks } : Collection) = { c with keys := c.keys ++ ks } := by
  rw [append_def, List.append_nil]

theorem concat_map_keys {α : Type} (f : α → Option Key) (xs : List α) :
    Appendable.concat (xs.map fun x => ({ keys := (f x).toList } : Collection)) =
      { keys := xs.filterMap f } := by
  induction xs with
  | nil => rfl
  | cons x xs ih =>
    rw [List.map_cons, Appendable.concat_cons, ih, append_keys]
    cases hx : f x with
    | none => rw [List.filterMap_cons_none hx]; rfl
    | some k => rw [List.filterMap_cons_some hx]; rfl

end Collection

/-! ## What an element gives -/

/-- The tag reports a key and has none of its parts. -/
def Tag.LacksKey (t : Tag) : Prop :=
  t.kind = .key ∧ t.key? = none

instance : DecidablePred Tag.LacksKey :=
  fun t => inferInstanceAs (Decidable (t.kind = .key ∧ t.key? = none))

/-- One attribute of the tags, or none if there are no tags. -/
def Attribute.ofTags (tags : List Tag) : List Attribute :=
  if tags = [] then [] else [⟨tags⟩]

def Statement.lineMarker? (s : Statement) : Option Tag :=
  (s.tags.filter (·.kind = .lineNumber)).getLast?

/-- An operand with tags gives one attribute, in which the marker follows each of them. -/
def Operand.attributes (marker : Option Tag) (o : Operand) : List Attribute :=
  if o.tags = [] then [] else [⟨o.tags.flatMap fun tag => tag :: marker.toList⟩]

/-- A statement gives an attribute, with or without tags, and then those of its operands. -/
def Statement.attributes (s : Statement) : List Attribute :=
  ⟨s.tags⟩ :: s.operands.flatMap (Operand.attributes s.lineMarker?)

/-- A method that is not abstract gives its own attribute and, if asked for, those of its
statements. -/
def Method.attributes (includeBodies : Bool) (m : Method) : List Attribute :=
  match m.body with
  | .absent => []
  | .lost => Attribute.ofTags m.tags
  | .active statements =>
    Attribute.ofTags m.tags ++
      if includeBodies then statements.flatMap Statement.attributes else []

/-- A class gives the attribute of its own tags without source files, those of its fields and
those of its methods. -/
def ProgramClass.attributes (includeBodies : Bool) (c : ProgramClass) : List Attribute :=
  Attribute.ofTags (c.tags.filter (·.kind ≠ .sourceFile)) ++
    c.fields.flatMap (fun f => Attribute.ofTags f.tags) ++
    c.methods.flatMap (Method.attributes includeBodies)

/-- The method is said to have a body, and none is found. -/
def Method.isBroken (m : Method) : Bool :=
  m.hasActiveBody && m.activeBody.toOption.isNone

def ProgramClass.firstBroken? (includeBodies : Bool) (c : ProgramClass) : Option Method :=
  if includeBodies then c.methods.find? Method.isBroken else none

/-- The class as far as its first method whose body is missing. -/
def ProgramClass.upTo (c : ProgramClass) (m : Method) : ProgramClass :=
  { c with methods := c.methods.takeWhile (!·.isBroken) ++ [m] }

namespace Gather

/-! ## Each operation appends what its element gives -/

theorem pure_eq_appends_attributes :
    (pure () : Gather Unit) = appends { attributes := [] } :=
  pure_eq_appends

theorem push_eq_appends (a : Attribute) : push a = appends { attributes := [a] } := by
  funext c
  show EStateM.Result.ok () _ = EStateM.Result.ok () _
  rw [Collection.append_attributes]

theorem tags_eq_appends (ts : List Tag) :
    tags ts = appends { attributes := Attribute.ofTags ts } := by
  unfold tags Attribute.ofTags
  simp only [List.isEmpty_iff]
  split
  · exact pure_eq_appends_attributes
  · exact push_eq_appends _

theorem classTags_eq_appends (c : ProgramClass) :
    classTags c =
      appends { attributes := Attribute.ofTags (c.tags.filter (·.kind ≠ .sourceFile)) } :=
  tags_eq_appends _

theorem fieldTags_eq_appends (f : Field) :
    fieldTags f = appends { attributes := Attribute.ofTags f.tags } :=
  tags_eq_appends _

/-- Going through the tags with the last line marker in hand finds the last of them all. -/
theorem lastLineMarker?_eq (ts : List Tag) :
    lastLineMarker? ts = (ts.filter (·.kind = .lineNumber)).getLast? := by
  suffices h : ∀ last : Option Tag,
      ts.foldl (fun last tag => if tag.kind = .lineNumber then some tag else last) last =
        (ts.filter (·.kind = .lineNumber)).getLast?.or last from
    (h none).trans (Option.or_none ..)
  induction ts with
  | nil => intro last; rfl
  | cons t ts ih =>
    intro last
    rw [List.foldl_cons, ih]
    by_cases h : t.kind = .lineNumber
    · rw [if_pos h, List.filter_cons_of_pos (by simpa using h), List.getLast?_cons]
      cases (ts.filter (·.kind = .lineNumber)).getLast? <;> rfl
    · rw [if_neg h, List.filter_cons_of_neg (by simpa using h)]

theorem operand_eq_appends (marker : Option Tag) (o : Operand) :
    operand marker o = appends { attributes := o.attributes marker } := by
  unfold operand Operand.attributes
  simp only [List.isEmpty_iff]
  split
  · exact pure_eq_appends_attributes
  · exact push_eq_appends _

theorem statement_eq_appends (s : Statement) :
    statement s = appends { attributes := s.attributes } := by
  have hoperands : s.operands.forM (operand s.lineMarker?) =
      appends { attributes := s.operands.flatMap (Operand.attributes s.lineMarker?) } := by
    rw [forM_eq_appends fun o _ => operand_eq_appends _ o, Collection.concat_map_attributes]
  unfold statement
  rw [push_eq_appends, lastLineMarker?_eq]
  show (appends _ >>= fun _ => s.operands.forM (operand s.lineMarker?)) = _
  rw [hoperands, appends_bind, Collection.append_attributes]
  rfl

/-- The last tag that reports a line is passed on, even if it has none. -/
example :
    let mark : Tag := .foreign ⟨"Mark", .lineNumber, "Mark()", none⟩
    Statement.attributes ⟨"x = y", [.lineNumber 4, mark, .bare],
      [⟨"x", [.text "def" "", .lineNumber 7]⟩, ⟨"y", []⟩]⟩ =
    [⟨[.lineNumber 4, mark, .bare]⟩, ⟨[.text "def" "", mark, .lineNumber 7, mark]⟩] := by
  decide

theorem bodyTags_eq_appends (statements : List Statement) :
    bodyTags statements = appends { attributes := statements.flatMap Statement.attributes } := by
  rw [bodyTags, forM_eq_appends fun s _ => statement_eq_appends s, Collection.concat_map_attributes]

theorem methodTags_eq_appends (m : Method) :
    methodTags m = appends { attributes := m.attributes false } := by
  unfold methodTags Method.attributes
  cases h : m.body with
  | absent => simpa [Method.hasActiveBody, h] using pure_eq_appends_attributes
  | lost => simpa [Method.hasActiveBody, h] using tags_eq_appends m.tags
  | active statements => simpa [Method.hasActiveBody, h] using tags_eq_appends m.tags

theorem isBroken_iff (m : Method) : m.isBroken = true ↔ m.body = .lost := by
  unfold Method.isBroken Method.hasActiveBody Method.activeBody
  cases m.body <;> simp [Except.toOption]

/-- A method whose body is missing still gives its own tags. -/
theorem method_eq_appends (includeBodies : Bool) (m : Method) :
    method includeBodies m =
      appends { attributes := m.attributes includeBodies }
        (if includeBodies && m.isBroken then some (.missingBody ⟨m.name⟩) else none) := by
  unfold method
  rw [methodTags_eq_appends]
  cases hb : m.body with
  | absent =>
    have hbroken : m.isBroken = false := by simp [Method.isBroken, Method.hasActiveBody, hb]
    simp [Method.hasActiveBody, hb, hbroken, Method.attributes, pure_eq_appends_attributes,
      appends_bind]
  | lost =>
    have hbroken : m.isBroken = true := (isBroken_iff m).2 hb
    cases includeBodies
    · simp [Method.attributes, hb, pure_eq_appends_attributes, appends_bind]
    · simp [Method.hasActiveBody, hb, hbroken, Method.attributes, activeBody, Method.activeBody,
        appends_bind_throw]
  | active statements =>
    have hbroken : m.isBroken = false := by
      rw [Bool.eq_false_iff, Ne, isBroken_iff, hb]
      simp
    cases includeBodies
    · simp [Method.attributes, hb, pure_eq_appends_attributes, appends_bind]
    · simp [Method.hasActiveBody, hb, hbroken, Method.attributes, activeBody, Method.activeBody,
        bodyTags_eq_appends, appends_bind]

/-- A method whose body is not missed appends what it gives. -/
theorem method_eq_appends_of_not_isBroken {includeBodies : Bool} {m : Method}
    (h : includeBodies = true → m.isBroken = false) :
    method includeBodies m = appends { attributes := m.attributes includeBodies } := by
  rw [method_eq_appends]
  cases includeBodies
  · rfl
  · simp [h rfl]

/-! ## Keys -/

/-- A tag that reports a key is gathered as one, if it has the parts. -/
theorem keyTag_eq_appends (t : Tag) :
    keyTag t = appends { keys := t.key?.toList }
      (if t.LacksKey then some (.noKey t.className) else none) := by
  unfold keyTag
  by_cases hkind : t.kind = .key
  case neg =>
    have hkey : t.key? = none := by simp [Tag.key?, hkind]
    rw [if_neg hkind, hkey, if_neg fun h => hkind h.1]
    exact pure_eq_appends
  case pos =>
    rw [if_pos hkind]
    cases hkey : t.key? with
    | none =>
      funext c
      rw [if_pos ⟨hkind, hkey⟩]
      show EStateM.Result.error _ c = EStateM.Result.error _ (c ++ { keys := [] })
      rw [Collection.append_keys, List.append_nil]
    | some k =>
      funext c
      rw [if_neg fun h : t.LacksKey => by simp [h.2] at hkey]
      show EStateM.Result.ok () _ = EStateM.Result.ok () _
      rw [Collection.append_keys]
      rfl

theorem keyTags_eq_appends {c : ProgramClass}
    (h : ∀ t ∈ c.tags, t.kind = .key → t.key? ≠ none) :
    keyTags c = appends { keys := c.tags.filterMap Tag.key? } := by
  have htag : ∀ t ∈ c.tags, keyTag t = appends { keys := t.key?.toList } := by
    intro t ht
    rw [keyTag_eq_appends, if_neg fun hkey => h t ht hkey.1 hkey.2]
  rw [keyTags, forM_eq_appends htag, Collection.concat_map_keys]

/-- The first tag that reports a key and has none of its parts ends the gathering of keys. -/
theorem keyTags_eq_appends_fault {c : ProgramClass} {before after : List Tag} {t : Tag}
    (hc : c.tags = before ++ t :: after) (hbefore : ∀ u ∈ before, ¬u.LacksKey) (ht : t.LacksKey) :
    keyTags c = appends { keys := (before ++ [t]).filterMap Tag.key? }
      (some (.noKey t.className)) := by
  have htags : ∀ u ∈ before, keyTag u = appends { keys := u.key?.toList } := by
    intro u hu
    rw [keyTag_eq_appends, if_neg (hbefore u hu)]
  have hlast : keyTag t = appends { keys := t.key?.toList } (some (.noKey t.className)) := by
    rw [keyTag_eq_appends, if_pos ht]
  rw [keyTags, hc, forM_eq_appends_fault htags hlast, Collection.concat_map_keys]

/-! ## A whole class -/

theorem firstBroken?_eq_none {c : ProgramClass} {includeBodies : Bool} :
    c.firstBroken? includeBodies = none ↔
      ∀ m ∈ c.methods, includeBodies = true → m.isBroken = false := by
  unfold ProgramClass.firstBroken?
  cases includeBodies <;> simp

theorem firstBroken?_eq_some {c : ProgramClass} {includeBodies : Bool} {m : Method}
    (h : c.firstBroken? includeBodies = some m) :
    includeBodies = true ∧ m.isBroken = true ∧ ∃ before after,
      c.methods = before ++ m :: after ∧ (∀ y ∈ before, y.isBroken = false) ∧
      c.upTo m = { c with methods := before ++ [m] } := by
  unfold ProgramClass.firstBroken? at h
  split at h
  case isFalse => cases h
  case isTrue hb =>
    obtain ⟨hm, before, after, heq, hbefore⟩ := List.find?_eq_some_iff_append.1 h
    have hnot : ∀ y ∈ before, y.isBroken = false := fun y hy => by simpa using hbefore y hy
    refine ⟨hb, hm, before, after, heq, hnot, ?_⟩
    unfold ProgramClass.upTo
    rw [heq, List.takeWhile_append_of_pos fun y hy => by simp [hnot y hy]]
    simp [hm]

/-- The class and its fields come before the methods, whatever those append. -/
theorem programClass_eq_appends_of_methods {c : ProgramClass} {includeBodies : Bool}
    {methods : List Method} {fault : Option GatherError}
    (h : c.methods.forM (method includeBodies) =
      appends (Appendable.concat (methods.map fun m => ⟨m.attributes includeBodies, []⟩)) fault) :
    programClass c includeBodies =
      appends
        { attributes := ({ c with methods } : ProgramClass).attributes includeBodies } fault := by
  have hfields : c.fields.forM fieldTags =
      appends { attributes := c.fields.flatMap fun f => Attribute.ofTags f.tags } := by
    rw [forM_eq_appends fun f _ => fieldTags_eq_appends f, Collection.concat_map_attributes]
  unfold programClass
  show (classTags c >>= fun _ => c.fields.forM fieldTags >>= fun _ =>
    c.methods.forM (method includeBodies)) = _
  rw [classTags_eq_appends, hfields, h, appends_bind, appends_bind]
  simp [Collection.concat_map_attributes, ProgramClass.attributes]

theorem programClass_eq_appends {c : ProgramClass} {includeBodies : Bool}
    (h : c.firstBroken? includeBodies = none) :
    programClass c includeBodies = appends { attributes := c.attributes includeBodies } := by
  rw [firstBroken?_eq_none] at h
  exact programClass_eq_appends_of_methods
    (forM_eq_appends fun m hm => method_eq_appends_of_not_isBroken (h m hm))

theorem programClass_eq_appends_fault {c : ProgramClass} {includeBodies : Bool} {m : Method}
    (h : c.firstBroken? includeBodies = some m) :
    programClass c includeBodies =
      appends { attributes := (c.upTo m).attributes includeBodies }
        (some (.missingBody ⟨m.name⟩)) := by
  obtain ⟨hb, hm, before, after, heq, hbefore, hupTo⟩ := firstBroken?_eq_some h
  have hmethod := method_eq_appends includeBodies m
  rw [hb, hm] at hmethod
  rw [hupTo]
  refine programClass_eq_appends_of_methods ?_
  rw [heq, hb]
  exact forM_eq_appends_fault (fun y hy => method_eq_appends_of_not_isBroken fun _ => hbefore y hy)
    hmethod

/-- Gathering a class leaves the keys alone and appends the attributes of the class. It fails
exactly if bodies are asked for and one is missing, at the first such method, and then what it has
appended are the attributes of the class as far as that method. -/
theorem run_programClass_appends (c : ProgramClass) (includeBodies : Bool) (start : Collection) :
    ((programClass c includeBodies).run start =
      match c.firstBroken? includeBodies with
      | none =>
        .ok () { start with attributes := start.attributes ++ c.attributes includeBodies }
      | some m =>
        .error (.missingBody ⟨m.name⟩)
          { start with attributes := start.attributes ++ (c.upTo m).attributes includeBodies }) ∧
    ((∃ e after, (programClass c includeBodies).run start = .error e after) ↔
      includeBodies = true ∧ ∃ m ∈ c.methods, m.isBroken = true) := by
  cases h : c.firstBroken? includeBodies with
  | none =>
    have hrun : (programClass c includeBodies).run start =
        .ok () { start with attributes := start.attributes ++ c.attributes includeBodies } := by
      rw [programClass_eq_appends h, ← Collection.append_attributes]
      rfl
    refine ⟨hrun, ?_⟩
    rw [firstBroken?_eq_none] at h
    simp only [hrun, reduceCtorEq, exists_false, false_iff]
    rintro ⟨hb, m, hm, hbroken⟩
    rw [h m hm hb] at hbroken
    cases hbroken
  | some m =>
    have hrun : (programClass c includeBodies).run start =
        .error (.missingBody ⟨m.name⟩)
          { start with attributes := start.attributes ++ (c.upTo m).attributes includeBodies } := by
      rw [programClass_eq_appends_fault h, ← Collection.append_attributes]
      rfl
    refine ⟨hrun, ?_⟩
    obtain ⟨hb, hbroken, before, after, heq, -⟩ := firstBroken?_eq_some h
    have hm : m ∈ c.methods := by simp [heq]
    exact ⟨fun _ => ⟨hb, m, hm, hbroken⟩, fun _ => ⟨_, _, hrun⟩⟩

end Gather

end ProgramTags
