import ProgramTags.Proofs.Collecting
import ProgramTags.Proofs.Export.Keys

/-!
# Attributes of method bodies

`ProgramClass.origins` are the attributes of a class, each with the element that it comes from.
Gathering the class without bodies leaves out those that come from statements and operands, and
nothing else: the others stay as they are, in their order, the keys are the same, and so is how
gathering ends (`bodies_left_out`). Whether a class is skipped for being empty depends on bodies
through these attributes alone.
-/

namespace ProgramTags

/-- The element that an attribute comes from. -/
inductive Origin where
  | programClass
  | field
  | method
  | statement
  | operand
  deriving DecidableEq, Repr

def Origin.isInBody : Origin → Bool
  | .statement | .operand => true
  | .programClass | .field | .method => false

/-! ## Attributes with their origins -/

/-- Attributes with the elements that they come from. -/
abbrev Origins := List (Origin × Attribute)

namespace Origins

/-- The attributes of one element. -/
def of (origin : Origin) (as : List Attribute) : Origins :=
  as.map (origin, ·)

def attributes (os : Origins) : List Attribute :=
  os.map Prod.snd

def outsideBodies (os : Origins) : Origins :=
  os.filter (!·.1.isInBody)

variable {α : Type}

@[simp] theorem attributes_of (origin : Origin) (as : List Attribute) :
    (of origin as).attributes = as := by
  rw [attributes, of, List.map_map]
  exact List.map_id as

@[simp] theorem attributes_nil : attributes [] = [] := rfl

@[simp] theorem attributes_append (os os' : Origins) :
    attributes (os ++ os') = os.attributes ++ os'.attributes :=
  List.map_append

@[simp] theorem attributes_flatMap (f : α → Origins) (as : List α) :
    attributes (as.flatMap f) = as.flatMap fun a => (f a).attributes :=
  List.map_flatMap

theorem outsideBodies_of (origin : Origin) (as : List Attribute) :
    (of origin as).outsideBodies = if origin.isInBody then [] else of origin as := by
  cases horigin : origin.isInBody <;> simp [outsideBodies, of, horigin]

@[simp] theorem outsideBodies_append (os os' : Origins) :
    outsideBodies (os ++ os') = os.outsideBodies ++ os'.outsideBodies :=
  List.filter_append ..

@[simp] theorem outsideBodies_flatMap (f : α → Origins) (as : List α) :
    outsideBodies (as.flatMap f) = as.flatMap fun a => (f a).outsideBodies :=
  List.filter_flatMap

end Origins

/-! ## The attributes of a class and where they come from -/

def Statement.origins (s : Statement) : Origins :=
  Origins.of .statement [⟨s.tags⟩] ++
    s.operands.flatMap fun o => Origins.of .operand (o.attributes s.lineMarker?)

def Method.statements (m : Method) : List Statement :=
  match m.body with
  | .active statements => statements
  | .absent | .lost => []

/-- A method that is not abstract gives its own attribute and those of its statements. -/
def Method.origins (m : Method) : Origins :=
  Origins.of .method (if m.hasActiveBody then Attribute.ofTags m.tags else []) ++
    m.statements.flatMap Statement.origins

def ProgramClass.origins (c : ProgramClass) : Origins :=
  Origins.of .programClass (Attribute.ofTags (c.tags.filter (·.kind ≠ .sourceFile))) ++
    c.fields.flatMap (fun f => Origins.of .field (Attribute.ofTags f.tags)) ++
    c.methods.flatMap Method.origins

def ProgramClass.statements (c : ProgramClass) : List Statement :=
  c.methods.flatMap Method.statements

theorem Statement.attributes_origins (s : Statement) : s.origins.attributes = s.attributes := by
  simp [origins, attributes]

theorem Statement.outsideBodies_origins (s : Statement) : s.origins.outsideBodies = [] := by
  simp [origins, Origins.outsideBodies_of, Origin.isInBody]

theorem Method.attributes_origins (m : Method) : m.origins.attributes = m.attributes true := by
  unfold origins attributes statements hasActiveBody
  cases m.body <;> simp [Statement.attributes_origins]

theorem Method.attributes_outsideBodies_origins (m : Method) :
    m.origins.outsideBodies.attributes = m.attributes false := by
  unfold origins attributes statements hasActiveBody
  cases m.body <;>
    simp [Statement.outsideBodies_origins, Origins.outsideBodies_of, Origin.isInBody]

/-- With bodies, a class gives all its attributes. -/
theorem ProgramClass.attributes_origins (c : ProgramClass) :
    c.origins.attributes = c.attributes true := by
  simp [origins, attributes, Method.attributes_origins]

/-- Without bodies, it gives those that are not of statements and operands. -/
theorem ProgramClass.attributes_outsideBodies_origins (c : ProgramClass) :
    c.origins.outsideBodies.attributes = c.attributes false := by
  simp [origins, attributes, Method.attributes_outsideBodies_origins, Origins.outsideBodies_of,
    Origin.isInBody]

/-! ## How many there are -/

def taggedOperands (statements : List Statement) : Nat :=
  (statements.flatMap (·.operands)).countP (!·.tags.isEmpty)

theorem taggedOperands_append (ss ss' : List Statement) :
    taggedOperands (ss ++ ss') = taggedOperands ss + taggedOperands ss' := by
  rw [taggedOperands, List.flatMap_append, List.countP_append]
  rfl

theorem length_operandAttributes (marker : Option Tag) (os : List Operand) :
    (os.flatMap (Operand.attributes marker)).length = os.countP (!·.tags.isEmpty) := by
  induction os with
  | nil => rfl
  | cons o os ih =>
    rw [List.flatMap_cons, List.length_append, ih, List.countP_cons, Operand.attributes]
    cases htags : o.tags with
    | nil => simp
    | cons t ts => simp [Nat.add_comm]

theorem taggedOperands_cons (s : Statement) (ss : List Statement) :
    taggedOperands (s :: ss) = s.operands.countP (!·.tags.isEmpty) + taggedOperands ss := by
  rw [taggedOperands, List.flatMap_cons, List.countP_append]
  rfl

theorem length_statementAttributes (ss : List Statement) :
    (ss.flatMap Statement.attributes).length = ss.length + taggedOperands ss := by
  induction ss with
  | nil => rfl
  | cons s ss ih =>
    rw [List.flatMap_cons, List.length_append, ih, Statement.attributes, List.length_cons,
      length_operandAttributes, taggedOperands_cons, List.length_cons]
    omega

theorem Method.length_attributes (m : Method) :
    (m.attributes true).length =
      (m.attributes false).length + m.statements.length + taggedOperands m.statements := by
  unfold attributes statements
  cases m.body with
  | absent | lost => rfl
  | active statements =>
    simp only [if_true, Bool.false_eq_true, if_false, List.append_nil, List.length_append,
      length_statementAttributes]
    omega

/-- With bodies, there are as many attributes more as there are statements and operands with tags
in them. -/
theorem ProgramClass.length_attributes (c : ProgramClass) :
    (c.attributes true).length =
      (c.attributes false).length + c.statements.length + taggedOperands c.statements := by
  have hmethods : ∀ ms : List Method, (ms.flatMap (Method.attributes true)).length =
      (ms.flatMap (Method.attributes false)).length + (ms.flatMap Method.statements).length +
        taggedOperands (ms.flatMap Method.statements) := by
    intro ms
    induction ms with
    | nil => rfl
    | cons m ms ih =>
      simp only [List.flatMap_cons, List.length_append, ih, m.length_attributes,
        taggedOperands_append]
      omega
  simp only [attributes, statements, List.length_append, hmethods]
  omega

/-! ## Classes without attributes outside of bodies -/

/-- No tag is on the class but its source files, none on a field, and none on a method that has a
body. -/
structure ProgramClass.IsBare (c : ProgramClass) : Prop where
  tags : ∀ t ∈ c.tags, t.kind = .sourceFile
  fields : ∀ f ∈ c.fields, f.tags = []
  methods : ∀ m ∈ c.methods, m.hasActiveBody = true → m.tags = []

theorem Attribute.ofTags_eq_nil {ts : List Tag} : Attribute.ofTags ts = [] ↔ ts = [] := by
  unfold ofTags
  split <;> simp_all

theorem Method.attributes_false_eq_nil {m : Method} :
    m.attributes false = [] ↔ (m.hasActiveBody = true → m.tags = []) := by
  unfold attributes hasActiveBody
  cases m.body <;> simp [Attribute.ofTags_eq_nil]

theorem ProgramClass.attributes_false_eq_nil {c : ProgramClass} :
    c.attributes false = [] ↔ c.IsBare := by
  have htags : Attribute.ofTags (c.tags.filter (·.kind ≠ .sourceFile)) = [] ↔
      ∀ t ∈ c.tags, t.kind = .sourceFile := by
    rw [Attribute.ofTags_eq_nil, List.filter_eq_nil_iff]
    simp
  unfold attributes
  rw [List.append_eq_nil_iff, List.append_eq_nil_iff, htags, List.flatMap_eq_nil_iff,
    List.flatMap_eq_nil_iff]
  simp only [Attribute.ofTags_eq_nil, Method.attributes_false_eq_nil]
  exact ⟨fun ⟨⟨h, h'⟩, h''⟩ => ⟨h, h', h''⟩, fun ⟨h, h', h''⟩ => ⟨⟨h, h'⟩, h''⟩⟩

namespace Export

/-! ## Runs with and without bodies -/

variable {c : ProgramClass}

/-- Keys and how gathering ends do not depend on bodies. -/
theorem gathering_eq_appends (h : ∀ m ∈ c.methods, m.isBroken = false) (keys : Bool) :
    ∃ ks fault, ∀ includeBodies, gathering ⟨includeBodies, keys⟩ c =
      appends { attributes := c.attributes includeBodies, keys := ks } fault := by
  have hclass : ∀ includeBodies, Gather.programClass c includeBodies =
      appends { attributes := c.attributes includeBodies } := fun includeBodies =>
    Gather.programClass_eq_appends (Gather.firstBroken?_eq_none.mpr fun m hm _ => h m hm)
  cases keys with
  | false =>
    refine ⟨[], none, fun includeBodies => ?_⟩
    rw [gathering, hclass]
    rfl
  | true =>
    obtain ⟨⟨attributes, ks⟩, fault, hnone, hkeys⟩ := Gather.keyTags_adds c
    obtain rfl : attributes = [] := hnone
    refine ⟨ks, fault, fun includeBodies => ?_⟩
    rw [gathering, hclass]
    simp only [if_true]
    rw [hkeys, appends_bind, Collection.append_keys]
    rfl

/-- What is gathered with bodies and without them is complete in both cases or in none. -/
theorem collection_cases_bodies (h : ∀ m ∈ c.methods, m.isBroken = false) (keys : Bool) :
    (∃ e, ∀ includeBodies, collection ⟨includeBodies, keys⟩ c = .error e) ∨
    ∃ ks, ∀ includeBodies,
      collection ⟨includeBodies, keys⟩ c = .ok ⟨c.attributes includeBodies, ks⟩ := by
  obtain ⟨ks, fault, hgathering⟩ := gathering_eq_appends h keys
  cases fault with
  | some e => exact .inl ⟨e, fun includeBodies => by rw [collection, hgathering]; rfl⟩
  | none => exact .inr ⟨ks, fun includeBodies => by rw [collection, hgathering]; rfl⟩

/-- A class is skipped for what its collection holds, which has the same keys with bodies and
without them. -/
theorem skips_bodies_cases (h : ∀ m ∈ c.methods, m.isBroken = false) (keys skipEmpty : Bool)
    (directory : Path) : ∃ skips : Prop, ∀ includeBodies s,
      (∃ o t, (programClass ⟨includeBodies, keys⟩ skipEmpty directory c) s = .ok o t ∧
        o.written = false) ↔ c.attributes includeBodies = [] ∧ skips := by
  rcases collection_cases_bodies h keys with ⟨e, herror⟩ | ⟨ks, hfound⟩
  · refine ⟨False, fun includeBodies s => ?_⟩
    rw [programClass_skips_iff, herror]
    simp
  · refine ⟨ks = [] ∧ skipEmpty = true, fun includeBodies s => ?_⟩
    rw [programClass_skips_iff, hfound]
    simp [Collection.isEmpty, and_assoc]

/-- What bodies add to a class, and what comes of leaving them out. -/
structure BodiesLeftOut (c : ProgramClass) : Prop where
  gathered : ∀ keys, ∃ ks fault,
    gathering ⟨true, keys⟩ c = appends { attributes := c.origins.attributes, keys := ks } fault ∧
    gathering ⟨false, keys⟩ c =
      appends { attributes := c.origins.outsideBodies.attributes, keys := ks } fault
  counted : c.origins.attributes.length = c.origins.outsideBodies.attributes.length +
    c.statements.length + taggedOperands c.statements
  skipped : ∀ keys skipEmpty directory s s',
    (∃ o t, (programClass ⟨true, keys⟩ skipEmpty directory c) s = .ok o t ∧ o.written = false) →
    ∃ o t, (programClass ⟨false, keys⟩ skipEmpty directory c) s' = .ok o t ∧ o.written = false
  written : ∀ keys skipEmpty directory s s',
    (∃ o t, (programClass ⟨true, keys⟩ skipEmpty directory c) s = .ok o t ∧ o.written = true) →
    (∃ o t, (programClass ⟨false, keys⟩ skipEmpty directory c) s' = .ok o t ∧ o.written = false) →
    c.IsBare ∧ c.statements ≠ []

/-- A class none of whose methods is broken gives the same without bodies, but for the attributes of
statements and operands. If it is skipped with them, so it is without them; if it is written with
them and skipped without, it has statements and no tag besides its source files. -/
theorem bodies_left_out (c : ProgramClass) (h : ∀ m ∈ c.methods, m.isBroken = false) :
    BodiesLeftOut c := by
  have hwith := c.attributes_origins
  have hwithout := c.attributes_outsideBodies_origins
  have hlength := c.length_attributes
  refine ⟨fun keys => ?_, ?_, fun keys skipEmpty directory s s' hskipped => ?_,
    fun keys skipEmpty directory s s' hwritten hskipped => ?_⟩
  · obtain ⟨ks, fault, hgathering⟩ := gathering_eq_appends h keys
    rw [hwith, hwithout]
    exact ⟨ks, fault, hgathering true, hgathering false⟩
  · rw [hwith, hwithout]
    exact hlength
  · obtain ⟨skips, hskips⟩ := skips_bodies_cases h keys skipEmpty directory
    obtain ⟨hattributes, hrest⟩ := (hskips true s).mp hskipped
    rw [hattributes, List.length_nil] at hlength
    exact (hskips false s').mpr ⟨List.eq_nil_of_length_eq_zero (by omega), hrest⟩
  · obtain ⟨skips, hskips⟩ := skips_bodies_cases h keys skipEmpty directory
    obtain ⟨hattributes, hrest⟩ := (hskips false s').mp hskipped
    refine ⟨ProgramClass.attributes_false_eq_nil.mp hattributes, fun hstatements => ?_⟩
    rw [hattributes, hstatements] at hlength
    -- Without statements it gives nothing with bodies, either, and is skipped.
    obtain ⟨o, t, ho, hnot⟩ := (hskips true s).mpr ⟨List.eq_nil_of_length_eq_zero hlength, hrest⟩
    obtain ⟨o', t', ho', hwritten⟩ := hwritten
    rw [ho] at ho'
    cases ho'
    rw [hwritten] at hnot
    cases hnot

/-- A class whose only tags are in the body of a method, besides a source file and an abstract
method. -/
def bodyOnly : ProgramClass :=
  ⟨"A", [.sourceFile "A.java"], [⟨"f", []⟩], [⟨"m", [.bare], .absent⟩,
    ⟨"n", [], .active [⟨"", [], [⟨"x", [.lineNumber 1]⟩, ⟨"y", []⟩]⟩, ⟨"", [.bare], []⟩]⟩]⟩

theorem bodies_left_out_bodyOnly :
    (∀ m ∈ bodyOnly.methods, m.isBroken = false) ∧ BodiesLeftOut bodyOnly ∧
      bodyOnly.origins.attributes = [⟨[]⟩, ⟨[.lineNumber 1]⟩, ⟨[.bare]⟩] ∧
      bodyOnly.origins.outsideBodies = [] := by
  have hunbroken : ∀ m ∈ bodyOnly.methods, m.isBroken = false := by decide
  exact ⟨hunbroken, bodies_left_out bodyOnly hunbroken, by decide, by decide⟩

end Export

end ProgramTags
