import ProgramTags.Proofs.Dump.Conforms

/-!
# Programs as dumps

`Program.toDump` writes a program as a dump: every key is there, but for the body of a method that
has none. A program is what some dump gives exactly if it conforms to `Tag.IsFilled`, and then its
own dump gives it back (`program_toDump_iff`).
-/

namespace ProgramTags

/-! ## Writing dumps -/

def Tag.toDump (t : Tag) : Value :=
  let content : List (Value × Value) := match t with
    | .sourceFile file => [(.text "source_file", .text file)]
    | .lineNumber line => [(.text "line", .int line)]
    | .key red green blue label analysis =>
      [(.text "red", .int red), (.text "green", .int green), (.text "blue", .int blue),
        (.text "key", .text label), (.text "analysis_type", .text analysis)]
    | .text content analysis =>
      [(.text "text", .text content), (.text "analysis_type", .text analysis)]
    | .bare | .foreign _ => []
  .mapping ((.text "kind", .text t.kind.word) :: content)

def Operand.toDump (o : Operand) : Value :=
  .mapping
    [(.text "value", .text o.value), (.text "tags", .list (o.tags.map Tag.toDump))]

def Statement.toDump (s : Statement) : Value :=
  .mapping
    [(.text "text", .text s.text), (.text "tags", .list (s.tags.map Tag.toDump)),
      (.text "boxes", .list (s.operands.map Operand.toDump))]

/-- The entry of a body in the mapping of its method, if there is a body. -/
def Body.toDump : Body → List (Value × Value)
  | .active statements =>
    let units := Value.list (statements.map Statement.toDump)
    [(.text "body", .mapping [(.text "units", units)])]
  | .absent | .lost => []

def Method.toDump (m : Method) : Value :=
  .mapping
    ([(.text "name", .text m.name), (.text "tags", .list (m.tags.map Tag.toDump))] ++
      m.body.toDump)

def Field.toDump (f : Field) : Value :=
  .mapping [(.text "name", .text f.name), (.text "tags", .list (f.tags.map Tag.toDump))]

def ProgramClass.toDump (c : ProgramClass) : Value :=
  .mapping
    [(.text "name", .text c.name), (.text "tags", .list (c.tags.map Tag.toDump)),
      (.text "fields", .list (c.fields.map Field.toDump)),
      (.text "methods", .list (c.methods.map Method.toDump))]

def Program.toDump (p : Program) : Value :=
  .mapping [(.text "classes", .list (p.classes.map ProgramClass.toDump))]

/-- The tag has a kind of its own, and its text is not empty. -/
def Tag.IsFilled : Tag → Prop
  | .sourceFile file => file ≠ ""
  | .lineNumber _ => True
  | .key _ _ _ label _ => label ≠ ""
  | .text content _ => content ≠ ""
  | .bare => False
  | .foreign _ => False

namespace Value

@[simp] theorem entries?_mapping (entries : List (Value × Value)) :
    (mapping entries).entries? = some entries := rfl

@[simp] theorem lookup?_cons_text (key name : String) (v : Value)
    (rest : List (Value × Value)) :
    lookup? key ((.text name, v) :: rest) = if name = key then some v else lookup? key rest := by
  by_cases h : name = key <;> simp [lookup?, isText, h]

@[simp] theorem lookup?_nil (key : String) : lookup? key [] = none := rfl

@[simp] theorem toText_text (s : String) : (text s).toText = .ok s := rfl

end Value

namespace Dump

/-! ## Reading what has been written -/

@[simp] theorem mappingAt_mapping (loc : Location) (entries : Entries) :
    mappingAt loc (.mapping entries) = .ok entries := rfl

@[simp] theorem kindAt_word (loc : Location) (kind : TagKind) (rest : Entries) :
    kindAt loc ((.text "kind", .text kind.word) :: rest) = .ok kind := by
  cases kind <;> rfl

theorem tag_toDump (t : Tag) (h : t.IsFilled) (loc : Location) : tag loc t.toDump = .ok t := by
  simp only [tag, Tag.toDump, mappingAt_mapping, Except.ok_bind, kindAt_word]
  cases t with
  | sourceFile file =>
    have hfile : file ≠ "" := h
    simp [Tag.kind, shownAt, textAt, Value.lookup, hfile]
  | lineNumber line => simp [Tag.kind, shownAt, intAt, Value.lookup]
  | key red green blue label analysis =>
    have hlabel : label ≠ "" := h
    simp [Tag.kind, shownAt, intAt, textAt, Value.lookup, hlabel]
  | text content analysis =>
    have hcontent : content ≠ "" := h
    simp [Tag.kind, shownAt, textAt, Value.lookup, hcontent]
  | bare => exact h.elim
  | foreign tag => exact h.elim

theorem mapM_zipIdx_map {α : Type} {read : Nat → Value → Except Error α} {write : α → Value}
    {as : List α} (h : ∀ a ∈ as, ∀ i, read i (write a) = .ok a) (n : Nat) :
    ((as.map write).zipIdx n).mapM (fun x => read x.2 x.1) = .ok as := by
  induction as generalizing n with
  | nil => rfl
  | cons a as ih =>
    have ha := h a List.mem_cons_self n
    have has := ih (fun b hb => h b (List.mem_cons_of_mem a hb)) (n + 1)
    rw [List.map_cons, List.zipIdx_cons, List.mapM_cons, has, ha]
    rfl

/-- A list that has been written item by item is read back. -/
theorem each_list {α : Type} {read : Location → Value → Except Error α} {write : α → Value}
    {as : List α} (h : ∀ a ∈ as, ∀ loc, read loc (write a) = .ok a) (loc : Location)
    (key : String) : each loc key (.list (as.map write)) read = .ok as := by
  have hitems : listAt (loc ++ [.key key]) (.list (as.map write)) = .ok (as.map write) := rfl
  rw [each, hitems]
  exact mapM_zipIdx_map (fun a ha i => h a ha (loc ++ [.key key] ++ [.index i])) 0

theorem tags_toDump {ts : List Tag} (h : ∀ t ∈ ts, t.IsFilled) (loc : Location) :
    each loc "tags" (.list (ts.map Tag.toDump)) tag = .ok ts :=
  each_list (fun t ht => tag_toDump t (h t ht)) loc "tags"

theorem operand_toDump (o : Operand) (h : o.Conforms Tag.IsFilled) (loc : Location) :
    operand loc o.toDump = .ok o := by
  have htags := tags_toDump h loc
  simp [operand, Operand.toDump, shownAt, tags, Value.lookup, htags]

theorem statement_toDump (s : Statement) (h : s.Conforms Tag.IsFilled) (loc : Location) :
    statement loc s.toDump = .ok s := by
  have htags := tags_toDump h.tags loc
  have hoperands := each_list (fun o ho => operand_toDump o (h.operands o ho)) loc "boxes"
  simp [statement, Statement.toDump, shownAt, tags, Value.lookup, htags, hoperands]

theorem body_toDump {statements : List Statement}
    (h : ∀ s ∈ statements, s.Conforms Tag.IsFilled) (loc : Location) :
    body loc (.mapping [(.text "units", .list (statements.map Statement.toDump))]) =
      .ok (.active statements) := by
  have hunits := each_list (fun s hs => statement_toDump s (h s hs)) loc "units"
  simp [body, Value.isNull, Value.lookup, hunits]

theorem method_toDump (m : Method) (h : m.Conforms Tag.IsFilled) (loc : Location) :
    method loc m.toDump = .ok m := by
  obtain ⟨name, ts, b⟩ := m
  have hname : name ≠ "" := h.name
  have htags := tags_toDump h.tags loc
  cases b with
  | absent =>
    have hbody : body (loc ++ [.key "body"]) .null = .ok .absent := rfl
    simp [method, Method.toDump, Body.toDump, textAt, tags, Value.lookup, hname, htags, hbody]
  | active statements =>
    have hbody := body_toDump h.body (loc ++ [.key "body"])
    simp [method, Method.toDump, Body.toDump, textAt, tags, Value.lookup, hname, htags, hbody]
  | lost => exact h.body.elim

theorem field_toDump (f : Field) (h : f.Conforms Tag.IsFilled) (loc : Location) :
    field loc f.toDump = .ok f := by
  have hname := h.name
  have htags := tags_toDump h.tags loc
  simp [field, Field.toDump, textAt, tags, Value.lookup, hname, htags]

theorem programClass_toDump (c : ProgramClass) (h : c.Conforms Tag.IsFilled) (loc : Location) :
    programClass loc c.toDump = .ok c := by
  have hname := h.name
  have htags := tags_toDump h.tags loc
  have hfields := each_list (fun f hf => field_toDump f (h.fields f hf)) loc "fields"
  have hmethods := each_list (fun m hm => method_toDump m (h.methods m hm)) loc "methods"
  simp [programClass, ProgramClass.toDump, textAt, tags, Value.lookup, hname, htags, hfields,
    hmethods]

theorem program_toDump {p : Program} (h : p.Conforms Tag.IsFilled) :
    program p.toDump = .ok p := by
  have hclasses := each_list (fun c hc => programClass_toDump c (h c hc)) [] "classes"
  simp [program, Program.toDump, Value.lookup, hclasses]

/-- A tag that has been read has its text. -/
theorem tag_isFilled (loc : Location) (v : Value) (t : Tag) (h : tag loc v = .ok t) :
    t.IsFilled := by
  obtain ⟨entries, -, ht⟩ := tag_eq_ok h
  cases t with
  | sourceFile file => exact ht.2
  | lineNumber line => exact True.intro
  | key red green blue label analysis => exact ht.2.2.2.2
  | text content analysis => exact ht.2
  | bare => exact ht
  | foreign tag => exact ht

/-- A program is what its own dump gives exactly if its names and the texts of its tags are not
empty and its tags are of the four kinds; and so it is exactly if some dump gives it. -/
theorem program_toDump_iff (p : Program) :
    (program p.toDump = .ok p ↔ p.Conforms Tag.IsFilled) ∧
      ((∃ d, program d = .ok p) ↔ p.Conforms Tag.IsFilled) := by
  have hread : ∀ d, program d = .ok p → p.Conforms Tag.IsFilled := fun d hd =>
    program_conforms Value.hereditary_true (fun loc v t _ => tag_isFilled loc v t) trivial hd
  refine ⟨⟨hread _, program_toDump⟩, ?_, fun h => ⟨_, program_toDump h⟩⟩
  rintro ⟨d, hd⟩
  exact hread d hd

/-- A method without a body and one with an empty body are told apart. -/
example :
    let p : Program := ⟨[⟨"A", [.lineNumber (-1)], [⟨"f", []⟩],
      [⟨"m", [], .absent⟩, ⟨"m", [.text "t" ""], .active []⟩,
        ⟨"n", [], .active [⟨"", [], [⟨"", [.key 0 1 2 "k" "a"]⟩]⟩]⟩]⟩]⟩
    program p.toDump = .ok p := by
  rfl

end Dump

end ProgramTags
