import ProgramTags.Dump
import ProgramTags.Proofs.Reports
import ProgramTags.Proofs.Value.Numbers

/-!
# What is read from dumps

A program conforms to `P` if its names are not empty, no body is lost and all its tags are in `P`.
`program_conforms`: a program read from a dump conforms to whatever holds of every tag that is read
from a value in the dump. `tag_eq_ok` says what a tag that is read has to do with that value.
-/

namespace ProgramTags

/-! ## Conforming programs -/

section

variable (P : Tag → Prop)

def Operand.Conforms (o : Operand) : Prop :=
  ∀ t ∈ o.tags, P t

structure Statement.Conforms (s : Statement) : Prop where
  tags : ∀ t ∈ s.tags, P t
  operands : ∀ o ∈ s.operands, o.Conforms P

def Body.Conforms : Body → Prop
  | .absent => True
  | .active statements => ∀ s ∈ statements, s.Conforms P
  | .lost => False

structure Method.Conforms (m : Method) : Prop where
  name : m.name ≠ ""
  tags : ∀ t ∈ m.tags, P t
  body : m.body.Conforms P

structure Field.Conforms (f : Field) : Prop where
  name : f.name ≠ ""
  tags : ∀ t ∈ f.tags, P t

structure ProgramClass.Conforms (c : ProgramClass) : Prop where
  name : c.name ≠ ""
  tags : ∀ t ∈ c.tags, P t
  fields : ∀ f ∈ c.fields, f.Conforms P
  methods : ∀ m ∈ c.methods, m.Conforms P

def Program.Conforms (p : Program) : Prop :=
  ∀ c ∈ p.classes, c.Conforms P

end

namespace Dump

/-! ## Readings that succeed -/

section

variable {loc : Location} {v : Value} {entries : Entries} {key : String}

theorem mappingAt_eq_ok (h : mappingAt loc v = .ok entries) : v.entries? = some entries := by
  unfold mappingAt at h
  cases hentries : v.entries? with
  | none => rw [hentries] at h; cases h
  | some es => rw [hentries] at h; cases h; rfl

theorem textAt_eq_ok {s : String} (h : textAt loc entries key = .ok s) :
    Value.lookup key entries = .text s ∧ s ≠ "" := by
  unfold textAt at h
  split at h
  · rename_i t ht
    split at h
    · cases h
    · rename_i hne
      cases h
      exact ⟨ht, hne⟩
  · cases h

theorem intAt_eq_ok {n : Int} (h : intAt loc entries key = .ok n) :
    Value.lookup key entries = .int n := by
  unfold intAt at h
  split at h
  · rename_i m hm
    cases h
    exact hm
  · cases h

/-- A tag is one of the four kinds, and its content stands in the mapping it is read from. -/
theorem tag_eq_ok {t : Tag} (h : tag loc v = .ok t) :
    ∃ entries, v.entries? = some entries ∧
      match t with
      | .sourceFile file => Value.lookup "source_file" entries = .text file ∧ file ≠ ""
      | .lineNumber line => Value.lookup "line" entries = .int line
      | .key red green blue label _ =>
        Value.lookup "red" entries = .int red ∧ Value.lookup "green" entries = .int green ∧
          Value.lookup "blue" entries = .int blue ∧
          Value.lookup "key" entries = .text label ∧ label ≠ ""
      | .text content _ => Value.lookup "text" entries = .text content ∧ content ≠ ""
      | .bare => False
      | .foreign _ => False := by
  obtain ⟨entries, hentries, h⟩ := Except.bind_eq_ok h
  obtain ⟨kind, -, h⟩ := Except.bind_eq_ok h
  obtain ⟨analysis, -, h⟩ := Except.bind_eq_ok h
  refine ⟨entries, mappingAt_eq_ok hentries, ?_⟩
  cases kind with
  | sourceFile =>
    obtain ⟨file, hfile, h⟩ := Except.bind_eq_ok h
    cases h
    exact textAt_eq_ok hfile
  | lineNumber =>
    obtain ⟨line, hline, h⟩ := Except.bind_eq_ok h
    cases h
    exact intAt_eq_ok hline
  | key =>
    obtain ⟨red, hred, h⟩ := Except.bind_eq_ok h
    obtain ⟨green, hgreen, h⟩ := Except.bind_eq_ok h
    obtain ⟨blue, hblue, h⟩ := Except.bind_eq_ok h
    obtain ⟨label, hlabel, h⟩ := Except.bind_eq_ok h
    cases h
    exact ⟨intAt_eq_ok hred, intAt_eq_ok hgreen, intAt_eq_ok hblue, textAt_eq_ok hlabel⟩
  | text =>
    obtain ⟨content, hcontent, h⟩ := Except.bind_eq_ok h
    cases h
    exact textAt_eq_ok hcontent

end

/-! ## What is read conforms -/

section

variable {Q : Value → Prop} (hQ : Value.Hereditary Q)
include hQ

theorem each_forall {α : Type} {R : α → Prop} {read : Location → Value → Except Error α}
    {loc : Location} {key : String} {v : Value} {as : List α}
    (hread : ∀ loc x a, Q x → read loc x = .ok a → R a) (hv : Q v)
    (h : each loc key v read = .ok as) : ∀ a ∈ as, R a := by
  obtain ⟨items, hitems, hmap⟩ := Except.bind_eq_ok h
  have hall : ∀ x ∈ items, Q x := by
    unfold listAt at hitems
    split at hitems
    · cases hitems
      exact nofun
    · cases hlist : v.items? with
      | none => rw [hlist] at hitems; cases hitems
      | some xs =>
        rw [hlist] at hitems
        cases hitems
        exact hQ.item hv hlist
  intro a ha
  obtain ⟨⟨x, i⟩, hmem, hx⟩ := Except.mem_of_mapM_eq_ok hmap a ha
  exact hread _ x a (hall x (List.fst_mem_of_mem_zipIdx hmem)) hx

variable {P : Tag → Prop} (hP : ∀ loc v t, Q v → tag loc v = .ok t → P t)
  {loc : Location} {v : Value}
include hP

theorem tags_forall {entries : Entries} {ts : List Tag} (hv : Q v)
    (hentries : v.entries? = some entries) (h : tags loc entries = .ok ts) : ∀ t ∈ ts, P t :=
  each_forall hQ hP (hQ.lookup hv hentries "tags") h

theorem operand_conforms (loc : Location) (v : Value) (o : Operand) (hv : Q v)
    (h : operand loc v = .ok o) : o.Conforms P := by
  obtain ⟨entries, hentries, h⟩ := Except.bind_eq_ok h
  obtain ⟨value, -, h⟩ := Except.bind_eq_ok h
  obtain ⟨ts, hts, h⟩ := Except.bind_eq_ok h
  cases h
  exact tags_forall hQ hP hv (mappingAt_eq_ok hentries) hts

theorem statement_conforms (loc : Location) (v : Value) (s : Statement) (hv : Q v)
    (h : statement loc v = .ok s) : s.Conforms P := by
  obtain ⟨entries, hentries, h⟩ := Except.bind_eq_ok h
  obtain ⟨operands, hoperands, h⟩ := Except.bind_eq_ok h
  obtain ⟨text, -, h⟩ := Except.bind_eq_ok h
  obtain ⟨ts, hts, h⟩ := Except.bind_eq_ok h
  cases h
  have hes := mappingAt_eq_ok hentries
  have hboxes := hQ.lookup hv hes "boxes"
  exact ⟨tags_forall hQ hP hv hes hts,
    each_forall hQ (operand_conforms hQ hP) hboxes hoperands⟩

theorem body_conforms {b : Body} (hv : Q v) (h : body loc v = .ok b) : b.Conforms P := by
  unfold body at h
  split at h
  · cases h
    exact True.intro
  · obtain ⟨entries, hentries, h⟩ := Except.bind_eq_ok h
    obtain ⟨statements, hstatements, h⟩ := Except.bind_eq_ok h
    cases h
    have hunits := hQ.lookup hv (mappingAt_eq_ok hentries) "units"
    exact each_forall hQ (statement_conforms hQ hP) hunits hstatements

theorem method_conforms (loc : Location) (v : Value) (m : Method) (hv : Q v)
    (h : method loc v = .ok m) : m.Conforms P := by
  obtain ⟨entries, hentries, h⟩ := Except.bind_eq_ok h
  obtain ⟨b, hbody, h⟩ := Except.bind_eq_ok h
  obtain ⟨name, hname, h⟩ := Except.bind_eq_ok h
  obtain ⟨ts, hts, h⟩ := Except.bind_eq_ok h
  cases h
  have hes := mappingAt_eq_ok hentries
  exact ⟨(textAt_eq_ok hname).2, tags_forall hQ hP hv hes hts,
    body_conforms hQ hP (hQ.lookup hv hes "body") hbody⟩

theorem field_conforms (loc : Location) (v : Value) (f : Field) (hv : Q v)
    (h : field loc v = .ok f) : f.Conforms P := by
  obtain ⟨entries, hentries, h⟩ := Except.bind_eq_ok h
  obtain ⟨name, hname, h⟩ := Except.bind_eq_ok h
  obtain ⟨ts, hts, h⟩ := Except.bind_eq_ok h
  cases h
  exact ⟨(textAt_eq_ok hname).2, tags_forall hQ hP hv (mappingAt_eq_ok hentries) hts⟩

theorem programClass_conforms (loc : Location) (v : Value) (c : ProgramClass) (hv : Q v)
    (h : programClass loc v = .ok c) : c.Conforms P := by
  obtain ⟨entries, hentries, h⟩ := Except.bind_eq_ok h
  obtain ⟨name, hname, h⟩ := Except.bind_eq_ok h
  obtain ⟨ts, hts, h⟩ := Except.bind_eq_ok h
  obtain ⟨fields, hfields, h⟩ := Except.bind_eq_ok h
  obtain ⟨methods, hmethods, h⟩ := Except.bind_eq_ok h
  cases h
  have hes := mappingAt_eq_ok hentries
  exact ⟨(textAt_eq_ok hname).2, tags_forall hQ hP hv hes hts,
    each_forall hQ (field_conforms hQ hP) (hQ.lookup hv hes "fields") hfields,
    each_forall hQ (method_conforms hQ hP) (hQ.lookup hv hes "methods") hmethods⟩

/-- A program that is read conforms to what holds of every tag that is read on the way. -/
theorem program_conforms {d : Value} {p : Program} (hd : Q d) (h : program d = .ok p) :
    p.Conforms P := by
  unfold program at h
  cases hentries : d.entries? with
  | none => rw [hentries] at h; cases h
  | some entries =>
    rw [hentries] at h
    obtain ⟨classes, hclasses, h⟩ := Except.bind_eq_ok h
    cases h
    exact each_forall hQ (programClass_conforms hQ hP) (hQ.lookup hd hentries "classes") hclasses

end

end Dump

end ProgramTags
