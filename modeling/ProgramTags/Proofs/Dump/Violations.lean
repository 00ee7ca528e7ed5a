import ProgramTags.Dump
import ProgramTags.Proofs.Reports
import ProgramTags.Proofs.Value.Numbers

/-!
# The rules of the dump format

`violations v` lists every rule that `v` breaks as a dump, in the order in which its parts are
read: the body of a method before its name, the operands of a statement before its tags. Nothing
is looked for inside of a value that should be a mapping or a list and is not, and a tag whose kind
is unknown needs nothing else. Reading a program reports these violations (`program_reports`).
-/

namespace ProgramTags

/-- What a mapping needs under a key. -/
inductive Dump.Need where
  | text (key : String)
  | integer (key : String)
  deriving DecidableEq, Repr

open Dump (Need) in
def TagKind.needs : TagKind → List Need
  | .sourceFile => [.text "source_file"]
  | .lineNumber => [.integer "line"]
  | .key => [.integer "red", .integer "green", .integer "blue", .text "key"]
  | .text => [.text "text"]

namespace Value

def isFilledText : Value → Bool
  | .text s => s ≠ ""
  | _ => false

def isInteger : Value → Bool
  | .int _ => true
  | _ => false

def shown (v : Value) : String :=
  v.toText.toOption.getD ""

theorem toText_eq_shown {v : Value} (h : v.numbersFit = true) : v.toText = .ok v.shown := by
  obtain ⟨s, hs⟩ := toText_eq_ok h
  rw [shown, hs]
  rfl

end Value

namespace Dump

/-! ## Violations -/

def needViolations (loc : Location) (entries : Entries) : Need → List Error
  | .text key =>
    if (Value.lookup key entries).isFilledText then [] else [.broken loc (.noText key)]
  | .integer key =>
    if (Value.lookup key entries).isInteger then [] else [.broken loc (.noInteger key)]

def mappingViolations (loc : Location) (v : Value) (inside : Entries → List Error) : List Error :=
  match v.entries? with
  | some entries => inside entries
  | none => [.broken loc .notMapping]

/-- What is wrong with the list under the key, which may be missing or null. -/
def listViolations (loc : Location) (entries : Entries) (key : String)
    (item : Location → Value → List Error) : List Error :=
  let v := Value.lookup key entries
  let here := loc ++ [.key key]
  if v.isNull then []
  else match v.items? with
    | some items => items.zipIdx.flatMap fun (x, i) => item (here ++ [.index i]) x
    | none => [.broken here .notList]

def kind? (entries : Entries) : Option TagKind :=
  match Value.lookup? "kind" entries with
  | none => some .text
  | some (.text word) => TagKind.ofWord? word
  | some _ => none

def tagViolations (loc : Location) (v : Value) : List Error :=
  mappingViolations loc v fun entries =>
    match kind? entries with
    | some kind => kind.needs.flatMap (needViolations loc entries)
    | none => [.broken loc (.unknownKind (Value.lookup "kind" entries).shown)]

def operandViolations (loc : Location) (v : Value) : List Error :=
  mappingViolations loc v fun entries => listViolations loc entries "tags" tagViolations

def statementViolations (loc : Location) (v : Value) : List Error :=
  mappingViolations loc v fun entries =>
    listViolations loc entries "boxes" operandViolations ++
      listViolations loc entries "tags" tagViolations

/-- What is wrong with the body of a method, which may be missing or null. -/
def bodyViolations (loc : Location) (v : Value) : List Error :=
  if v.isNull then []
  else mappingViolations loc v fun entries =>
    listViolations loc entries "units" statementViolations

def methodViolations (loc : Location) (v : Value) : List Error :=
  mappingViolations loc v fun entries =>
    bodyViolations (loc ++ [.key "body"]) (Value.lookup "body" entries) ++
      (needViolations loc entries (.text "name") ++
        listViolations loc entries "tags" tagViolations)

def fieldViolations (loc : Location) (v : Value) : List Error :=
  mappingViolations loc v fun entries =>
    needViolations loc entries (.text "name") ++ listViolations loc entries "tags" tagViolations

def classViolations (loc : Location) (v : Value) : List Error :=
  mappingViolations loc v fun entries =>
    needViolations loc entries (.text "name") ++
      (listViolations loc entries "tags" tagViolations ++
        (listViolations loc entries "fields" fieldViolations ++
          listViolations loc entries "methods" methodViolations))

/-- Every rule of the format that the value breaks, in the order of reading. -/
def violations (v : Value) : List Error :=
  match v.entries? with
  | some entries => listViolations [] entries "classes" classViolations
  | none => [.noRoot]

/-! ## Reading reports violations -/

section

variable {loc : Location} {entries : Entries} {v : Value} {α : Type}

theorem mappingAt_reports {f : Entries → Except Error α} {inside : Entries → List Error}
    (h : ∀ entries, v.entries? = some entries → Reports (f entries) (inside entries)) :
    Reports (mappingAt loc v >>= f) (mappingViolations loc v inside) := by
  unfold mappingAt mappingViolations
  cases hentries : v.entries? with
  | none => exact .error _
  | some entries => exact h entries hentries

theorem textAt_reports (loc : Location) (entries : Entries) (key : String) :
    Reports (textAt loc entries key) (needViolations loc entries (.text key)) := by
  simp only [textAt, needViolations]
  cases Value.lookup key entries with
  | text s =>
    by_cases hs : s = ""
    · simp only [Value.isFilledText, hs]
      exact .error _
    · simp only [Value.isFilledText, hs, ne_eq, not_false_eq_true, decide_true, if_true, if_false]
      exact .ok s
  | _ => exact .error _

theorem intAt_reports (loc : Location) (entries : Entries) (key : String) :
    Reports (intAt loc entries key) (needViolations loc entries (.integer key)) := by
  simp only [intAt, needViolations]
  cases Value.lookup key entries with
  | int n => exact .ok n
  | _ => exact .error _

/-- What is shown can always be shown where integers have decimal texts. -/
theorem shownAt_eq_ok (hv : v.numbersFit = true) (hentries : v.entries? = some entries)
    (key : String) : ∃ s, shownAt entries key = .ok s := by
  unfold shownAt
  cases hkey : Value.lookup? key entries with
  | none => exact ⟨"", rfl⟩
  | some w =>
    have hw := Value.hereditary_numbersFit.lookup? hv hentries hkey
    obtain ⟨s, hs⟩ := Value.toText_eq_ok hw
    simp only [hs]
    exact ⟨s, rfl⟩

theorem each_reports (loc : Location) {read : Location → Value → Except Error α}
    {item : Location → Value → List Error} (hv : v.numbersFit = true)
    (hentries : v.entries? = some entries)
    (h : ∀ loc x, x.numbersFit = true → Reports (read loc x) (item loc x)) (key : String) :
    Reports (each loc key (Value.lookup key entries) read)
      (listViolations loc entries key item) := by
  have hlist := Value.hereditary_numbersFit.lookup hv hentries key
  unfold each listAt listViolations
  generalize Value.lookup key entries = w at hlist ⊢
  by_cases hnull : w.isNull
  · simp only [hnull, if_true]
    exact .ok []
  · simp only [hnull, Bool.false_eq_true, if_false]
    cases hitems : w.items? with
    | none => exact .error _
    | some items =>
      refine Reports.mapM ?_
      rintro ⟨x, i⟩ hmem
      have hx : x ∈ items := List.fst_mem_of_mem_zipIdx hmem
      exact h _ x (Value.hereditary_numbersFit.item hlist hitems x hx)

theorem kindAt_reports (loc : Location) (hv : v.numbersFit = true)
    (hentries : v.entries? = some entries) :
    match kind? entries with
    | some kind => kindAt loc entries = .ok kind
    | none => kindAt loc entries =
      .error (.broken loc (.unknownKind (Value.lookup "kind" entries).shown)) := by
  have hfit := Value.hereditary_numbersFit.lookup hv hentries "kind"
  unfold kind? kindAt
  unfold Value.lookup at hfit ⊢
  cases hkind : Value.lookup? "kind" entries with
  | none => exact rfl
  | some w =>
    rw [hkind] at hfit
    have hshown := Value.toText_eq_shown hfit
    simp only [Option.getD_some] at hshown ⊢
    cases w with
    | text word =>
      cases hword : TagKind.ofWord? word with
      | some kind => simp only [hword]
      | none => simp only [hword, hshown]; rfl
    | _ => simp only [hshown]; rfl

end

theorem tag_reports (loc : Location) (v : Value) (hv : v.numbersFit = true) :
    Reports (tag loc v) (tagViolations loc v) := by
  refine mappingAt_reports fun entries hentries => ?_
  have hkind := kindAt_reports loc hv hentries
  obtain ⟨analysis, hanalysis⟩ := shownAt_eq_ok hv hentries "analysis_type"
  cases hk : kind? entries with
  | none =>
    rw [hk] at hkind
    rw [hkind]
    exact .error _
  | some kind =>
    rw [hk] at hkind
    refine .of_ok_bind hkind (.of_ok_bind hanalysis ?_)
    cases kind with
    | sourceFile =>
      have hfile := textAt_reports loc entries "source_file"
      simpa [TagKind.needs] using hfile.bind_pure Tag.sourceFile
    | lineNumber =>
      have hline := intAt_reports loc entries "line"
      simpa [TagKind.needs] using hline.bind_pure Tag.lineNumber
    | key =>
      have hred := intAt_reports loc entries "red"
      have hgreen := intAt_reports loc entries "green"
      have hblue := intAt_reports loc entries "blue"
      have hlabel := textAt_reports loc entries "key"
      have hall := hred.bind fun red _ => hgreen.bind fun green _ => hblue.bind fun blue _ =>
        hlabel.bind_pure fun label => Tag.key red green blue label analysis
      simpa [TagKind.needs] using hall
    | text =>
      have htext := textAt_reports loc entries "text"
      simpa [TagKind.needs] using htext.bind_pure fun content => Tag.text content analysis

section

variable {loc : Location} {v : Value}

theorem tags_reports (loc : Location) {entries : Entries} (hv : v.numbersFit = true)
    (hentries : v.entries? = some entries) :
    Reports (tags loc entries) (listViolations loc entries "tags" tagViolations) :=
  each_reports loc hv hentries tag_reports "tags"

theorem operand_reports (loc : Location) (v : Value) (hv : v.numbersFit = true) :
    Reports (operand loc v) (operandViolations loc v) := by
  refine mappingAt_reports fun entries hentries => ?_
  obtain ⟨value, hvalue⟩ := shownAt_eq_ok hv hentries "value"
  have htags := tags_reports loc hv hentries
  exact .of_ok_bind hvalue (htags.bind_pure (Operand.mk value))

theorem statement_reports (loc : Location) (v : Value) (hv : v.numbersFit = true) :
    Reports (statement loc v) (statementViolations loc v) := by
  refine mappingAt_reports fun entries hentries => ?_
  have hoperands := each_reports loc hv hentries operand_reports "boxes"
  obtain ⟨text, htext⟩ := shownAt_eq_ok hv hentries "text"
  have htags := tags_reports loc hv hentries
  exact hoperands.bind fun operands _ =>
    .of_ok_bind htext (htags.bind_pure (Statement.mk text · operands))

theorem body_reports (loc : Location) (v : Value) (hv : v.numbersFit = true) :
    Reports (body loc v) (bodyViolations loc v) := by
  unfold body bodyViolations
  by_cases hnull : v.isNull
  · simp only [hnull, if_true]
    exact .ok _
  · simp only [hnull, Bool.false_eq_true, if_false]
    refine mappingAt_reports fun entries hentries => ?_
    have hstatements := each_reports loc hv hentries statement_reports "units"
    exact hstatements.bind_pure Body.active

theorem method_reports (loc : Location) (v : Value) (hv : v.numbersFit = true) :
    Reports (method loc v) (methodViolations loc v) := by
  refine mappingAt_reports fun entries hentries => ?_
  have hvalue := Value.hereditary_numbersFit.lookup hv hentries "body"
  have hbody := body_reports (loc ++ [.key "body"]) _ hvalue
  have hname := textAt_reports loc entries "name"
  have htags := tags_reports loc hv hentries
  exact hbody.bind fun body _ => hname.bind fun name _ =>
    htags.bind_pure (Method.mk name · body)

theorem field_reports (loc : Location) (v : Value) (hv : v.numbersFit = true) :
    Reports (field loc v) (fieldViolations loc v) := by
  refine mappingAt_reports fun entries hentries => ?_
  have hname := textAt_reports loc entries "name"
  have htags := tags_reports loc hv hentries
  exact hname.bind fun name _ => htags.bind_pure (Field.mk name)

theorem programClass_reports (loc : Location) (v : Value) (hv : v.numbersFit = true) :
    Reports (programClass loc v) (classViolations loc v) := by
  refine mappingAt_reports fun entries hentries => ?_
  have hname := textAt_reports loc entries "name"
  have htags := tags_reports loc hv hentries
  have hfields := each_reports loc hv hentries field_reports "fields"
  have hmethods := each_reports loc hv hentries method_reports "methods"
  exact hname.bind fun name _ => htags.bind fun tags _ => hfields.bind fun fields _ =>
    hmethods.bind_pure (ProgramClass.mk name tags fields)

/-- A program is read from a value that breaks no rule, and from any other the first violation is
told. -/
theorem program_reports (hv : v.numbersFit = true) : Reports (program v) (violations v) := by
  unfold program violations
  cases hentries : v.entries? with
  | none => exact .error _
  | some entries =>
    exact (each_reports [] hv hentries programClass_reports "classes").bind_pure Program.mk

end

end Dump

end ProgramTags
