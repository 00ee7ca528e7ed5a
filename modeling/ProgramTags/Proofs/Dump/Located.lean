import ProgramTags.Proofs.Dump.Violations

/-!
# Where violations are

`Location.follow? loc d` is the value that `loc` leads to in `d`, and `Location.ofMessage` reads a
location off the beginning of a message. `Located d e` says that the message of `e` begins with
the location of a value of `d` that breaks the rule `e` tells of. Every violation of a dump is
located, but for a root that is no mapping (`program_eq_first_violation`).
-/

namespace ProgramTags.Dump

/-! ## Following a location -/

def Step.follow? : Step → Value → Option Value
  | .key name, v => v.entries?.bind (Value.lookup? name)
  | .index i, v => v.items?.bind (·[i]?)

def Location.follow? (loc : Location) (d : Value) : Option Value :=
  loc.foldlM (fun v step => step.follow? v) d

section

variable {d v w : Value} {loc : Location} {entries : Entries} {items : List Value}

theorem follow?_append (step : Step) (h : Location.follow? loc d = some v) :
    Location.follow? (loc ++ [step]) d = step.follow? v := by
  unfold Location.follow? at h ⊢
  rw [List.foldlM_append, h]
  show (step.follow? v).bind some = _
  cases step.follow? v <;> rfl

theorem follow?_key {key : String} (h : Location.follow? loc d = some v)
    (hentries : v.entries? = some entries) (hkey : Value.lookup? key entries = some w) :
    Location.follow? (loc ++ [.key key]) d = some w := by
  rw [follow?_append _ h, Step.follow?, hentries]
  exact hkey

theorem follow?_index {i : Nat} (h : Location.follow? loc d = some v)
    (hitems : v.items? = some items) (hi : items[i]? = some w) :
    Location.follow? (loc ++ [.index i]) d = some w := by
  rw [follow?_append _ h, Step.follow?, hitems]
  exact hi

end

/-! ## Locations in messages -/

/-- What ends a piece of a location and begins the next. -/
def isMark (c : Char) : Bool :=
  c = '.' || c = '['

/-- The step that a piece of a location stands for; that of a position ends in a bracket. -/
def Step.ofPiece (piece : List Char) : Step :=
  if piece.getLast? = some ']' then .index (Nat.ofDigitChars 10 piece.dropLast 0)
  else .key (String.ofList piece)

/-- The location that the message begins with, which goes as far as the first colon. -/
def Location.ofMessage (message : String) : Location :=
  ((message.toList.takeWhile (· ≠ ':')).splitOnP isMark).map Step.ofPiece

/-- The step is a position or a key of letters alone. -/
def Step.isPlain : Step → Bool
  | .key name => name.toList.all Char.isAlpha
  | .index _ => true

/-- The location begins with a key, and its keys are letters alone. -/
def Location.IsReadable (loc : Location) : Prop :=
  (∃ name rest, loc = .key name :: rest) ∧ ∀ step ∈ loc, step.isPlain = true

theorem isReadable_key {name : String} (h : (Step.key name).isPlain = true) :
    Location.IsReadable [.key name] :=
  ⟨⟨name, [], rfl⟩, by simpa using h⟩

theorem Location.IsReadable.append {loc : Location} {step : Step} (h : loc.IsReadable)
    (hstep : step.isPlain = true) : Location.IsReadable (loc ++ [step]) := by
  obtain ⟨⟨name, rest, rfl⟩, hplain⟩ := h
  refine ⟨⟨name, rest ++ [step], rfl⟩, fun s hs => ?_⟩
  rcases List.mem_append.mp hs with hs | hs
  · exact hplain s hs
  · rwa [List.mem_singleton.mp hs]

/-- The step without the mark that it begins with. -/
def Step.piece : Step → List Char
  | .key name => name.toList
  | .index i => Nat.toDigits 10 i ++ [']']

theorem Step.toList_text (step : Step) :
    ∃ mark, isMark mark = true ∧ step.text.toList = mark :: step.piece := by
  cases step with
  | key name => exact ⟨'.', rfl, by simp [text, piece]⟩
  | index i => exact ⟨'[', rfl, by simp [text, piece, toString, Nat.toList_repr]⟩

theorem Step.of_mem_piece {step : Step} (h : step.isPlain = true) {c : Char}
    (hc : c ∈ step.piece) : c.isAlpha = true ∨ c.isDigit = true ∨ c = ']' := by
  cases step with
  | key name => exact .inl (List.all_eq_true.mp h c hc)
  | index i =>
    rcases List.mem_append.mp hc with hc | hc
    · exact .inr (.inl (Nat.isDigit_of_mem_toDigits (by decide) (by decide) hc))
    · exact .inr (.inr (List.mem_singleton.mp hc))

theorem Step.not_isMark_of_mem_piece {step : Step} (h : step.isPlain = true) :
    ∀ c ∈ step.piece, isMark c = false := by
  intro c hc
  cases hmark : isMark c with
  | false => rfl
  | true =>
    have hcases : c = '.' ∨ c = '[' := by simpa [isMark] using hmark
    rcases hcases with rfl | rfl <;> exact absurd (of_mem_piece h hc) (by decide)

theorem Step.colon_not_mem_piece {step : Step} (h : step.isPlain = true) : ':' ∉ step.piece :=
  fun hc => absurd (of_mem_piece h hc) (by decide)

theorem Step.ofPiece_piece {step : Step} (h : step.isPlain = true) :
    ofPiece step.piece = step := by
  cases step with
  | key name =>
    have hlast : name.toList.getLast? ≠ some ']' := by
      intro hlast
      have hmem := List.mem_of_getLast? hlast
      exact absurd (List.all_eq_true.mp h _ hmem) (by decide)
    rw [piece, ofPiece, if_neg hlast, String.ofList_toList]
  | index i =>
    rw [piece, ofPiece, if_pos (List.getLast?_concat ..), List.dropLast_concat,
      Nat.ofDigitChars_ten_toDigits]

/-- The pieces of a text of steps, the first of which may have been begun. -/
theorem splitOnP_steps {piece : List Char} (hpiece : ∀ c ∈ piece, isMark c = false)
    {steps : List Step} (hsteps : ∀ step ∈ steps, step.isPlain = true) :
    (piece ++ steps.flatMap fun step => step.text.toList).splitOnP isMark =
      piece :: steps.map Step.piece := by
  induction steps generalizing piece with
  | nil =>
    rw [List.flatMap_nil, List.append_nil]
    exact List.splitOnP_eq_singleton hpiece
  | cons step rest ih =>
    have hstep := hsteps step List.mem_cons_self
    have hrest := ih (Step.not_isMark_of_mem_piece hstep) fun s hs =>
      hsteps s (List.mem_cons_of_mem step hs)
    obtain ⟨mark, hmark, htext⟩ := step.toList_text
    rw [List.flatMap_cons, htext, List.cons_append, List.splitOnP_append_cons _ _ hmark,
      List.splitOnP_eq_singleton hpiece, hrest]
    rfl

/-- A location can be read off the message of what is broken there. -/
theorem ofMessage_message {loc : Location} (h : loc.IsReadable) (rule : Violation) :
    Location.ofMessage (Error.broken loc rule).message = loc := by
  obtain ⟨⟨name, rest, rfl⟩, hplain⟩ := h
  have hname := hplain (.key name) List.mem_cons_self
  have hrest : ∀ step ∈ rest, step.isPlain = true := fun s hs =>
    hplain s (List.mem_cons_of_mem _ hs)
  let text := (Step.key name).piece ++ rest.flatMap fun step => step.text.toList
  have htext : (Location.text (.key name :: rest)).toList = text := by
    simp [Location.text, String.toList_join, List.flatMap_map, text, Step.piece]
  have hmessage : (Error.broken (.key name :: rest) rule).message.toList =
      text ++ ':' :: ' ' :: rule.message.toList := by
    rw [← htext]
    simp [Error.message, toString]
  have hcolon : ∀ c ∈ text, decide (c ≠ ':') = true := by
    intro c hc
    rw [decide_eq_true_eq]
    rintro rfl
    rcases List.mem_append.mp hc with hc | hc
    · exact Step.colon_not_mem_piece hname hc
    · obtain ⟨step, hstep, hc⟩ := List.mem_flatMap.mp hc
      obtain ⟨mark, hmark, htext⟩ := step.toList_text
      rw [htext] at hc
      rcases List.mem_cons.mp hc with rfl | hc
      · exact absurd hmark (by decide)
      · exact Step.colon_not_mem_piece (hrest step hstep) hc
  have htake : (text ++ ':' :: ' ' :: rule.message.toList).takeWhile (· ≠ ':') = text := by
    rw [List.takeWhile_append_of_pos hcolon, List.takeWhile_cons_of_neg (by decide),
      List.append_nil]
  have hpieces : (rest.map Step.piece).map Step.ofPiece = rest := by
    rw [List.map_map]
    have hsame := List.map_congr_left fun step hstep => Step.ofPiece_piece (hrest step hstep)
    exact hsame.trans (List.map_id' rest)
  rw [Location.ofMessage, hmessage, htake,
    splitOnP_steps (Step.not_isMark_of_mem_piece hname) hrest, List.map_cons, hpieces]
  exact congrArg (· :: rest) (Step.ofPiece_piece hname)

/-! ## Located violations -/

def Violation.IsIn (v : Value) : Violation → Prop
  | .notMapping => v.entries? = none
  | .notList => v.isNull = false ∧ v.items? = none
  | .noText key => ∃ entries, v.entries? = some entries ∧
    ∀ s, Value.lookup? key entries = some (.text s) → s = ""
  | .noInteger key => ∃ entries, v.entries? = some entries ∧
    ∀ n, Value.lookup? key entries ≠ some (.int n)
  | .unknownKind shown => ∃ entries w, v.entries? = some entries ∧
    Value.lookup? "kind" entries = some w ∧ w.toText = .ok shown ∧
    ∀ kind : TagKind, w ≠ .text kind.word

/-- The message begins with the location of a value of `d` that breaks the rule it tells of. -/
def Located (d : Value) (e : Error) : Prop :=
  ∃ loc rule v, e = .broken loc rule ∧ Location.ofMessage e.message = loc ∧
    loc.follow? d = some v ∧ rule.IsIn v

section

variable {d v : Value} {loc : Location} {entries : Entries}

theorem located_broken {rule : Violation} (hloc : loc.IsReadable) (h : loc.follow? d = some v)
    (hrule : rule.IsIn v) : Located d (.broken loc rule) :=
  ⟨loc, rule, v, rfl, ofMessage_message hloc rule, h, hrule⟩

theorem needViolations_located (hloc : loc.IsReadable) (h : loc.follow? d = some v)
    (hentries : v.entries? = some entries) (need : Need) :
    ∀ e ∈ needViolations loc entries need, Located d e := by
  intro e he
  cases need with
  | text key =>
    simp only [needViolations] at he
    split at he
    · cases he
    · rename_i hneed
      rw [List.mem_singleton.mp he]
      refine located_broken hloc h ⟨entries, hentries, fun s hs => ?_⟩
      simpa [Value.lookup, hs, Value.isFilledText] using hneed
  | integer key =>
    simp only [needViolations] at he
    split at he
    · cases he
    · rename_i hneed
      rw [List.mem_singleton.mp he]
      refine located_broken hloc h ⟨entries, hentries, fun n hn => ?_⟩
      simp [Value.lookup, hn, Value.isInteger] at hneed

theorem mappingViolations_located {inside : Entries → List Error} (hloc : loc.IsReadable)
    (h : loc.follow? d = some v)
    (hinside : ∀ entries, v.entries? = some entries → ∀ e ∈ inside entries, Located d e) :
    ∀ e ∈ mappingViolations loc v inside, Located d e := by
  intro e he
  unfold mappingViolations at he
  cases hentries : v.entries? with
  | some entries =>
    rw [hentries] at he
    exact hinside entries hentries e he
  | none =>
    rw [hentries] at he
    rw [List.mem_singleton.mp he]
    exact located_broken hloc h hentries

theorem lookup?_of_not_isNull {key : String} (h : (Value.lookup key entries).isNull = false) :
    Value.lookup? key entries = some (Value.lookup key entries) := by
  unfold Value.lookup at h ⊢
  cases hkey : Value.lookup? key entries with
  | some w => rfl
  | none =>
    rw [hkey] at h
    cases h

/-- The violations of a list are located if those of its items are. -/
theorem listViolations_located {item : Location → Value → List Error} (key : String)
    (hloc : Location.IsReadable (loc ++ [.key key])) (h : loc.follow? d = some v)
    (hv : v.numbersFit = true) (hentries : v.entries? = some entries)
    (hitem : ∀ loc x, loc.IsReadable → loc.follow? d = some x → x.numbersFit = true →
      ∀ e ∈ item loc x, Located d e) :
    ∀ e ∈ listViolations loc entries key item, Located d e := by
  intro e he
  unfold listViolations at he
  have hlist := Value.hereditary_numbersFit.lookup hv hentries key
  cases hnull : (Value.lookup key entries).isNull with
  | true =>
    simp only [hnull, if_true] at he
    cases he
  | false =>
    have hhere := follow?_key h hentries (lookup?_of_not_isNull hnull)
    simp only [hnull, Bool.false_eq_true, if_false] at he
    cases hitems : (Value.lookup key entries).items? with
    | none =>
      rw [hitems] at he
      rw [List.mem_singleton.mp he]
      exact located_broken hloc hhere ⟨hnull, hitems⟩
    | some items =>
      rw [hitems] at he
      obtain ⟨⟨x, i⟩, hmem, he⟩ := List.mem_flatMap.mp he
      have hi : items[i]? = some x := List.mk_mem_zipIdx_iff_getElem?.mp hmem
      have hx := Value.hereditary_numbersFit.item hlist hitems x (List.mem_of_getElem? hi)
      exact hitem _ x (hloc.append rfl) (follow?_index hhere hitems hi) hx e he

theorem tagViolations_located (loc : Location) (v : Value) (hloc : loc.IsReadable)
    (h : loc.follow? d = some v) (hv : v.numbersFit = true) :
    ∀ e ∈ tagViolations loc v, Located d e := by
  refine mappingViolations_located hloc h fun entries hentries e he => ?_
  cases hkind : kind? entries with
  | some kind =>
    rw [hkind] at he
    obtain ⟨need, -, he⟩ := List.mem_flatMap.mp he
    exact needViolations_located hloc h hentries need e he
  | none =>
    rw [hkind] at he
    rw [List.mem_singleton.mp he]
    unfold kind? at hkind
    cases hw : Value.lookup? "kind" entries with
    | none =>
      rw [hw] at hkind
      cases hkind
    | some w =>
      have hshown := Value.toText_eq_shown (Value.hereditary_numbersFit.lookup? hv hentries hw)
      have hlookup : Value.lookup "kind" entries = w := by rw [Value.lookup, hw]; rfl
      rw [hlookup]
      refine located_broken hloc h ⟨entries, w, hentries, hw, hshown, fun kind hword => ?_⟩
      rw [hw, hword] at hkind
      cases kind <;> cases hkind

/-- The tags of any element are located. -/
theorem tags_located (hloc : loc.IsReadable) (h : loc.follow? d = some v)
    (hv : v.numbersFit = true) (hentries : v.entries? = some entries) :
    ∀ e ∈ listViolations loc entries "tags" tagViolations, Located d e :=
  listViolations_located "tags" (hloc.append rfl) h hv hentries tagViolations_located

theorem operandViolations_located (loc : Location) (v : Value) (hloc : loc.IsReadable)
    (h : loc.follow? d = some v) (hv : v.numbersFit = true) :
    ∀ e ∈ operandViolations loc v, Located d e :=
  mappingViolations_located hloc h fun _ hentries => tags_located hloc h hv hentries

theorem statementViolations_located (loc : Location) (v : Value) (hloc : loc.IsReadable)
    (h : loc.follow? d = some v) (hv : v.numbersFit = true) :
    ∀ e ∈ statementViolations loc v, Located d e := by
  refine mappingViolations_located hloc h fun entries hentries => ?_
  have hoperands := listViolations_located "boxes" (hloc.append rfl) h hv hentries
    operandViolations_located
  exact List.forall_mem_append.mpr ⟨hoperands, tags_located hloc h hv hentries⟩

theorem bodyViolations_located (hloc : loc.IsReadable) (h : loc.follow? d = some v)
    (hv : v.numbersFit = true) : ∀ e ∈ bodyViolations loc v, Located d e := by
  unfold bodyViolations
  split
  · exact nofun
  · exact mappingViolations_located hloc h fun entries hentries =>
      listViolations_located "units" (hloc.append rfl) h hv hentries statementViolations_located

theorem methodViolations_located (loc : Location) (v : Value) (hloc : loc.IsReadable)
    (h : loc.follow? d = some v) (hv : v.numbersFit = true) :
    ∀ e ∈ methodViolations loc v, Located d e := by
  refine mappingViolations_located hloc h fun entries hentries => ?_
  have hname := needViolations_located hloc h hentries (.text "name")
  have htags := tags_located hloc h hv hentries
  refine List.forall_mem_append.mpr ⟨?_, List.forall_mem_append.mpr ⟨hname, htags⟩⟩
  -- A body that is missing has no location, and nothing is wrong with it.
  cases hnull : (Value.lookup "body" entries).isNull with
  | true =>
    unfold bodyViolations
    rw [hnull]
    exact nofun
  | false =>
    have hbody := follow?_key h hentries (lookup?_of_not_isNull hnull)
    exact bodyViolations_located (hloc.append rfl) hbody
      (Value.hereditary_numbersFit.lookup hv hentries "body")

theorem fieldViolations_located (loc : Location) (v : Value) (hloc : loc.IsReadable)
    (h : loc.follow? d = some v) (hv : v.numbersFit = true) :
    ∀ e ∈ fieldViolations loc v, Located d e := by
  refine mappingViolations_located hloc h fun entries hentries => ?_
  have hname := needViolations_located hloc h hentries (.text "name")
  exact List.forall_mem_append.mpr ⟨hname, tags_located hloc h hv hentries⟩

theorem classViolations_located (loc : Location) (v : Value) (hloc : loc.IsReadable)
    (h : loc.follow? d = some v) (hv : v.numbersFit = true) :
    ∀ e ∈ classViolations loc v, Located d e := by
  refine mappingViolations_located hloc h fun entries hentries => ?_
  have hname := needViolations_located hloc h hentries (.text "name")
  have htags := tags_located hloc h hv hentries
  have hfields := listViolations_located "fields" (hloc.append rfl) h hv hentries
    fieldViolations_located
  have hmethods := listViolations_located "methods" (hloc.append rfl) h hv hentries
    methodViolations_located
  simp only [List.forall_mem_append]
  exact ⟨hname, htags, hfields, hmethods⟩

end

/-- A violation of a dump is located, unless its root is no mapping. -/
theorem violations_located {d : Value} (hd : d.numbersFit = true) :
    ∀ e ∈ violations d, (e = .noRoot ∧ d.entries? = none) ∨ Located d e := by
  intro e he
  unfold violations at he
  cases hentries : d.entries? with
  | none =>
    rw [hentries] at he
    exact .inl ⟨List.mem_singleton.mp he, rfl⟩
  | some entries =>
    rw [hentries] at he
    have hkey : Location.IsReadable ([] ++ [.key "classes"]) := isReadable_key rfl
    have hroot : Location.follow? [] d = some d := rfl
    have hclasses :=
      listViolations_located "classes" hkey hroot hd hentries classViolations_located
    exact .inr (hclasses e he)

/-- A program is read exactly from a value that breaks no rule. From any other the first violation
is told, and every violation but that of the root is at the place that its message begins with. -/
theorem program_eq_first_violation {d : Value} (hd : d.numbersFit = true) :
    ((∃ p, program d = .ok p) ↔ violations d = []) ∧
      (∀ e rest, violations d = e :: rest → program d = .error e) ∧
      ∀ e ∈ violations d, (e = .noRoot ∧ d.entries? = none) ∨ Located d e := by
  have hreports := program_reports hd
  refine ⟨hreports.exists_ok_iff, fun e rest he => ?_, violations_located hd⟩
  rw [he] at hreports
  exact hreports.eq_error

/-- A dump that breaks rules at every depth. -/
def brokenDump : Value :=
  let tag := Value.mapping [(.text "kind", .list [.int 1])]
  let line := Value.mapping [(.text "kind", .text "line_number"), (.text "line", .bool true)]
  let statement := Value.mapping
    [(.text "tags", .list [tag, line]), (.text "boxes", .list [.null])]
  let method := Value.mapping [(.text "body", .mapping [(.text "units", .list [statement])])]
  .mapping [(.text "classes", .list
    [.mapping [(.text "methods", .list [method]), (.text "fields", .text "x"),
      (.text "name", .text "")], .null])]

theorem program_eq_first_violation_brokenDump :
    brokenDump.numbersFit = true ∧
      (violations brokenDump).map Error.message =
        ["classes[0]: 'name' must be a non-empty string",
          "classes[0].fields: expected a list",
          "classes[0].methods[0].body.units[0].boxes[0]: expected a mapping",
          "classes[0].methods[0].body.units[0].tags[0]: unknown tag kind '[1]' " ++
            "(expected one of: source_file, line_number, key, text)",
          "classes[0].methods[0].body.units[0].tags[1]: 'line' must be an integer",
          "classes[0].methods[0]: 'name' must be a non-empty string",
          "classes[1]: expected a mapping"] ∧
      program brokenDump = .error (.broken [.key "classes", .index 0] (.noText "name")) ∧
      ∀ e ∈ violations brokenDump, Located brokenDump e := by
  have hfit : brokenDump.numbersFit = true := by decide +kernel
  obtain ⟨-, hfirst, hlocated⟩ := program_eq_first_violation hfit
  refine ⟨hfit, by decide +kernel, hfirst _ _ rfl, fun e he => ?_⟩
  rcases hlocated e he with ⟨-, hroot⟩ | h
  · cases hroot
  · exact h

end ProgramTags.Dump
