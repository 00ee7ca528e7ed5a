import Mathlib.Order.Bounds.Basic
import ProgramTags.Proofs.Export.Loaded

/-!
# Lines that operands take over

In the attribute of an operand every tag is followed by the last line marker of the statement. That
changes where the operand is shown and nothing of what is shown: `Operand.IsShownBy o line? a` says
what `a` shows of `o` when `line?` is the line of the statement, and
`Gather.bodyTags_shows_operand` that the attribute gathered for an operand shows it so, whatever
the other statements of the body are.
-/

namespace ProgramTags

/-! ## Spans -/

/-- The span goes from the least of the lines to the greatest; it is zero where there are none. -/
structure Spans (lines : List Int) (span : Int × Int) : Prop where
  least : lines ≠ [] → IsLeast {n | n ∈ lines} span.1
  greatest : lines ≠ [] → IsGreatest {n | n ∈ lines} span.2
  nothing : lines = [] → span = (0, 0)

namespace Spans

variable {lines lines' : List Int} {span : Int × Int}

/-- A span depends on which lines there are, not on how often or in what order. -/
theorem of_mem_iff (h : Spans lines span) (hmem : ∀ n, n ∈ lines ↔ n ∈ lines') :
    Spans lines' span := by
  have hsame : {n | n ∈ lines} = {n | n ∈ lines'} := Set.ext hmem
  have hnil : lines = [] ↔ lines' = [] := by
    rw [List.eq_nil_iff_forall_not_mem, List.eq_nil_iff_forall_not_mem]
    exact forall_congr' fun n => not_congr (hmem n)
  refine ⟨fun hne => ?_, fun hne => ?_, fun hnone => h.nothing (hnil.mpr hnone)⟩
  · rw [← hsame]
    exact h.least fun hnone => hne (hnil.mp hnone)
  · rw [← hsame]
    exact h.greatest fun hnone => hne (hnil.mp hnone)

theorem eq_zero_iff (h : Spans lines span) : span = (0, 0) ↔ ∀ n ∈ lines, n = 0 := by
  by_cases hne : lines = []
  · subst hne
    exact iff_of_true (h.nothing rfl) nofun
  have hleast := h.least hne
  have hgreatest := h.greatest hne
  constructor
  · rintro rfl n hn
    exact Int.le_antisymm (hgreatest.2 hn) (hleast.2 hn)
  · intro hzero
    exact Prod.ext (hzero _ hleast.1) (hzero _ hgreatest.1)

end Spans

namespace Attribute

theorem lines_spans (a : Attribute) : Spans a.lines a.lineSpan where
  least hne := by
    obtain ⟨n, hn⟩ := Option.isSome_iff_exists.mp (List.isSome_min?_of_ne_nil hne)
    have hmin := List.min?_eq_some_iff.mp hn
    rw [lineSpan, hn]
    exact ⟨hmin.1, fun m hm => hmin.2 m hm⟩
  greatest hne := by
    obtain ⟨n, hn⟩ := Option.isSome_iff_exists.mp (List.isSome_max?_of_ne_nil hne)
    have hmax := List.max?_eq_some_iff.mp hn
    rw [lineSpan, hn]
    exact ⟨hmax.1, fun m hm => hmax.2 m hm⟩
  nothing hnone := by
    rw [lineSpan, hnone]
    rfl

end Attribute

/-! ## The line of a statement -/

def Statement.lastLine? (s : Statement) : Option Int :=
  (s.tags.filterMap Tag.line?).getLast?

theorem Tag.filter_kind_eq_lineNumber {ts : List Tag} (h : ∀ t ∈ ts, t.isLabelled = true) :
    ts.filter (·.kind = .lineNumber) = (ts.filterMap Tag.line?).map .lineNumber := by
  induction ts with
  | nil => rfl
  | cons t ts ih =>
    obtain ⟨ht, hts⟩ := List.forall_mem_cons.mp h
    cases t with
    | foreign tag => cases ht
    | lineNumber line => exact congrArg (Tag.lineNumber line :: ·) (ih hts)
    | _ => exact ih hts

/-- The marker that is passed on names the statement's last line. -/
theorem Statement.lineMarker?_eq {s : Statement} (h : ∀ t ∈ s.tags, t.isLabelled = true) :
    s.lineMarker? = s.lastLine?.map .lineNumber := by
  rw [lineMarker?, Tag.filter_kind_eq_lineNumber h, List.getLast?_map]
  rfl

/-! ## The tags of an operand with the line between them -/

namespace Attribute

open Gather (operandTags)

variable {marker : Option Tag}

theorem textTags_operandTags (h : ∀ t ∈ marker, t.kind = .lineNumber) (ts : List Tag) :
    textTags ⟨operandTags marker ts⟩ = textTags ⟨ts⟩ := by
  have hmarker : marker.toList.filter (·.kind ≠ .lineNumber) = [] := by
    rw [List.filter_eq_nil_iff]
    intro t ht
    simpa using h t (Option.mem_toList.mp ht)
  unfold textTags operandTags
  induction ts with
  | nil => rfl
  | cons t ts ih =>
    rw [List.flatMap_cons, List.cons_append, List.filter_cons, List.filter_cons,
      List.filter_append, hmarker, List.nil_append, ih]

theorem mem_lines_operandTags {ts : List Tag} (hts : ts ≠ []) (line? : Option Int) (n : Int) :
    n ∈ lines ⟨operandTags (line?.map .lineNumber) ts⟩ ↔ n ∈ lines ⟨ts⟩ ++ line?.toList := by
  obtain ⟨first, hfirst⟩ := List.exists_mem_of_ne_nil ts hts
  unfold lines operandTags
  cases line? with
  | none => simp
  | some line =>
    simp only [List.mem_filterMap, List.mem_flatMap, List.mem_append, List.mem_cons,
      Option.map_some, Option.toList_some, List.not_mem_nil, or_false]
    constructor
    · rintro ⟨t, ⟨u, hu, rfl | rfl⟩, ht⟩
      · exact .inl ⟨t, hu, ht⟩
      · exact .inr (Option.some.inj ht).symm
    · rintro (⟨t, ht, hline⟩ | rfl)
      · exact ⟨t, ⟨t, ht, .inl rfl⟩, hline⟩
      · exact ⟨_, ⟨first, hfirst, .inr rfl⟩, rfl⟩

theorem length_operandTags (marker : Option Tag) (ts : List Tag) :
    (operandTags marker ts).length = (if marker.isSome then 2 else 1) * ts.length := by
  unfold operandTags
  cases marker <;> simp [List.length_flatMap, Nat.mul_comm]

end Attribute

/-! ## Operands as they are shown -/

/-- The attribute shows the operand as its own tags would, but for the lines: `line?` is one of
them if there is one. -/
structure Operand.IsShownBy (o : Operand) (line? : Option Int) (a : Attribute) : Prop where
  entries : ∃ es, a.entries = .ok es ∧ Attribute.entries ⟨o.tags⟩ = .ok es
  span : Spans (Attribute.lines ⟨o.tags⟩ ++ line?.toList) a.lineSpan
  zero : a.lineSpan = (0, 0) ↔ ∀ n ∈ Attribute.lines ⟨o.tags⟩ ++ line?.toList, n = 0
  length : a.tags.length = (if line?.isSome then 2 else 1) * o.tags.length
  element : ∃ text, Document.attributeElement a = .ok text ∧
    (text ≠ "" ↔ ∃ t ∈ o.tags, t.kind ≠ .lineNumber)

namespace Document

theorem shownText_ne_empty (shown : ShownAttribute) : shownText shown ≠ "" := by
  intro h
  have hnil := congrArg String.toList h
  unfold shownText at hnil
  simp [String.append_assoc] at hnil

/-- An attribute has an element if one of its tags is no line marker. -/
theorem exists_attributeElement {a : Attribute} (ha : ∀ t ∈ a.tags, t.isLabelled = true)
    (hlines : ∀ n ∈ a.lines, Decimal.isTooLong n = false) :
    ∃ text, attributeElement a = .ok text ∧ (text ≠ "" ↔ a.textTags ≠ []) := by
  obtain ⟨es, hes, hlength⟩ := entries_eq_ok ha
  refine ⟨_, attributeElement_eq_ok ha hlines, ?_⟩
  cases es with
  | nil =>
    have hshown : shown? a = none := by rw [shown?, hes]
    have htags : a.textTags = [] := List.eq_nil_of_length_eq_zero hlength.symm
    rw [hshown, htags]
    exact iff_of_false (fun h => h rfl) fun h => h rfl
  | cons e es =>
    have hshown : shown? a = some ⟨a.lineSpan, e :: es⟩ := by rw [shown?, hes]
    have htags : a.textTags ≠ [] := by
      intro h
      rw [h] at hlength
      cases hlength
    rw [hshown]
    exact iff_of_true (shownText_ne_empty _) htags

end Document

/-- The tags of an operand, each with the line of the statement after it, show the operand. -/
theorem Operand.isShownBy_operandTags {o : Operand} {line? : Option Int} (hne : o.tags ≠ [])
    (ho : ∀ t ∈ o.tags, t.IsShowable) (hline : ∀ n ∈ line?, Decimal.isTooLong n = false) :
    o.IsShownBy line? ⟨Gather.operandTags (line?.map .lineNumber) o.tags⟩ := by
  have hmarker : ∀ t ∈ line?.map Tag.lineNumber, t.kind = .lineNumber := by
    intro t ht
    obtain ⟨n, -, rfl⟩ := Option.map_eq_some_iff.mp ht
    rfl
  have htext := Attribute.textTags_operandTags hmarker o.tags
  have hlines := Attribute.mem_lines_operandTags hne line?
  have hlabelled : ∀ t ∈ Gather.operandTags (line?.map .lineNumber) o.tags,
      t.isLabelled = true := by
    intro t ht
    obtain ⟨u, hu, ht⟩ := List.mem_flatMap.mp ht
    rcases List.mem_cons.mp ht with rfl | ht
    · exact (ho t hu).labelled
    · obtain ⟨n, -, rfl⟩ := Option.map_eq_some_iff.mp (Option.mem_toList.mp ht)
      rfl
  have hfit : ∀ n ∈ Attribute.lines ⟨Gather.operandTags (line?.map .lineNumber) o.tags⟩,
      Decimal.isTooLong n = false := by
    intro n hn
    rcases List.mem_append.mp ((hlines n).mp hn) with hn | hn
    · obtain ⟨t, ht, hn⟩ := List.mem_filterMap.mp hn
      exact (ho t ht).isTooLong_line? hn
    · exact hline n (Option.mem_toList.mp hn)
  obtain ⟨es, hes, -⟩ := Document.entries_eq_ok (a := ⟨o.tags⟩) fun t ht => (ho t ht).labelled
  obtain ⟨text, helement, hempty⟩ := Document.exists_attributeElement
    (a := ⟨Gather.operandTags (line?.map .lineNumber) o.tags⟩) hlabelled hfit
  have hspan := (Attribute.lines_spans _).of_mem_iff hlines
  refine ⟨⟨es, ?_, hes⟩, hspan, hspan.eq_zero_iff, ?_, text, helement, hempty.trans ?_⟩
  · unfold Attribute.entries at hes ⊢
    rw [htext, hes]
  · rw [Attribute.length_operandTags, Option.isSome_map]
  · rw [htext]
    simp [Attribute.textTags, List.filter_eq_nil_iff]

namespace Gather

/-- The attribute that is gathered for an operand with tags comes after all that is gathered before
it, and shows the operand with the last line of its statement. What it is does not depend on the
other statements. -/
theorem bodyTags_shows_operand {s : Statement} {before after : List Operand} {o : Operand}
    (hs : s.operands = before ++ o :: after) (ho : o.tags ≠ [])
    (hshowable : ∀ t ∈ s.tags ++ o.tags, t.IsShowable) :
    ∃ a, o.IsShownBy s.lastLine? a ∧
      ∀ (earlier later : List Statement) (start : Collection), ∃ prior rest,
        (bodyTags (earlier ++ [{ s with operands := before }])).run start = .ok () prior ∧
        (bodyTags (earlier ++ s :: later)).run start =
          .ok () { prior with attributes := prior.attributes ++ a :: rest } := by
  obtain ⟨hstags, hotags⟩ := List.forall_mem_append.mp hshowable
  have hmarker := Statement.lineMarker?_eq fun t ht => (hstags t ht).labelled
  have hline : ∀ n ∈ s.lastLine?, Decimal.isTooLong n = false := by
    intro n hn
    obtain ⟨t, ht, hn⟩ := List.mem_filterMap.mp (List.mem_of_getLast? hn)
    exact (hstags t ht).isTooLong_line? hn
  refine ⟨_, Operand.isShownBy_operandTags ho hotags hline, fun earlier later start => ?_⟩
  have hrun : ∀ statements, (bodyTags statements).run start =
      .ok () { start with
        attributes := start.attributes ++ statements.flatMap Statement.attributes } := by
    intro statements
    rw [bodyTags_eq_appends, ← Collection.append_attributes]
    rfl
  have hoperand : o.attributes s.lineMarker? =
      [⟨operandTags (s.lastLine?.map .lineNumber) o.tags⟩] := by
    rw [Operand.attributes, if_neg ho, hmarker]
    rfl
  refine ⟨_, after.flatMap (Operand.attributes s.lineMarker?) ++
    later.flatMap Statement.attributes, hrun _, ?_⟩
  rw [hrun, List.flatMap_append, List.flatMap_cons, Statement.attributes, hs, List.flatMap_append,
    List.flatMap_cons, hoperand]
  simp [Statement.attributes, Statement.lineMarker?]

/-- The last of two line markers is added to an operand with a line of its own. -/
theorem bodyTags_shows_operand_marked :
    let o : Operand := ⟨"x", [.text "def" "", .lineNumber 7, .key 255 0 (-1) "k" "a"]⟩
    let s : Statement := ⟨"x = y", [.lineNumber 4, .bare, .lineNumber (-9)], [⟨"y", []⟩, o]⟩
    (∀ t ∈ s.tags ++ o.tags, t.IsShowable) ∧
    ∃ a, o.IsShownBy (some (-9)) a ∧
      ∀ (earlier later : List Statement) (start : Collection), ∃ prior rest,
        (bodyTags (earlier ++ [{ s with operands := [⟨"y", []⟩] }])).run start = .ok () prior ∧
        (bodyTags (earlier ++ s :: later)).run start =
          .ok () { prior with attributes := prior.attributes ++ a :: rest } := by
  intro o s
  have hlabelled : ∀ t ∈ s.tags ++ o.tags, t.isLabelled = true := by decide
  have hnumbers : ∀ t ∈ s.tags ++ o.tags, ∀ n ∈ t.numbers, Decimal.isTooLong n = false := by
    decide +kernel
  have hshowable : ∀ t ∈ s.tags ++ o.tags, t.IsShowable := fun t ht =>
    ⟨hlabelled t ht, hnumbers t ht⟩
  have hs : s.operands = [⟨"y", []⟩] ++ o :: [] := rfl
  exact ⟨hshowable, bodyTags_shows_operand hs (by decide) hshowable⟩

/-- A line zero looks like no line: the operand has a line from its statement, and its span is the
one of an operand without lines. -/
theorem bodyTags_lineZero :
    let o : Operand := ⟨"x", [.text "def" ""]⟩
    let s : Statement := ⟨"x = 0", [.lineNumber 0], [o]⟩
    ∃ a, (bodyTags [s]).run {} = .ok () ⟨[⟨s.tags⟩, a], []⟩ ∧ s.lastLine? = some 0 ∧
      ¬(a.lineSpan = (0, 0) ↔ Attribute.lines ⟨o.tags⟩ = [] ∧ s.lastLine? = none) := by
  refine ⟨⟨[.text "def" "", .lineNumber 0]⟩, rfl, rfl, ?_⟩
  decide

end Gather

end ProgramTags
