import ProgramTags.Proofs.Document.Whole

/-!
# What becomes of each tag

An attribute shows a tag as an entry or as a line. Which of the two is asked in two ways: the
entries go by the kind that a tag reports, the lines by what the tag is made of. `Tag.LacksLine` is
what falls between them, a tag that reports a line and has none: it is passed over without a fault,
where a tag that lacks other parts makes the entries fail. A tag that has a line and reports
something else is shown twice (`Attribute.accounts`). As a line marker a tag without a line also
takes the place of the statement's own line in the attributes of operands
(`Gather.tags_accounted`).
-/

namespace ProgramTags

namespace Tag

/-- The tag has a line, whatever it reports. -/
def HasLine (t : Tag) : Prop :=
  t.line?.isSome

/-- The tag reports a line and has none. -/
def LacksLine (t : Tag) : Prop :=
  t.kind = .lineNumber ∧ ¬t.HasLine

/-- The tag has a line and reports something else. -/
def HidesLine (t : Tag) : Prop :=
  t.kind ≠ .lineNumber ∧ t.HasLine

instance : DecidablePred HasLine :=
  fun t => inferInstanceAs (Decidable (t.line?.isSome = true))

instance : DecidablePred LacksLine :=
  fun t => inferInstanceAs (Decidable (t.kind = .lineNumber ∧ ¬t.HasLine))

instance : DecidablePred HidesLine :=
  fun t => inferInstanceAs (Decidable (t.kind ≠ .lineNumber ∧ t.HasLine))

/-- A tag is shown as an entry or as a line, unless it lacks the line that it reports or hides
one. -/
theorem shown_once (t : Tag) :
    (if decide (t.kind ≠ .lineNumber) then 1 else 0) + (if t.line?.isSome then 1 else 0) +
      (if decide t.LacksLine then 1 else 0) = 1 + (if decide t.HidesLine then 1 else 0) := by
  by_cases hkind : t.kind = .lineNumber <;> by_cases hline : t.line?.isSome = true <;>
    simp [LacksLine, HidesLine, HasLine, hkind, hline]

end Tag

/-! ## Entries and lines -/

/-- The entries and the lines leave out no tag, unless there are no entries because a tag lacks
parts. -/
def Attribute.IsComplete (a : Attribute) : Prop :=
  (∃ e, a.entries = .error e ∧ ∃ t ∈ a.tags, t.LacksParts ∧ t.entry = .error e) ∨
  ∃ es, a.entries = .ok es ∧ es.length + a.lines.length = a.tags.length

/-- What becomes of the tags of an attribute. -/
structure Attribute.Accounts (a : Attribute) : Prop where
  /-- The entries fail at the first tag that lacks parts. -/
  failing : ∀ e, a.entries = .error e → ∃ before t after, a.tags = before ++ t :: after ∧
    (∀ u ∈ before, ¬u.LacksParts) ∧ t.LacksParts ∧ t.entry = .error e
  /-- Otherwise a tag has an entry, has a line, or lacks the line that it reports, and only a tag
  that hides a line has both. -/
  counting : ∀ es, a.entries = .ok es →
    es.length + a.lines.length + a.tags.countP Tag.LacksLine =
      a.tags.length + a.tags.countP Tag.HidesLine
  complete : a.IsComplete ↔ (∃ t ∈ a.tags, t.LacksParts) ∨
    a.tags.countP Tag.LacksLine = a.tags.countP Tag.HidesLine

namespace Attribute

theorem entries_eq_error {ts : List Tag} {e : EntryError} (h : entries ⟨ts⟩ = .error e) :
    ∃ before t after, ts = before ++ t :: after ∧ (∀ u ∈ before, ¬u.LacksParts) ∧
      t.LacksParts ∧ t.entry = .error e := by
  obtain ⟨before, t, after, htext, hbefore, ht⟩ := Except.exists_first_of_mapM_eq_error h
  obtain ⟨start, rest, rfl, hstart, hrest⟩ := List.filter_eq_append_iff.mp htext
  obtain ⟨between, last, rfl, hbetween, hkind, -⟩ := List.filter_eq_cons_iff.mp hrest
  have hkind : t.kind ≠ .lineNumber := by simpa using hkind
  refine ⟨start ++ between, t, last, by simp, fun u hu hlacks => ?_,
    (Tag.entry_error_iff hkind).mp ⟨e, ht⟩, ht⟩
  rcases List.mem_append.mp hu with hu | hu
  · have hmem : u ∈ before := by
      rw [← hstart]
      exact List.mem_filter.mpr ⟨hu, by simpa using hlacks.kind_ne⟩
    obtain ⟨entry, hentry⟩ := hbefore u hmem
    obtain ⟨e', he'⟩ := (Tag.entry_error_iff hlacks.kind_ne).mpr hlacks
    rw [hentry] at he'
    cases he'
  · exact hlacks.kind_ne (by simpa using hbetween u hu)

/-- The tags fall into three sorts: those to be shown as text, those with a line, and those that
lack the line that they report. Those that hide a line are of the first two sorts. -/
theorem length_textTags_add (ts : List Tag) :
    (textTags ⟨ts⟩).length + (lines ⟨ts⟩).length + ts.countP Tag.LacksLine =
      ts.length + ts.countP Tag.HidesLine := by
  simp only [textTags, lines, ← List.countP_eq_length_filter, List.length_filterMap_eq_countP]
  induction ts with
  | nil => rfl
  | cons t ts ih =>
    have honce := t.shown_once
    rw [List.countP_cons, List.countP_cons, List.countP_cons, List.countP_cons, List.length_cons]
    omega

theorem length_entries_add {a : Attribute} {es : List TagEntry} (h : a.entries = .ok es) :
    es.length + a.lines.length + a.tags.countP Tag.LacksLine =
      a.tags.length + a.tags.countP Tag.HidesLine := by
  rw [Except.length_of_mapM_eq_ok h]
  exact length_textTags_add a.tags

theorem accounts (a : Attribute) : a.Accounts where
  failing _ := entries_eq_error
  counting _ := length_entries_add
  complete := by
    cases h : a.entries with
    | error e =>
      obtain ⟨before, t, after, htags, -, ht, hentry⟩ := entries_eq_error h
      have hmem : t ∈ a.tags := by simp [htags]
      exact iff_of_true (.inl ⟨e, h, t, hmem, ht, hentry⟩) (.inl ⟨t, hmem, ht⟩)
    | ok es =>
      have hparts : ¬∃ t ∈ a.tags, t.LacksParts := by
        rw [← entries_error_iff, h]
        exact nofun
      have hcount := length_entries_add h
      rw [or_iff_right hparts]
      constructor
      · rintro (⟨e, he, -⟩ | ⟨es', hes', hlength⟩)
        · rw [h] at he
          cases he
        · rw [h] at hes'
          cases hes'
          omega
      · intro heven
        exact .inr ⟨es, h, by omega⟩

end Attribute

/-! ## Lines that operands take over -/

/-- The last of the statement's tags that report a line is `t`. -/
def Statement.HandsOn (s : Statement) (t : Tag) : Prop :=
  t.kind = .lineNumber ∧
    ∃ before after, s.tags = before ++ t :: after ∧ ∀ u ∈ after, u.kind ≠ .lineNumber

theorem Statement.HandsOn.mem {s : Statement} {t : Tag} (h : s.HandsOn t) : t ∈ s.tags := by
  obtain ⟨-, before, after, htags, -⟩ := h
  simp [htags]

/-- What the attribute `a` of an operand `o` has of the lines of the statement `s`. -/
structure Operand.TakesLine (o : Operand) (s : Statement) (a : Attribute) : Prop where
  /-- A line that is handed on is in the attribute and in what it spans. -/
  handed : ∀ t n, s.HandsOn t → t.line? = some n → t ∈ s.tags ∧ t ∈ a.tags ∧
    a.lineSpan.1 ≤ n ∧ n ≤ a.lineSpan.2
  /-- A tag without a line that is handed on leaves the operand with its own lines. -/
  displaced : ∀ t, s.HandsOn t → t.LacksLine → a.lines = Attribute.lines ⟨o.tags⟩
  /-- A statement hands on a line or a tag that lacks it, or all lines that it has are hidden. -/
  marked : (∃ t, s.HandsOn t ∧ t.HasLine) ∨ (∃ t, s.HandsOn t ∧ t.LacksLine) ∨
    ∀ t ∈ s.tags, t.HasLine → t.HidesLine
  complete : (∃ t ∈ s.tags, t.HasLine ∧ t ∈ a.tags) ↔
    (∃ t, s.HandsOn t ∧ t.HasLine) ∨ ∃ t ∈ s.tags, t.HasLine ∧ t ∈ o.tags

theorem Statement.lineMarker?_eq_some_iff {s : Statement} {t : Tag} :
    s.lineMarker? = some t ↔ s.HandsOn t := by
  rw [lineMarker?, List.getLast?_eq_head?_reverse, ← List.filter_reverse, List.head?_filter,
    List.find?_eq_some_iff_append]
  simp only [decide_eq_true_eq, Bool.not_eq_true', decide_eq_false_iff_not]
  refine and_congr_right fun _ => ⟨?_, ?_⟩
  · rintro ⟨after, before, htags, hafter⟩
    refine ⟨before.reverse, after.reverse, ?_, by simpa using hafter⟩
    rw [← List.reverse_reverse s.tags, htags]
    simp
  · rintro ⟨before, after, htags, hafter⟩
    exact ⟨after.reverse, before.reverse, by simp [htags], by simpa using hafter⟩

namespace Attribute

open Gather (operandTags)

variable {marker : Option Tag} {ts : List Tag} {t : Tag}

theorem mem_operandTags (hts : ts ≠ []) :
    t ∈ operandTags marker ts ↔ t ∈ ts ∨ marker = some t := by
  obtain ⟨first, hfirst⟩ := List.exists_mem_of_ne_nil ts hts
  simp only [operandTags, List.mem_flatMap, List.mem_cons, Option.mem_toList]
  constructor
  · rintro ⟨u, hu, rfl | ht⟩
    · exact .inl hu
    · exact .inr ht
  · rintro (ht | ht)
    · exact ⟨t, ht, .inl rfl⟩
    · exact ⟨first, hfirst, .inr ht⟩

theorem lines_operandTags_of_line? (h : ∀ t ∈ marker, t.line? = none) :
    lines ⟨operandTags marker ts⟩ = lines ⟨ts⟩ := by
  have hmarker : marker.toList.filterMap Tag.line? = [] := by
    rw [List.filterMap_eq_nil_iff]
    exact fun t ht => h t (Option.mem_toList.mp ht)
  unfold lines operandTags
  induction ts with
  | nil => rfl
  | cons t ts ih =>
    rw [List.flatMap_cons, List.cons_append, List.filterMap_cons, List.filterMap_cons,
      List.filterMap_append, hmarker, List.nil_append, ih]

theorem span_covers {a : Attribute} {n : Int} (ht : t ∈ a.tags) (hline : t.line? = some n) :
    a.lineSpan.1 ≤ n ∧ n ≤ a.lineSpan.2 := by
  have hmem : n ∈ a.lines := List.mem_filterMap.mpr ⟨t, ht, hline⟩
  have hne := List.ne_nil_of_mem hmem
  exact ⟨(a.lines_spans.least hne).2 hmem, (a.lines_spans.greatest hne).2 hmem⟩

end Attribute

/-- The tags of an operand, each with the statement's last line marker after it, take the line that
the marker has. -/
theorem Operand.takesLine_operandTags {o : Operand} (s : Statement) (ho : o.tags ≠ []) :
    o.TakesLine s ⟨Gather.operandTags s.lineMarker? o.tags⟩ where
  handed t n hands hline := by
    have htaken := (Attribute.mem_operandTags ho).mpr
      (.inr (Statement.lineMarker?_eq_some_iff.mpr hands))
    exact ⟨hands.mem, htaken, Attribute.span_covers htaken hline⟩
  displaced t ht hlacks := by
    refine Attribute.lines_operandTags_of_line? fun u hu => ?_
    rw [Statement.lineMarker?_eq_some_iff.mpr ht] at hu
    cases hu
    simpa [Tag.HasLine] using hlacks.2
  marked := by
    by_cases hreported : ∃ u ∈ s.tags, u.kind = .lineNumber
    · obtain ⟨u, hu, hkind⟩ := hreported
      have hmem : u ∈ s.tags.filter (·.kind = .lineNumber) :=
        List.mem_filter.mpr ⟨hu, by simpa using hkind⟩
      obtain ⟨t, ht⟩ : ∃ t, s.lineMarker? = some t :=
        ⟨_, List.getLast?_eq_some_getLast (List.ne_nil_of_mem hmem)⟩
      have hands := Statement.lineMarker?_eq_some_iff.mp ht
      by_cases hline : t.HasLine
      · exact .inl ⟨t, hands, hline⟩
      · exact .inr (.inl ⟨t, hands, hands.1, hline⟩)
    · push Not at hreported
      exact .inr (.inr fun t ht hline => ⟨hreported t ht, hline⟩)
  complete := by
    simp only [Attribute.mem_operandTags ho, Statement.lineMarker?_eq_some_iff]
    constructor
    · rintro ⟨t, ht, hline, hown | hands⟩
      · exact .inr ⟨t, ht, hline, hown⟩
      · exact .inl ⟨t, hands, hline⟩
    · rintro (⟨t, hands, hline⟩ | ⟨t, ht, hline, hown⟩)
      · exact ⟨t, hands.mem, hline, .inr hands⟩
      · exact ⟨t, ht, hline, .inl hown⟩

namespace Gather

theorem run_bodyTags (statements : List Statement) (start : Collection) :
    (bodyTags statements).run start =
      .ok () { start with
        attributes := start.attributes ++ statements.flatMap Statement.attributes } := by
  rw [bodyTags_eq_appends, ← Collection.append_attributes]
  rfl

/-- Where the attribute of an operand with tags stands among those of a body. -/
theorem run_bodyTags_operand {s : Statement} {before after : List Operand} {o : Operand}
    (hs : s.operands = before ++ o :: after) (ho : o.tags ≠ [])
    (earlier later : List Statement) (start : Collection) : ∃ prior rest,
      (bodyTags (earlier ++ [{ s with operands := before }])).run start = .ok () prior ∧
      (bodyTags (earlier ++ s :: later)).run start = .ok () { prior with
        attributes := prior.attributes ++ ⟨operandTags s.lineMarker? o.tags⟩ :: rest } := by
  have hoperand : o.attributes s.lineMarker? = [⟨operandTags s.lineMarker? o.tags⟩] := by
    rw [Operand.attributes, if_neg ho]
    rfl
  refine ⟨_, after.flatMap (Operand.attributes s.lineMarker?) ++
    later.flatMap Statement.attributes, run_bodyTags _ _, ?_⟩
  rw [run_bodyTags, List.flatMap_append, List.flatMap_cons, Statement.attributes, hs,
    List.flatMap_append, List.flatMap_cons, hoperand]
  simp [Statement.attributes, Statement.lineMarker?]

/-- No tag is dropped silently, but for those that report a line and have none. In an attribute,
the entries fail at the first tag that lacks other parts, or every tag but those has an entry or a
line, and only a tag with a line that it does not report has both. In the attribute that is gathered
for an operand, there is a line of its statement if the last of the statement's tags that report a
line has it. -/
theorem tags_accounted (a : Attribute) : a.Accounts ∧
    ∀ (s : Statement) (before after : List Operand) (o : Operand),
      s.operands = before ++ o :: after → o.tags ≠ [] →
      ∃ b, o.TakesLine s b ∧
        ∀ (earlier later : List Statement) (start : Collection), ∃ prior rest,
          (bodyTags (earlier ++ [{ s with operands := before }])).run start = .ok () prior ∧
          (bodyTags (earlier ++ s :: later)).run start =
            .ok () { prior with attributes := prior.attributes ++ b :: rest } :=
  ⟨a.accounts, fun s _ _ _ hs ho =>
    ⟨_, Operand.takesLine_operandTags s ho, run_bodyTags_operand hs ho⟩⟩

/-- A tag that reports a line and has none is neither an entry nor a line, and it keeps the line of
its statement from an operand. -/
theorem tags_accounted_displaced :
    let mark : Tag := .foreign ⟨"Mark", .lineNumber, "Mark()", none⟩
    let a : Attribute := ⟨[.text "hot" "", mark]⟩
    let o : Operand := ⟨"x", [.text "def" ""]⟩
    let s : Statement := ⟨"x = 1", [.lineNumber 5, mark], [o]⟩
    a.entries = .ok [⟨"hot", ""⟩] ∧ a.lines = [] ∧ ¬a.IsComplete ∧
    ∃ b, (¬∃ t ∈ s.tags, t.HasLine ∧ t ∈ b.tags) ∧ b.lineSpan = (0, 0) ∧
      ∀ (earlier later : List Statement) (start : Collection), ∃ prior rest,
        (bodyTags (earlier ++ [{ s with operands := [] }])).run start = .ok () prior ∧
        (bodyTags (earlier ++ s :: later)).run start =
          .ok () { prior with attributes := prior.attributes ++ b :: rest } := by
  intro mark a o s
  have hentries : a.entries = .ok [⟨"hot", ""⟩] := rfl
  obtain ⟨haccounts, hoperands⟩ := tags_accounted a
  have hcomplete : ¬a.IsComplete := by
    have hlacks : a.tags.countP Tag.LacksLine ≠ a.tags.countP Tag.HidesLine := by decide
    rw [haccounts.complete, ← Attribute.entries_error_iff, hentries, or_iff_right (by simp)]
    exact hlacks
  obtain ⟨b, hb, hgathered⟩ := hoperands s [] [] o rfl (by decide)
  have hands : s.HandsOn mark := ⟨rfl, [.lineNumber 5], [], rfl, nofun⟩
  have hlines : b.lines = [] := hb.displaced _ hands (by decide)
  refine ⟨hentries, rfl, hcomplete, b, ?_, b.lines_spans.nothing hlines, hgathered⟩
  rintro ⟨t, -, hline, ht⟩
  obtain ⟨n, hn⟩ := Option.isSome_iff_exists.mp hline
  have hmem : n ∈ b.lines := List.mem_filterMap.mpr ⟨t, ht, hn⟩
  rw [hlines] at hmem
  cases hmem

end Gather

end ProgramTags
