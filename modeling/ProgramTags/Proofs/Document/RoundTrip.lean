import ProgramTags.Proofs.Document.Reader
import ProgramTags.Proofs.Document.Writing
import ProgramTags.Proofs.Reports

/-!
# Documents can be read back

A collection is plain if none of its tags is foreign and its numbers have decimal texts. The
document of a plain collection tells what is to be seen of it: `Document.read?_render` reads the
lines and entries of every attribute that has something to show, and every key, back from the
text, whatever characters the tags hold.
-/

namespace ProgramTags

/-- The tag is of a class that is known, and has what it reports. -/
def Tag.isLabelled : Tag → Bool
  | .foreign _ => false
  | _ => true

/-- The tags are what they report, and the numbers that are shown have decimal texts. -/
structure Collection.IsPlain (c : Collection) : Prop where
  tags : ∀ a ∈ c.attributes, ∀ t ∈ a.tags, t.isLabelled = true
  lines : ∀ a ∈ c.attributes, ∀ n ∈ a.lines, Decimal.isTooLong n = false
  colours : ∀ k ∈ c.keys, ∀ n ∈ [k.red, k.green, k.blue], Decimal.isTooLong n = false

/-- What is to be seen of the attributes: for each one that has a tag other than line markers, the
lines it spans and its entries. -/
def Collection.displayed (c : Collection) :
    List ((Int × Int) × Except EntryError (List TagEntry)) :=
  (c.attributes.filter (·.textTags ≠ [])).map fun a => (a.lineSpan, a.entries)

namespace Document

/-! ## Attributes -/

theorem entry_of_isLabelled {t : Tag} (h : t.isLabelled = true) (hkind : t.kind ≠ .lineNumber) :
    ∃ e, t.entry = .ok e := by
  cases t with
  | lineNumber n => exact absurd rfl hkind
  | foreign tag => cases h
  | _ => exact ⟨_, rfl⟩

theorem entries_eq_ok {a : Attribute} (h : ∀ t ∈ a.tags, t.isLabelled = true) :
    ∃ es, a.entries = .ok es ∧ es.length = a.textTags.length := by
  have hentry : ∀ t ∈ a.textTags, ∃ e, t.entry = .ok e ∧ True := by
    intro t ht
    obtain ⟨hmem, hkind⟩ := List.mem_filter.1 ht
    obtain ⟨e, he⟩ := entry_of_isLabelled (h t hmem) (by simpa using hkind)
    exact ⟨e, he, trivial⟩
  obtain ⟨es, hes, hall⟩ := Except.exists_mapM_eq_ok hentry
  exact ⟨es, hes, hall.length_eq.symm⟩

def shown? (a : Attribute) : Option ShownAttribute :=
  match a.entries with
  | .ok (e :: es) => some ⟨a.lineSpan, e :: es⟩
  | _ => none

def shownText (s : ShownAttribute) : String :=
  "<attribute>\n<jmpPos sline=\"" ++ toString s.span.1 ++ "\" eline=\"" ++ toString s.span.2 ++
    "\"/>\n" ++ String.join (s.entries.map entryElement) ++ "</attribute>\n"

def keyText (k : Key) : String :=
  "<key red=\"" ++ toString k.red ++ "\" green=\"" ++ toString k.green ++ "\" blue=\"" ++
    toString k.blue ++ "\" key=\"" ++ escape k.key ++ "\" aType=\"" ++ escape k.analysis ++ "\"/>\n"

theorem number_eq_ok {n : Int} (h : Decimal.isTooLong n = false) :
    number n = .ok (toString n) := by
  simp [number, Decimal.text, h]

theorem isTooLong_zero : Decimal.isTooLong 0 = false := by
  unfold Decimal.isTooLong
  generalize Decimal.digitLimit = limit
  exact decide_eq_false (Nat.not_le.2 (Nat.pow_pos (by decide)))

theorem isTooLong_lineSpan {a : Attribute} (h : ∀ n ∈ a.lines, Decimal.isTooLong n = false) :
    Decimal.isTooLong a.lineSpan.1 = false ∧ Decimal.isTooLong a.lineSpan.2 = false := by
  constructor
  · show Decimal.isTooLong (a.lines.min?.getD 0) = false
    cases hmin : a.lines.min? with
    | none => exact isTooLong_zero
    | some n => exact h n (List.min?_mem hmin)
  · show Decimal.isTooLong (a.lines.max?.getD 0) = false
    cases hmax : a.lines.max? with
    | none => exact isTooLong_zero
    | some n => exact h n (List.max?_mem hmax)

theorem attributeElement_eq_ok {a : Attribute} (ht : ∀ t ∈ a.tags, t.isLabelled = true)
    (hn : ∀ n ∈ a.lines, Decimal.isTooLong n = false) :
    attributeElement a = .ok ((shown? a).elim "" shownText) := by
  obtain ⟨es, hes, -⟩ := entries_eq_ok ht
  obtain ⟨hfirst, hlast⟩ := isTooLong_lineSpan hn
  unfold attributeElement shown?
  rw [hes]
  cases es with
  | nil => rfl
  | cons e es =>
    rw [number_eq_ok hfirst, number_eq_ok hlast]
    rfl

theorem keyElement_eq_ok {k : Key}
    (h : ∀ n ∈ [k.red, k.green, k.blue], Decimal.isTooLong n = false) :
    keyElement k = .ok (keyText k) := by
  have hred := number_eq_ok (h k.red (by simp))
  have hgreen := number_eq_ok (h k.green (by simp))
  have hblue := number_eq_ok (h k.blue (by simp))
  unfold keyElement
  rw [hred, hgreen, hblue]
  show Except.ok _ = Except.ok _
  unfold keyText
  simp only [String.append_assoc]
  rfl

/-! ## Elements read back -/

theorem entryElement_eq (e : TagEntry) :
    entryElement e =
      "<textAttribute info=\"" ++ escape e.info ++ "\" aType=\"" ++ escape e.analysis ++ "\"/>\n" :=
  rfl

section Reading

open Reader

theorem reads_entry (e : TagEntry) : Reads entry (entryElement e).toList e := by
  have htext : (entryElement e).toList =
      "<textAttribute info=\"".toList ++ ((escape e.info).toList ++ ['"'] ++
        (" aType=\"".toList ++ ((escape e.analysis).toList ++ ['"'] ++
          ("/>\n".toList ++ [])))) := by
    rw [entryElement_eq]
    simp only [String.toList_append, List.append_assoc, List.append_nil]
    rfl
  rw [htext]
  exact (reads_markup _).bind ((reads_string _).bind ((reads_markup _).bind
    ((reads_string _).bind ((reads_markup _).bind (reads_pure _)))))

theorem toList_entryElement_ne_nil (e : TagEntry) : (entryElement e).toList ≠ [] := by
  simp [entryElement_eq]

theorem reads_shownAttribute (s : ShownAttribute) :
    Reads shownAttribute (shownText s).toList s := by
  have htext : (shownText s).toList =
      "<attribute>\n<jmpPos sline=\"".toList ++ ((toString s.span.1).toList ++ ['"'] ++
        (" eline=\"".toList ++ ((toString s.span.2).toList ++ ['"'] ++
          ("/>\n".toList ++ (s.entries.flatMap (fun e => (entryElement e).toList) ++
            ("</attribute>\n".toList ++ [])))))) := by
    unfold shownText
    simp only [String.toList_append, String.toList_join, List.flatMap_map, List.append_assoc,
      List.append_nil]
    rfl
  rw [htext]
  exact (reads_markup _).bind ((reads_integer _).bind ((reads_markup _).bind
    ((reads_integer _).bind ((reads_markup _).bind
      (Reads.many_bind (fun e _ => reads_entry e) (fun e _ => toList_entryElement_ne_nil e)
        (fun rest => rfl) ((reads_markup _).bind (reads_pure _)))))))

theorem reads_key (k : Key) : Reads key (keyText k).toList k := by
  have htext : (keyText k).toList =
      "<key red=\"".toList ++ ((toString k.red).toList ++ ['"'] ++
        (" green=\"".toList ++ ((toString k.green).toList ++ ['"'] ++
          (" blue=\"".toList ++ ((toString k.blue).toList ++ ['"'] ++
            (" key=\"".toList ++ ((escape k.key).toList ++ ['"'] ++
              (" aType=\"".toList ++ ((escape k.analysis).toList ++ ['"'] ++
                ("/>\n".toList ++ [])))))))))) := by
    unfold keyText
    simp only [String.toList_append, List.append_assoc, List.append_nil]
    rfl
  rw [htext]
  exact (reads_markup _).bind ((reads_integer _).bind ((reads_markup _).bind
    ((reads_integer _).bind ((reads_markup _).bind ((reads_integer _).bind
      ((reads_markup _).bind ((reads_string _).bind ((reads_markup _).bind
        ((reads_string _).bind ((reads_markup _).bind (reads_pure _)))))))))))

theorem keyText_cons (k : Key) : ∃ rest, (keyText k).toList = '<' :: 'k' :: rest := by
  unfold keyText
  simp only [String.append_assoc, String.toList_append]
  exact ⟨_, rfl⟩

/-- Neither the elements of keys nor the end of the document begin like that of an attribute. -/
theorem shownAttribute_keys (ks : List Key) (rest : List Char) :
    shownAttribute (ks.flatMap (fun k => (keyText k).toList) ++
      (closing.toList ++ []) ++ rest) = none := by
  cases ks with
  | nil => rfl
  | cons k ks =>
    obtain ⟨more, hmore⟩ := keyText_cons k
    rw [List.flatMap_cons, hmore]
    rfl

theorem reads_document (shown : Shown) :
    Reads document (opening.toList ++ (shown.attributes.flatMap (fun s => (shownText s).toList) ++
      (shown.keys.flatMap (fun k => (keyText k).toList) ++ (closing.toList ++ [])))) shown := by
  refine (reads_markup _).bind (Reads.many_bind (fun s _ => reads_shownAttribute s) ?_
    (shownAttribute_keys shown.keys) (Reads.many_bind (fun k _ => reads_key k) ?_
      (fun rest => rfl) ((reads_markup _).bind (reads_pure _))))
  · intro s _
    unfold shownText
    simp [String.append_assoc]
  · intro k _ h
    obtain ⟨rest, hrest⟩ := keyText_cons k
    rw [hrest] at h
    cases h

end Reading

/-! ## Documents read back -/

def shownOf (c : Collection) : Shown :=
  ⟨c.attributes.filterMap shown?, c.keys⟩

/-- Every attribute with something to show is shown, and no other. -/
theorem map_filterMap_shown? {as : List Attribute}
    (h : ∀ a ∈ as, ∀ t ∈ a.tags, t.isLabelled = true) :
    ((as.filterMap shown?).map fun s => (s.span, Except.ok s.entries)) =
      (as.filter (·.textTags ≠ [])).map fun a => (a.lineSpan, a.entries) := by
  induction as with
  | nil => rfl
  | cons a as ih =>
    have has := ih fun b hb => h b (List.mem_cons_of_mem a hb)
    obtain ⟨es, hes, hlen⟩ := entries_eq_ok (h a List.mem_cons_self)
    cases es with
    | nil =>
      have hshown : shown? a = none := by simp [shown?, hes]
      have htext : a.textTags = [] := List.length_eq_zero_iff.1 hlen.symm
      rw [List.filterMap_cons_none hshown, List.filter_cons_of_neg (by simpa using htext), has]
    | cons e es =>
      have hshown : shown? a = some ⟨a.lineSpan, e :: es⟩ := by simp [shown?, hes]
      have htext : a.textTags ≠ [] := fun h => by simp [h] at hlen
      rw [List.filterMap_cons_some hshown, List.filter_cons_of_pos (by simpa using htext),
        List.map_cons, List.map_cons, has, hes]

theorem flatMap_filterMap_shown? (as : List Attribute) :
    (as.filterMap shown?).flatMap (fun s => (shownText s).toList) =
      as.flatMap fun a => ((shown? a).elim "" shownText).toList := by
  induction as with
  | nil => rfl
  | cons a as ih =>
    rw [List.flatMap_cons, ← ih]
    cases h : shown? a with
    | none => rw [List.filterMap_cons_none h]; rfl
    | some s => rw [List.filterMap_cons_some h]; rfl

/-- The document of a plain collection shows it, element by element. -/
theorem toList_render {c : Collection} (h : c.IsPlain) :
    ∃ text, render c = .ok text ∧ text.toList = opening.toList ++
      ((shownOf c).attributes.flatMap (fun s => (shownText s).toList) ++
        ((shownOf c).keys.flatMap (fun k => (keyText k).toList) ++ closing.toList)) := by
  have ha := fun a ha => attributeElement_eq_ok (h.tags a ha) (h.lines a ha)
  have hk := fun k hk => keyElement_eq_ok (h.colours k hk)
  refine ⟨_, render_eq_ok ha hk, ?_⟩
  simp only [shownOf, flatMap_filterMap_shown?, String.toList_append, toList_concat,
    List.flatMap_map]

theorem read?_render_shownOf {c : Collection} (h : c.IsPlain) :
    ∃ text, render c = .ok text ∧ read? text = some (shownOf c) := by
  obtain ⟨text, hrender, htext⟩ := toList_render h
  have hread := reads_document (shownOf c) []
  rw [List.append_nil, List.append_nil, ← htext] at hread
  exact ⟨text, hrender, by rw [read?, hread]⟩

/-- The document of a plain collection can be read back: it tells the lines and the entries of
every attribute that has something to show, and every key, in their order and nothing else. So two
collections with the same document show the same. -/
theorem read?_render {c : Collection} (h : c.IsPlain) :
    ∃ text shown, render c = .ok text ∧ read? text = some shown ∧
      (shown.attributes.map fun s => (s.span, Except.ok s.entries)) = c.displayed ∧
      shown.keys = c.keys ∧
      ∀ d : Collection, d.IsPlain → render d = .ok text →
        d.displayed = c.displayed ∧ d.keys = c.keys := by
  obtain ⟨text, hrender, hread⟩ := read?_render_shownOf h
  refine ⟨text, shownOf c, hrender, hread, map_filterMap_shown? h.tags, rfl, ?_⟩
  intro d hd hsame
  obtain ⟨text', hrender', hread'⟩ := read?_render_shownOf hd
  rw [hsame] at hrender'
  cases hrender'
  rw [hread] at hread'
  have hshown : shownOf c = shownOf d := Option.some.inj hread'
  have hattributes : d.attributes.filterMap shown? = c.attributes.filterMap shown? :=
    congrArg Shown.attributes hshown.symm
  refine ⟨?_, congrArg Shown.keys hshown.symm⟩
  unfold Collection.displayed
  rw [← map_filterMap_shown? hd.tags, ← map_filterMap_shown? h.tags, hattributes]

/-- Tags that imitate the markup of a document. -/
def imitation : Collection where
  attributes :=
    [⟨[.text "\"/>\n</attribute>\n" "&lt;", .lineNumber (-12), .bare, .lineNumber 7]⟩,
      ⟨[.lineNumber 3]⟩, ⟨[.sourceFile "'A'.java", .key 0 1 2 "<key red=\"1\"" "&amp;"]⟩]
  keys := [⟨255, -1, 0, "</attributes>", "&#34;"⟩]

theorem read?_render_imitation :
    imitation.IsPlain ∧ ∃ text shown, render imitation = .ok text ∧ read? text = some shown ∧
      (shown.attributes.map fun s => (s.span, Except.ok s.entries)) = imitation.displayed ∧
      shown.keys = imitation.keys ∧
      ∀ d : Collection, d.IsPlain → render d = .ok text →
        d.displayed = imitation.displayed ∧ d.keys = imitation.keys := by
  have h : imitation.IsPlain := ⟨by decide, by decide +kernel, by decide +kernel⟩
  exact ⟨h, read?_render h⟩

end Document

end ProgramTags
