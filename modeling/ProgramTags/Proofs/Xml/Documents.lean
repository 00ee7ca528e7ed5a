import ProgramTags.Proofs.Export.Loaded
import ProgramTags.Proofs.Xml.RoundTrip

/-!
# Documents as XML

The document of a class is the print of an element, `rootNode shown`, so what a reader of XML makes
of it is settled by its texts (`Collection.strings`). There is no document unless XML has all their
characters, and white space in them does not come back as it was (`Recovers`).
-/

namespace ProgramTags

open Xml (Node isChar isLegal normalized)

def Collection.strings (c : Collection) : List String :=
  (c.attributes.flatMap fun a =>
    (a.entries.toOption.getD []).flatMap fun e => [e.info, e.analysis]) ++
    c.keys.flatMap fun k => [k.key, k.analysis]

namespace Document

/-! ## The element of a document -/

def lineFeed : Node :=
  .char '\n'

def entryNode (e : TagEntry) : Node :=
  .element "textAttribute" [("info", e.info), ("aType", e.analysis)] []

def spanNode (span : Int × Int) : Node :=
  .element "jmpPos" [("sline", toString span.1), ("eline", toString span.2)] []

def shownNode (s : ShownAttribute) : Node :=
  .element "attribute" [] (lineFeed :: spanNode s.span :: lineFeed ::
    s.entries.flatMap fun e => [entryNode e, lineFeed])

def keyNode (k : Key) : Node :=
  .element "key"
    [("red", toString k.red), ("green", toString k.green), ("blue", toString k.blue),
      ("key", k.key), ("aType", k.analysis)] []

def rootNode (shown : Shown) : Node :=
  .element "attributes" []
    (lineFeed :: (shown.attributes.flatMap (fun s => [shownNode s, lineFeed]) ++
      shown.keys.flatMap fun k => [keyNode k, lineFeed]))

/-! ## Its print -/

/-- The decimal text of a number has digits and perhaps a hyphen. -/
theorem mem_toString {n : Int} {c : Char} (h : c ∈ (toString n).toList) :
    c = '-' ∨ c.isDigit = true := by
  rw [toList_toString] at h
  split at h
  · exact .inr (isDigit_of_mem_toDigits h)
  · rcases List.mem_cons.mp h with h | h
    · exact .inl h
    · exact .inr (isDigit_of_mem_toDigits h)

theorem escape_toString (n : Int) : escape (toString n) = toString n := by
  have hplain : ∀ c ∈ (toString n).toList, escapeChar c = [c] := fun c hc => by
    have hne : ∀ d, d ≠ '-' → d.isDigit = false → c ≠ d := by
      rintro d hhyphen hdigit rfl
      rcases mem_toString hc with h | h
      · exact hhyphen h
      · rw [hdigit] at h
        cases h
    exact escapeChar_of_ne (hne _ (by decide) rfl) (hne _ (by decide) rfl)
      (hne _ (by decide) rfl) (hne _ (by decide) rfl) (hne _ (by decide) rfl)
  rw [escape, List.flatMap_congr hplain]
  simp

theorem isLegal_toString (n : Int) : isLegal (toString n) = true := by
  refine List.all_eq_true.mpr fun c hc => ?_
  rcases mem_toString hc with rfl | h
  · rfl
  · have hdigit : 48 ≤ c.toNat ∧ c.toNat ≤ 57 := by
      simpa [Char.isDigit, UInt32.le_iff_toNat_le] using h
    simp only [Xml.isChar, Xml.isIn, List.any_cons, List.any_nil, Bool.or_eq_true,
      Bool.and_eq_true, decide_eq_true_eq, Bool.or_false]
    omega

theorem print_lines {α : Type} (node : α → Node) (as : List α) :
    (as.flatMap fun a => [node a, lineFeed]).flatMap Node.print =
      as.flatMap fun a => (node a).print ++ ['\n'] := by
  rw [List.flatMap_assoc]
  rfl

theorem print_entryNode (e : TagEntry) :
    (entryNode e).print ++ ['\n'] = (entryElement e).toList := by
  rw [entryElement_eq, entryNode, Node.print_empty]
  simp only [Xml.fieldText, List.flatMap_cons, List.flatMap_nil, String.toList_append,
    List.cons_append, List.append_assoc]
  rfl

theorem print_keyNode (k : Key) : (keyNode k).print ++ ['\n'] = (keyText k).toList := by
  unfold keyText keyNode
  rw [Node.print_empty]
  simp only [Xml.fieldText, List.flatMap_cons, List.flatMap_nil, String.toList_append,
    List.cons_append, List.append_assoc, escape_toString k.red, escape_toString k.green,
    escape_toString k.blue]
  rfl

theorem print_shownNode (s : ShownAttribute) :
    (shownNode s).print ++ ['\n'] = (shownText s).toList := by
  unfold shownText shownNode spanNode
  rw [Node.print_cons]
  simp only [List.flatMap_cons, print_lines, print_entryNode, Node.print_empty, Xml.fieldText,
    List.flatMap_nil, String.toList_append, String.toList_join, List.flatMap_map,
    List.cons_append, List.append_assoc, escape_toString s.span.1, escape_toString s.span.2]
  rfl

/-- The text of a document is the print of its root, the declaration before it. -/
theorem documentText_rootNode (shown : Shown) :
    Xml.documentText (rootNode shown) = opening.toList ++
      (shown.attributes.flatMap (fun s => (shownText s).toList) ++
        (shown.keys.flatMap (fun k => (keyText k).toList) ++ closing.toList)) := by
  have hopening : opening.toList = Xml.declarationText.toList ++
      ('\n' :: '<' :: ("attributes".toList ++ ['>', '\n'])) := by decide
  have hclosing : closing.toList = "</".toList ++ ("attributes".toList ++ ['>', '\n']) := by decide
  have hline : lineFeed.print = ['\n'] := rfl
  unfold Xml.documentText rootNode
  rw [Node.print_cons, hopening, hclosing]
  simp only [List.flatMap_cons, List.flatMap_append, List.flatMap_nil, print_lines, print_shownNode,
    print_keyNode, hline, List.cons_append, List.nil_append, List.append_assoc]

theorem isWritable_lines {α : Type} {node : α → Node} {as : List α}
    (h : ∀ a ∈ as, (node a).IsWritable) :
    ∀ child ∈ as.flatMap fun a => [node a, lineFeed], child.IsWritable := by
  intro child hchild
  obtain ⟨a, ha, hmem⟩ := List.mem_flatMap.mp hchild
  rcases List.mem_pair.mp hmem with rfl | rfl
  · exact h a ha
  · exact .lineFeed

theorem isWritable_shownNode (s : ShownAttribute) : (shownNode s).IsWritable := by
  have hentry : ∀ e, (entryNode e).IsWritable := fun e =>
    .element (by decide) (by simp; decide) (by simp) nofun
  have hspan : (spanNode s.span).IsWritable :=
    .element (by decide) (by simp; decide) (by simp) nofun
  refine .element (by decide) nofun .nil ?_
  simp only [List.forall_mem_cons]
  exact ⟨.lineFeed, hspan, .lineFeed, isWritable_lines fun e _ => hentry e⟩

theorem isWritable_rootNode (shown : Shown) : (rootNode shown).IsWritable := by
  have hkey : ∀ k, (keyNode k).IsWritable := fun k =>
    .element (by decide) (by simp; decide) (by simp) nofun
  refine .element (by decide) nofun .nil ?_
  simp only [List.forall_mem_cons, List.forall_mem_append]
  exact ⟨.lineFeed, isWritable_lines fun s _ => isWritable_shownNode s,
    isWritable_lines fun k _ => hkey k⟩

/-! ## Its values -/

def Shown.strings (shown : Shown) : List String :=
  (shown.attributes.flatMap fun s => s.entries.flatMap fun e => [e.info, e.analysis]) ++
    shown.keys.flatMap fun k => [k.key, k.analysis]

/-- The attributes with these names have texts. -/
def isTextual (name : String) : Bool :=
  name ∈ ["info", "key", "aType"]

section

variable (wanted : String → Bool)

theorem values_lines {α : Type} (node : α → Node) (as : List α) :
    (as.flatMap fun a => [node a, lineFeed]).flatMap (Node.values wanted) =
      as.flatMap fun a => (node a).values wanted := by
  rw [List.flatMap_assoc]
  refine List.flatMap_congr fun a _ => ?_
  show (node a).values wanted ++ ([] ++ []) = _
  rw [List.append_nil, List.append_nil]

theorem values_shownNode (s : ShownAttribute) : (shownNode s).values wanted =
    (spanNode s.span).values wanted ++ s.entries.flatMap fun e => (entryNode e).values wanted := by
  rw [shownNode, Node.values, Node.allValues_eq, ← values_lines wanted entryNode]
  rfl

theorem values_rootNode (shown : Shown) : (rootNode shown).values wanted =
    shown.attributes.flatMap (fun s => (shownNode s).values wanted) ++
      shown.keys.flatMap fun k => (keyNode k).values wanted := by
  rw [rootNode, Node.values, Node.allValues_eq, List.flatMap_cons, List.flatMap_append,
    values_lines, values_lines]
  rfl

end

theorem values_isTextual (shown : Shown) :
    (rootNode shown).values isTextual = shown.strings := by
  have hspan : ∀ span, (spanNode span).values isTextual = [] := fun span => by
    simp [spanNode, Node.values, Node.allValues, isTextual]
  have hentry : ∀ e, (entryNode e).values isTextual = [e.info, e.analysis] := fun e => by
    simp [entryNode, Node.values, Node.allValues, isTextual]
  have hkey : ∀ k, (keyNode k).values isTextual = [k.key, k.analysis] := fun k => by
    simp [keyNode, Node.values, Node.allValues, isTextual]
  simp only [values_rootNode, values_shownNode, hspan, hentry, hkey, List.nil_append,
    Shown.strings]

/-- The numbers have no characters that XML does not have. -/
theorem all_isLegal_values (shown : Shown) :
    ((rootNode shown).values fun _ => true).all isLegal = shown.strings.all isLegal := by
  have hspan : ∀ span, ((spanNode span).values fun _ => true).all isLegal = true := fun span => by
    show [toString span.1, toString span.2].all isLegal = true
    simp only [List.all_cons, List.all_nil, isLegal_toString span.1, isLegal_toString span.2,
      Bool.and_true]
  have hentry : ∀ e, ((entryNode e).values fun _ => true) = [e.info, e.analysis] := fun e => rfl
  have hkey : ∀ k, ((keyNode k).values fun _ => true).all isLegal =
      [k.key, k.analysis].all isLegal := fun k => by
    show [toString k.red, toString k.green, toString k.blue, k.key, k.analysis].all isLegal = _
    simp only [List.all_cons, isLegal_toString k.red, isLegal_toString k.green,
      isLegal_toString k.blue, Bool.true_and]
  simp only [values_rootNode, values_shownNode, hspan, hentry, hkey, Shown.strings,
    List.all_append, List.all_flatMap, Bool.true_and]

/-! ## What a reader finds -/

theorem strings_shownOf (c : Collection) : (shownOf c).strings = c.strings := by
  unfold Shown.strings shownOf Collection.strings
  rw [List.filterMap_eq_flatMap_toList, List.flatMap_assoc]
  refine congrArg (· ++ _) (List.flatMap_congr fun a _ => ?_)
  unfold shown?
  cases a.entries with
  | error e => rfl
  | ok es =>
    cases es with
    | nil => rfl
    | cons e es => exact List.append_nil _

/-- What a reader of XML makes of the text of a document with these texts in it. -/
structure Recovers (strings : List String) (text : String) : Prop where
  /-- XML has all characters of the document if it has those of the texts. -/
  characters : text.toList.all isChar = strings.all isLegal
  /-- Nothing else keeps the document from being well formed. -/
  wellFormed : (∃ root, Xml.read? text = some root) ↔ strings.all isLegal = true
  /-- The texts are found with their line ends and white space normalized. -/
  found : ∀ root, Xml.read? text = some root →
    root.values isTextual = strings.map normalized
  /-- They are found as they are if there are no tabs and no line ends in them. -/
  unchanged : ∀ root, Xml.read? text = some root → (root.values isTextual = strings ↔
    ∀ s ∈ strings, '\t' ∉ s.toList ∧ '\n' ∉ s.toList ∧ '\r' ∉ s.toList)

theorem recovers_of_isPlain {c : Collection} {text : String} (h : c.IsPlain)
    (hrender : render c = .ok text) : Recovers c.strings text := by
  obtain ⟨text', hrender', htext⟩ := toList_render h
  rw [hrender] at hrender'
  cases hrender'
  have hroot := isWritable_rootNode (shownOf c)
  rw [← documentText_rootNode] at htext
  have hlegal : ((rootNode (shownOf c)).values fun _ => true).all isLegal =
      c.strings.all isLegal := by
    rw [all_isLegal_values, strings_shownOf]
  have hread : Xml.read? text = if c.strings.all isLegal then
      some ((rootNode (shownOf c)).mapValues normalized) else none := by
    rw [← hlegal, ← Xml.read?_documentText hroot rfl, ← htext, String.ofList_toList]
  have hfound : ∀ root, Xml.read? text = some root →
      root.values isTextual = c.strings.map normalized := by
    intro root hsome
    rw [hread] at hsome
    split at hsome
    · cases hsome
      rw [Node.values_mapValues, values_isTextual, strings_shownOf]
    · cases hsome
  refine ⟨?_, ?_, hfound, fun root hsome => ?_⟩
  · rw [htext, Xml.all_isChar_documentText hroot, hlegal]
  · rw [hread]
    by_cases hall : c.strings.all isLegal = true <;> simp [hall]
  · have hself : c.strings.map normalized = c.strings ↔ ∀ s ∈ c.strings, normalized s = s := by
      simpa using List.map_inj_left (f := normalized) (g := id) (l := c.strings)
    rw [hfound root hsome, hself]
    exact forall₂_congr fun s _ => Xml.normalized_eq_self_iff

end Document

namespace Export

/-- The document of a class of a program from a dump is what its texts make of it. It is well formed
if XML has all their characters, and then a reader finds them unchanged if there are no tabs and no
line ends in them. -/
theorem program_recovers {dump : Value} {p : Program} (hd : dump.numbersFit = true)
    (h : Dump.program dump = .ok p) (settings : CollectSettings) :
    ∀ c ∈ p.classes, ∃ found text, (∀ s, ∃ t, collect settings c s = .ok found t) ∧
      (∀ a ∈ found.attributes, ∃ entries, a.entries = .ok entries) ∧
      Renders settings c text ∧ Document.Recovers found.strings text := by
  intro c hc
  have hshowable := Dump.program_conforms Value.hereditary_numbersFit Dump.tag_isShowable hd h c hc
  have hfound := collection_eq_ok settings hshowable
  have hplain := collection_isPlain settings hshowable hfound
  obtain ⟨text, htext, -⟩ := Document.toList_render hplain
  refine ⟨_, text, collect_of_collection hfound, fun a ha => ?_, renders_of_collection hfound htext,
    Document.recovers_of_isPlain hplain htext⟩
  obtain ⟨entries, hentries, -⟩ := Document.entries_eq_ok (hplain.tags a ha)
  exact ⟨entries, hentries⟩

/-- The text of one class has two lines, that of the other a control character. -/
def unprintable : Value :=
  let note (text : String) := Value.mapping [(.text "text", .text text)]
  .mapping [(.text "classes", .list
    [.mapping [(.text "name", .text "A"), (.text "tags", .list [note "a\nb"])],
      .mapping [(.text "name", .text "B"), (.text "tags", .list [note "\x01"])]])]

/-- The lines come back as one, and the control character does not come back at all. -/
theorem program_recovers_unprintable :
    let a : ProgramClass := ⟨"A", [.text "a\nb" ""], [], []⟩
    let b : ProgramClass := ⟨"B", [.text "\x01" ""], [], []⟩
    unprintable.numbersFit = true ∧ Dump.program unprintable = .ok ⟨[a, b]⟩ ∧
      (∃ text root, Renders {} a text ∧ Xml.read? text = some root ∧
        root.values Document.isTextual = ["a b", ""]) ∧
      ∃ text, Renders {} b text ∧ Xml.read? text = none := by
  intro a b
  have hfit : unprintable.numbersFit = true := by decide +kernel
  have hread : Dump.program unprintable = .ok ⟨[a, b]⟩ := by decide +kernel
  have hrecovers := program_recovers hfit hread {}
  have hfound : ∀ c strings, (collection {} c).toOption.map Collection.strings = some strings →
      ∀ found, (∀ s, ∃ t, collect {} c s = .ok found t) → found.strings = strings := by
    intro c strings hstrings found hcollect
    obtain ⟨t, ht⟩ := hcollect {}
    obtain ⟨hcollection, -⟩ := (collect_ends {} c {}).of_ok ht
    rw [hcollection] at hstrings
    exact Option.some.inj hstrings
  refine ⟨hfit, hread, ?_, ?_⟩
  · obtain ⟨found, text, hcollect, -, hrenders, hrecover⟩ := hrecovers a (.head _)
    rw [hfound a ["a\nb", ""] (by decide +kernel) found hcollect] at hrecover
    obtain ⟨root, hroot⟩ := hrecover.wellFormed.mpr (by decide +kernel)
    refine ⟨text, root, hrenders, hroot, ?_⟩
    rw [hrecover.found root hroot]
    decide +kernel
  · obtain ⟨found, text, hcollect, -, hrenders, hrecover⟩ := hrecovers b (.tail _ (.head _))
    rw [hfound b ["\x01", ""] (by decide +kernel) found hcollect] at hrecover
    refine ⟨text, hrenders, Option.eq_none_iff_forall_ne_some.mpr fun root hroot => ?_⟩
    exact absurd (hrecover.wellFormed.mp ⟨root, hroot⟩) (by decide +kernel)

end Export

end ProgramTags
