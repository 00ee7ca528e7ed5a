import Mathlib.Data.List.Basic
import ProgramTags.Proofs.Xml.Reader

/-!
# Printed XML

`Node.print` prints an element, the values of its attributes escaped as documents of classes have
them. The escaping leaves line ends and characters that XML does not have as they are: what becomes
of line ends in the text becomes of them in the values (`unifies_print`), and XML has all characters
of the text if it has those of the values (`all_isChar_print`).
-/

namespace ProgramTags.Xml

open Document (Reader escape escapeChar)
open Document.Reader (Reads many markup many_flatMap reads_markup reads_pure)

/-! ## Printing -/

def isName (s : String) : Bool :=
  match s.toList with
  | c :: rest => isIn nameStart c && rest.all (isIn nameRest)
  | [] => false

def fieldText (f : String × String) : List Char :=
  ' ' :: (f.1.toList ++ '=' :: '"' :: ((escape f.2).toList ++ ['"']))

namespace Node

mutual

def print : Node → List Char
  | .element name fields children =>
    '<' :: (name.toList ++ (fields.flatMap fieldText ++
      if children.isEmpty then "/>".toList
      else '>' :: (printAll children ++ ("</".toList ++ (name.toList ++ ['>'])))))
  | .char c => escapeChar c

def printAll : List Node → List Char
  | [] => []
  | node :: rest => node.print ++ printAll rest

end

mutual

def mapValues (f : String → String) : Node → Node
  | .element name fields children =>
    .element name (fields.map fun (n, v) => (n, f v)) (mapAllValues f children)
  | .char c => .char c

def mapAllValues (f : String → String) : List Node → List Node
  | [] => []
  | node :: rest => node.mapValues f :: mapAllValues f rest

end

mutual

def values (wanted : String → Bool) : Node → List String
  | .element _ fields children =>
    (fields.filter fun f => wanted f.1).map Prod.snd ++ allValues wanted children
  | .char _ => []

def allValues (wanted : String → Bool) : List Node → List String
  | [] => []
  | node :: rest => node.values wanted ++ allValues wanted rest

end

def isElement : Node → Bool
  | .element _ _ _ => true
  | .char _ => false

/-- What holds of characters, and of an element if of its children, holds of every node. -/
@[elab_as_elim]
theorem induct {P : Node → Prop}
    (element : ∀ name fields children, (∀ child ∈ children, P child) →
      P (.element name fields children))
    (char : ∀ c, P (.char c)) : ∀ node, P node
  | .char c => char c
  | .element name fields children =>
    element name fields children fun child _ => induct element char child

theorem printAll_eq (nodes : List Node) : printAll nodes = nodes.flatMap print := by
  induction nodes with
  | nil => rfl
  | cons node rest ih => rw [printAll, ih, List.flatMap_cons]

theorem mapAllValues_eq (f : String → String) (nodes : List Node) :
    mapAllValues f nodes = nodes.map (mapValues f) := by
  induction nodes with
  | nil => rfl
  | cons node rest ih => rw [mapAllValues, ih, List.map_cons]

theorem allValues_eq (wanted : String → Bool) (nodes : List Node) :
    allValues wanted nodes = nodes.flatMap (values wanted) := by
  induction nodes with
  | nil => rfl
  | cons node rest ih => rw [allValues, ih, List.flatMap_cons]

variable {node : Node}

theorem print_empty (name : String) (fields : List (String × String)) :
    (element name fields []).print =
      '<' :: (name.toList ++ (fields.flatMap fieldText ++ "/>".toList)) := rfl

theorem print_cons (name : String) (fields : List (String × String)) (child : Node)
    (children : List Node) :
    (element name fields (child :: children)).print =
      '<' :: (name.toList ++ (fields.flatMap fieldText ++ '>' ::
        ((child :: children).flatMap print ++ ("</".toList ++ (name.toList ++ ['>']))))) := by
  rw [← printAll_eq]
  rfl

theorem isElement_mapValues (f : String → String) (node : Node) :
    (node.mapValues f).isElement = node.isElement := by
  cases node <;> rfl

theorem mapValues_mapValues (f g : String → String) (node : Node) :
    (node.mapValues f).mapValues g = node.mapValues fun v => g (f v) := by
  induction node using induct with
  | element name fields children ih =>
    simp only [mapValues, mapAllValues_eq, List.map_map]
    exact congrArg _ (List.map_congr_left ih)
  | char c => rfl

theorem values_mapValues (f : String → String) (wanted : String → Bool) (node : Node) :
    (node.mapValues f).values wanted = (node.values wanted).map f := by
  induction node using induct with
  | element name fields children ih =>
    simp only [mapValues, values, mapAllValues_eq, allValues_eq, List.map_append, List.filter_map,
      List.map_map, List.map_flatMap, List.flatMap_map]
    exact congrArg _ (List.flatMap_congr ih)
  | char c => rfl

/-- The names in the node are names, no attribute is there twice, and all that stands between
elements is line feeds. -/
inductive IsWritable : Node → Prop
  | element {name : String} {fields : List (String × String)} {children : List Node}
      (hname : isName name = true) (hfields : ∀ f ∈ fields, isName f.1 = true)
      (hdistinct : (fields.map Prod.fst).Nodup)
      (hchildren : ∀ child ∈ children, child.IsWritable) :
      (Node.element name fields children).IsWritable
  | lineFeed : (Node.char '\n').IsWritable

theorem IsWritable.mapValues (h : node.IsWritable) (f : String → String) :
    (node.mapValues f).IsWritable := by
  induction h with
  | element hname hfields hdistinct _ ih =>
    rw [Node.mapValues, mapAllValues_eq]
    refine .element hname ?_ ?_ ?_
    · intro field hfield
      obtain ⟨g, hg, rfl⟩ := List.mem_map.mp hfield
      exact hfields g hg
    · rw [List.map_map]
      exact hdistinct
    · intro child hchild
      obtain ⟨other, hother, rfl⟩ := List.mem_map.mp hchild
      exact ih other hother
  | lineFeed => exact .lineFeed

end Node

/-! ## Characters -/

theorem isChar_of_nameRest {c : Char} (h : isIn nameRest c = true) : isChar c = true := by
  simp only [isIn, nameRest, nameStart, isChar, List.any_append, List.any_cons, List.any_nil,
    Bool.or_eq_true, Bool.and_eq_true, decide_eq_true_eq, Bool.or_false] at h ⊢
  omega

theorem nameRest_of_nameStart {c : Char} (h : isIn nameStart c = true) :
    isIn nameRest c = true := by
  unfold isIn nameRest at *
  rw [List.any_append, h, Bool.true_or]

theorem isSpace_of_nameRest {c : Char} (h : isIn nameRest c = true) : isSpace c = false := by
  rw [Bool.eq_false_iff]
  intro hc
  simp only [isIn, nameRest, nameStart, isSpace, List.any_append, List.any_cons, List.any_nil,
    Bool.or_eq_true, Bool.and_eq_true, decide_eq_true_eq, Bool.or_false] at h hc
  omega

theorem isName_iff {s : String} : isName s = true ↔
    ∃ c rest, s.toList = c :: rest ∧ isIn nameStart c = true ∧
      ∀ d ∈ rest, isIn nameRest d = true := by
  unfold isName
  cases s.toList with
  | nil => simp
  | cons c rest => simp

/-- All characters of a name go on a name. -/
theorem isIn_nameRest_of_mem {s : String} (h : isName s = true) :
    ∀ c ∈ s.toList, isIn nameRest c = true := by
  obtain ⟨c, rest, hs, hc, hrest⟩ := isName_iff.mp h
  rw [hs]
  exact List.forall_mem_cons.mpr ⟨nameRest_of_nameStart hc, hrest⟩

/-- An escaped character is a reference to it, or the character itself. -/
theorem escapeChar_cases (c : Char) :
    (∃ body, escapeChar c = '&' :: (body ++ [';']) ∧ ';' ∉ body ∧ referenced? body = some c ∧
      (∀ d ∈ '&' :: (body ++ [';']), isChar d = true ∧ d ≠ '\r' ∧ d ≠ '\n') ∧ isChar c = true ∧
      flatChar c = c) ∨
    escapeChar c = [c] ∧ c ≠ '&' ∧ c ≠ '<' := by
  by_cases hamp : c = '&'
  · subst hamp
    exact .inl ⟨"amp".toList, rfl, by decide, rfl, by simp [isChar, isIn], rfl, rfl⟩
  by_cases hlt : c = '<'
  · subst hlt
    exact .inl ⟨"lt".toList, rfl, by decide, rfl, by simp [isChar, isIn], rfl, rfl⟩
  by_cases hgt : c = '>'
  · subst hgt
    exact .inl ⟨"gt".toList, rfl, by decide, rfl, by simp [isChar, isIn], rfl, rfl⟩
  by_cases hquote : c = '"'
  · subst hquote
    exact .inl ⟨"#34".toList, rfl, by decide, by decide +kernel, by simp [isChar, isIn], rfl, rfl⟩
  by_cases hapos : c = '\''
  · subst hapos
    exact .inl ⟨"#39".toList, rfl, by decide, by decide +kernel, by simp [isChar, isIn], rfl, rfl⟩
  exact .inr ⟨Document.escapeChar_of_ne hamp hlt hgt hquote hapos, hamp, hlt⟩

theorem escapeChar_ne_nil (c : Char) : escapeChar c ≠ [] := by
  rcases escapeChar_cases c with ⟨body, hbody, -⟩ | ⟨hc, -, -⟩
  · rw [hbody]
    exact List.cons_ne_nil _ _
  · rw [hc]
    exact List.cons_ne_nil _ _

/-- XML has all characters of the text. -/
def isLegal (s : String) : Bool :=
  s.toList.all isChar

theorem all_isChar_escape (s : String) : (escape s).toList.all isChar = isLegal s := by
  have hchar : ∀ c, (escapeChar c).all isChar = isChar c := fun c => by
    rcases escapeChar_cases c with ⟨body, hbody, -, -, hall, hc, -⟩ | ⟨hc, -, -⟩
    · rw [hbody, hc]
      exact List.all_eq_true.mpr fun d hd => (hall d hd).1
    · rw [hc, List.all_cons, List.all_nil, Bool.and_true]
  simp only [escape, String.toList_ofList, List.all_flatMap, hchar, isLegal]

theorem all_isChar_name {s : String} (h : isName s = true) : s.toList.all isChar = true :=
  List.all_eq_true.mpr fun c hc => isChar_of_nameRest (isIn_nameRest_of_mem h c hc)

theorem all_isChar_fieldText {f : String × String} (h : isName f.1 = true) :
    (fieldText f).all isChar = isLegal f.2 := by
  have hspace : isChar ' ' = true := rfl
  have hequals : isChar '=' = true := rfl
  have hquote : isChar '"' = true := rfl
  simp [fieldText, all_isChar_name h, all_isChar_escape, hspace, hequals, hquote]

theorem all_flatMap_eq {ι α β : Type} {f : ι → List α} {g : ι → List β} {p : α → Bool}
    {q : β → Bool} {is : List ι} (h : ∀ i ∈ is, (f i).all p = (g i).all q) :
    (is.flatMap f).all p = (is.flatMap g).all q := by
  induction is with
  | nil => rfl
  | cons i is ih =>
    rw [List.flatMap_cons, List.flatMap_cons, List.all_append, List.all_append,
      h i List.mem_cons_self, ih fun j hj => h j (List.mem_cons_of_mem i hj)]

/-- XML has all characters of what is printed if it has those of the values. -/
theorem all_isChar_print {node : Node} (h : node.IsWritable) :
    node.print.all isChar = (node.values fun _ => true).all isLegal := by
  induction h with
  | lineFeed => rfl
  | @element name fields children hname hfields _ _ ih =>
    have hname' := all_isChar_name hname
    have hattributes : (fields.flatMap fieldText).all isChar =
        (fields.flatMap fun f => [f.2]).all isLegal :=
      all_flatMap_eq fun f hf => by simp [all_isChar_fieldText (hfields f hf)]
    have hvalues : (Node.element name fields children).values (fun _ => true) =
        (fields.flatMap fun f => [f.2]) ++ children.flatMap (Node.values fun _ => true) := by
      rw [Node.values, Node.allValues_eq, List.filter_true, List.map_eq_flatMap]
    have hlt : isChar '<' = true := rfl
    have hgt : isChar '>' = true := rfl
    have hempty : "/>".toList.all isChar = true := rfl
    have hclose : "</".toList.all isChar = true := rfl
    rw [hvalues, List.all_append, ← hattributes, ← all_flatMap_eq ih]
    cases children with
    | nil =>
      simp only [Node.print_empty, List.all_cons, List.all_append, hlt, hname', hempty,
        List.flatMap_nil, List.all_nil, Bool.true_and]
    | cons child children =>
      simp only [Node.print_cons, List.all_cons, List.all_append, hlt, hgt, hname', hclose,
        List.all_nil, Bool.true_and, Bool.and_true]

/-! ## Line ends -/

/-- The text with line feeds for all line ends. -/
def unified (s : String) : String :=
  String.ofList (Text.unifyLineEnds s.toList)

/-- Where `text` stands, `text'` stands after the line ends have become line feeds, whatever
follows. -/
def Unifies (text text' : List Char) : Prop :=
  ∀ rest, Text.unifyLineEnds (text ++ rest) = text' ++ Text.unifyLineEnds rest

theorem Unifies.append {a a' b b' : List Char} (h : Unifies a a') (h' : Unifies b b') :
    Unifies (a ++ b) (a' ++ b') := fun rest => by
  rw [List.append_assoc, h, h', List.append_assoc]

theorem Unifies.flatMap {ι : Type} {text text' : ι → List Char} {is : List ι}
    (h : ∀ i ∈ is, Unifies (text i) (text' i)) :
    Unifies (is.flatMap text) (is.flatMap text') := by
  induction is with
  | nil => exact fun _ => rfl
  | cons i is ih =>
    rw [List.flatMap_cons, List.flatMap_cons]
    exact (h i List.mem_cons_self).append (ih fun j hj => h j (List.mem_cons_of_mem i hj))

/-- A text without carriage returns stays as it is. -/
theorem Unifies.of_not_mem {text : List Char} (h : '\r' ∉ text) : Unifies text text := by
  intro rest
  induction text with
  | nil => rfl
  | cons c text ih =>
    have hc : c ≠ '\r' := fun hc => h (hc ▸ List.mem_cons_self)
    have htext := ih fun hmem => h (List.mem_cons_of_mem c hmem)
    rw [List.cons_append, Text.unifyLineEnds, if_neg hc, htext]
    · rfl
    · rintro - rfl
      exact absurd rfl hc

theorem cr_not_mem_escapeChar {c : Char} (h : c ≠ '\r') : '\r' ∉ escapeChar c := by
  rcases escapeChar_cases c with ⟨body, hbody, -, -, hall, -⟩ | ⟨hc, -, -⟩
  · rw [hbody]
    exact fun hmem => (hall _ hmem).2.1 rfl
  · rw [hc]
    simpa using Ne.symm h

/-- An escaped text begins with a line feed only if the text does. -/
theorem eq_lf_cons_of_escape {s rest more : List Char}
    (h : s.flatMap escapeChar ++ '"' :: rest = '\n' :: more) : ∃ s', s = '\n' :: s' := by
  cases s with
  | nil => cases h
  | cons c s =>
    rw [List.flatMap_cons, List.append_assoc] at h
    rcases escapeChar_cases c with ⟨body, hbody, -⟩ | ⟨hc, -, -⟩
    · rw [hbody] at h
      cases h
    · rw [hc] at h
      cases h
      exact ⟨s, rfl⟩

/-- The line ends of an escaped text with a quote at its end are those of the text. -/
theorem unifies_escape (s : String) :
    Unifies ((escape s).toList ++ ['"']) ((escape (unified s)).toList ++ ['"']) := by
  intro rest
  simp only [escape, unified, String.toList_ofList, List.append_assoc, List.singleton_append]
  generalize s.toList = cs
  fun_induction Text.unifyLineEnds cs with
  | case1 => rfl
  | case2 cs ih =>
    show '\n' :: Text.unifyLineEnds (cs.flatMap escapeChar ++ '"' :: rest) = _
    rw [ih]
    rfl
  | case3 c cs hnot ih =>
    rw [List.flatMap_cons, List.flatMap_cons, List.append_assoc, List.append_assoc]
    by_cases hc : c = '\r'
    · subst hc
      show Text.unifyLineEnds ('\r' :: (cs.flatMap escapeChar ++ '"' :: rest)) = _
      rw [Text.unifyLineEnds, ih]
      · rfl
      · intro more _ hmore
        obtain ⟨cs', hcs'⟩ := eq_lf_cons_of_escape hmore
        exact hnot cs' rfl hcs'
    · rw [if_neg hc, Unifies.of_not_mem (cr_not_mem_escapeChar hc), ih]

theorem cr_not_mem_name {s : String} (h : isName s = true) : '\r' ∉ s.toList := fun hmem =>
  absurd (isIn_nameRest_of_mem h _ hmem) (by decide)

theorem unifies_fieldText {f : String × String} (h : isName f.1 = true) :
    Unifies (fieldText f) (fieldText (f.1, unified f.2)) := by
  have hname : '\r' ∉ [' '] ++ f.1.toList ++ ['=', '"'] := by simpa using cr_not_mem_name h
  have hvalue := (Unifies.of_not_mem hname).append (unifies_escape f.2)
  simpa [fieldText] using hvalue

/-- What is printed has its line ends in the values. -/
theorem unifies_print {node : Node} (h : node.IsWritable) :
    Unifies node.print (node.mapValues unified).print := by
  induction h with
  | lineFeed => exact fun _ => rfl
  | @element name fields children hname hfields _ _ ih =>
    have hbegin : Unifies ('<' :: name.toList) ('<' :: name.toList) :=
      .of_not_mem (by simpa using cr_not_mem_name hname)
    have hend : Unifies ("</".toList ++ (name.toList ++ ['>'])) _ :=
      .of_not_mem (by simpa using cr_not_mem_name hname)
    have hattributes := Unifies.flatMap fun f hf => unifies_fieldText (hfields f hf)
    rw [Node.mapValues, Node.mapAllValues_eq]
    cases children with
    | nil =>
      rw [Node.print_empty, List.map_nil, Node.print_empty, List.flatMap_map]
      exact hbegin.append (hattributes.append (.of_not_mem (by decide)))
    | cons child children =>
      have hopen : Unifies ['>'] ['>'] := .of_not_mem (by decide)
      rw [Node.print_cons, List.map_cons, Node.print_cons, ← List.map_cons, List.flatMap_map,
        List.flatMap_map]
      exact hbegin.append (hattributes.append (hopen.append ((Unifies.flatMap ih).append hend)))

end ProgramTags.Xml
