import ProgramTags.Proofs.Xml.Printer

/-!
# Printed XML read back

A reader of names or of white space takes as much as it can get, so what it finds depends on what
follows: `Stops good text` says that `text` ends a run of `good` characters. With that the readers
of attributes and elements find what `Node.print` prints, each value with its white space flat
(`reads_print`). `read?_documentText` puts this together with what becomes of line ends and with the
characters that XML has.
-/

namespace ProgramTags.Xml

open Document (Reader escape escapeChar)
open Document.Reader (Reads many markup many_flatMap reads_markup reads_pure)

/-! ## Pieces of markup -/

section

variable {α β : Type} {text : List Char} {a : α} {b : β}

theorem bind_eq_none {read : Reader α} {next : α → Reader β} (h : read text = none) :
    (read >>= next) text = none := by
  show (read text).bind _ = none
  rw [h]
  rfl

theorem bind_eq_of_eq_some {read : Reader α} {next : α → Reader β} {rest : List Char}
    (h : read text = some (a, rest)) : (read >>= next) text = next a rest := by
  show (read text).bind _ = _
  rw [h]
  rfl

theorem orElse_eq_none {read other : Reader α} (h : read text = none) (h' : other text = none) :
    (read <|> other) text = none := by
  show (read text <|> other text) = none
  rw [h, h']
  rfl

theorem markup_eq_none {s : String} (h : s.toList.isPrefixOf? text = none) :
    markup s text = none := by
  rw [markup, h]
  rfl

/-- Markup does not begin where another character follows its `<`. -/
theorem markup_eq_none_of_ne {s : String} {c d : Char} {more : List Char}
    (hs : s.toList = '<' :: d :: more) (hne : c ≠ d) (rest : List Char) :
    markup s ('<' :: c :: rest) = none := by
  refine markup_eq_none ?_
  rw [hs]
  simp [List.isPrefixOf?, hne.symm]

theorem comment_eq_none {c : Char} (h : c ≠ '!') (rest : List Char) :
    comment ('<' :: c :: rest) = none :=
  bind_eq_none (markup_eq_none_of_ne rfl h rest)

theorem instruction_eq_none {c : Char} (h : c ≠ '?') (rest : List Char) :
    instruction ('<' :: c :: rest) = none :=
  bind_eq_none (markup_eq_none_of_ne rfl h rest)

theorem verbatim_eq_none {c : Char} (h : c ≠ '!') (rest : List Char) :
    verbatim ('<' :: c :: rest) = none :=
  bind_eq_none (markup_eq_none_of_ne rfl h rest)

/-- The text begins with a character that is not good. -/
def Stops (good : Char → Bool) (text : List Char) : Prop :=
  ∃ c rest, text = c :: rest ∧ good c = false

theorem Stops.cons {good : Char → Bool} {c : Char} {rest : List Char} (h : good c = false) :
    Stops good (c :: rest) :=
  ⟨c, rest, rfl, h⟩

theorem reads_run_bind {good : Char → Bool} {next : List Char → Reader β} {taken : List Char}
    (htaken : ∀ c ∈ taken, good c = true) (hstop : Stops good text)
    (h : Reads (next taken) text b) : Reads (run good >>= next) (taken ++ text) b := by
  obtain ⟨c, after, rfl, hc⟩ := hstop
  intro rest
  show next ((taken ++ c :: after ++ rest).takeWhile good)
    ((taken ++ c :: after ++ rest).dropWhile good) = _
  rw [List.append_assoc, List.takeWhile_append_of_pos htaken, List.dropWhile_append_of_pos htaken,
    List.cons_append, List.takeWhile_cons, List.dropWhile_cons, hc]
  simpa using h rest

theorem reads_spaces_bind {next : Unit → Reader β} (hstop : Stops isSpace text)
    (h : Reads (next ()) text b) : Reads (spaces >>= next) text b := by
  show Reads (run isSpace >>= fun _ => next ()) ([] ++ text) b
  exact reads_run_bind nofun hstop h

theorem reads_someSpaces_bind {next : Unit → Reader β} (hstop : Stops isSpace text)
    (h : Reads (next ()) text b) : Reads (someSpaces >>= next) (' ' :: text) b :=
  reads_spaces_bind hstop h

theorem reads_equals_bind {next : Unit → Reader β} (hstop : Stops isSpace text)
    (h : Reads (next ()) text b) : Reads (equals >>= next) ('=' :: text) b := by
  simp only [equals, bind_assoc]
  exact reads_spaces_bind (.cons rfl) ((reads_markup "=").bind (reads_spaces_bind hstop h))

theorem reads_satisfying {good : Char → Bool} {c : Char} (hc : good c = true) :
    Reads (satisfying good) [c] c :=
  fun _ => if_pos hc

theorem reads_name_bind {next : String → Reader β} {n : String} (hn : isName n = true)
    (hstop : Stops (isIn nameRest) text) (h : Reads (next n) text b) :
    Reads (name >>= next) (n.toList ++ text) b := by
  obtain ⟨c, rest, hlist, hc, hrest⟩ := isName_iff.mp hn
  have hname : String.ofList (c :: rest) = n := by rw [← hlist, String.ofList_toList]
  rw [hlist]
  simp only [name, bind_assoc, pure_bind]
  show Reads _ ([c] ++ (rest ++ text)) b
  refine (reads_satisfying hc).bind (reads_run_bind hrest hstop ?_)
  rwa [hname]

theorem reads_upTo {stop : Char} {meaning : List Char → Option α} (hstop : stop ∉ text)
    (h : meaning text = some a) : Reads (upTo stop meaning) (text ++ [stop]) a := by
  intro rest
  obtain ⟨htake, hdrop⟩ := Document.Reader.takeWhile_dropWhile_append hstop rest
  rw [upTo, List.append_assoc, List.singleton_append, htake, hdrop, h]
  rfl

theorem reads_quoted {meaning : List Char → Option α} (hquote : '"' ∉ text)
    (h : meaning text = some a) : Reads (quoted meaning) ('"' :: (text ++ ['"'])) a :=
  fun rest => reads_upTo hquote h rest

end

/-! ## Values -/

def flat (s : String) : String :=
  String.ofList (s.toList.map flatChar)

theorem reads_valueChar (c : Char) : Reads valueChar (escapeChar c) (flatChar c) := by
  rcases escapeChar_cases c with ⟨body, hbody, hstop, hc, -, -, hflat⟩ | ⟨hc, hamp, hlt⟩
  · rw [hbody, hflat]
    exact ((reads_markup "&").bind (reads_upTo hstop hc)).orElse_left
  · rw [hc]
    have hgood : (c ≠ '<' && c ≠ '&') = true := by simp [hamp, hlt]
    refine Reads.orElse_right (fun rest => ?_) ((reads_satisfying hgood).bind_pure flatChar)
    refine bind_eq_none (markup_eq_none ?_)
    simp [List.isPrefixOf?, Ne.symm hamp]

/-- An escaped value is found with its white space flat. -/
theorem value?_escape (s : String) : value? (escape s).toList = some (flat s) := by
  have hread : many valueChar (s.toList.flatMap escapeChar ++ []) =
      some (s.toList.map flatChar, []) :=
    many_flatMap (fun c _ => reads_valueChar c) (fun c _ => escapeChar_ne_nil c) rfl
  rw [List.append_nil] at hread
  rw [value?, escape, String.toList_ofList, hread]
  rfl

theorem stops_isSpace_name {n : String} (h : isName n = true) (rest : List Char) :
    Stops isSpace (n.toList ++ rest) := by
  obtain ⟨c, more, hlist, hc, -⟩ := isName_iff.mp h
  rw [hlist]
  exact .cons (isSpace_of_nameRest (nameRest_of_nameStart hc))

theorem reads_field {f : String × String} (h : isName f.1 = true) :
    Reads field (fieldText f) (f.1, flat f.2) := by
  have hvalue := reads_quoted (Document.quote_not_mem_escape f.2) (value?_escape f.2)
  have hread := hvalue.bind_pure fun v => (f.1, v)
  exact reads_someSpaces_bind (stops_isSpace_name h _)
    (reads_name_bind h (.cons rfl) (reads_equals_bind (.cons rfl) hread))

theorem reads_fields_bind {β : Type} {next : List (String × String) → Reader β}
    {fs : List (String × String)} {text : List Char} {b : β}
    (hnames : ∀ f ∈ fs, isName f.1 = true) (hdistinct : (fs.map Prod.fst).Nodup)
    (hstop : Stops isSpace text) (h : Reads (next (fs.map fun (n, v) => (n, flat v))) text b) :
    Reads (fields >>= next) (fs.flatMap fieldText ++ text) b := by
  have hmap : ((fs.map fun (n, v) => (n, flat v)).map Prod.fst).Nodup := by
    rw [List.map_map]
    exact hdistinct
  simp only [fields, bind_assoc]
  refine Reads.many_flatMap_bind (fun f hf => reads_field (hnames f hf))
    (fun f _ => List.cons_ne_nil _ _) (fun rest => ?_) (reads_spaces_bind hstop ?_)
  · obtain ⟨c, after, rfl, hc⟩ := hstop
    refine bind_eq_none (bind_eq_none ?_)
    simp [satisfying, hc]
  · rwa [if_pos hmap]

/-! ## Elements -/

theorem print_ne_nil (node : Node) : node.print ≠ [] := by
  cases node with
  | element name fields children => exact List.cons_ne_nil _ _
  | char c => exact escapeChar_ne_nil c

/-- Nothing stands where the end tag of an element begins. -/
theorem item_closing (depth : Nat) (rest : List Char) :
    item (element depth) ('<' :: '/' :: rest) = none := by
  cases depth <;> rfl

theorem stops_nameRest_fields (fs : List (String × String)) {text : List Char}
    (h : Stops (isIn nameRest) text) : Stops (isIn nameRest) (fs.flatMap fieldText ++ text) := by
  cases fs with
  | nil => exact h
  | cons f fs => exact .cons rfl

/-- An element is found if what it contains is. -/
theorem reads_element {n : String} {fs : List (String × String)} {children : List Node}
    {depth : Nat} (hn : isName n = true) (hnames : ∀ f ∈ fs, isName f.1 = true)
    (hdistinct : (fs.map Prod.fst).Nodup)
    (h : ∀ child ∈ children, Reads (item (element depth)) child.print [child.mapValues flat]) :
    Reads (element (depth + 1)) (Node.element n fs children).print
      ((Node.element n fs children).mapValues flat) := by
  rw [Node.mapValues, Node.mapAllValues_eq]
  cases children with
  | nil =>
    refine (reads_markup "<").bind (reads_name_bind hn (stops_nameRest_fields fs (.cons rfl))
      (reads_fields_bind hnames hdistinct (.cons rfl) (Reads.orElse_left ?_)))
    exact (reads_markup "/>").bind (reads_pure _)
  | cons child children =>
    rw [Node.print_cons]
    generalize child :: children = inside at h ⊢
    have hflatten : (inside.map fun child => [child.mapValues flat]).flatten =
        inside.map (Node.mapValues flat) := by
      rw [← List.flatMap_def, ← List.map_eq_flatMap]
    rw [← hflatten]
    refine (reads_markup "<").bind (reads_name_bind hn (stops_nameRest_fields fs (.cons rfl))
      (reads_fields_bind hnames hdistinct (.cons rfl) (Reads.orElse_right ?_ ?_)))
    · exact fun rest => bind_eq_none (markup_eq_none rfl)
    · refine (reads_markup ">").bind (Reads.many_flatMap_bind h
        (fun child _ => print_ne_nil child) (fun rest => item_closing depth _) ?_)
      exact (reads_markup "</").bind ((reads_markup n).bind
        (reads_spaces_bind (.cons rfl) ((reads_markup ">").bind (reads_pure _))))

theorem print_element {n : String} (hn : isName n = true) (fs : List (String × String))
    (children : List Node) : ∃ c rest, (Node.element n fs children).print = '<' :: c :: rest ∧
      c ≠ '!' ∧ c ≠ '?' := by
  obtain ⟨c, rest, hlist, hc, -⟩ := isName_iff.mp hn
  have hne : ∀ d, isIn nameStart d = false → c ≠ d := by
    rintro d hd rfl
    rw [hc] at hd
    cases hd
  rw [Node.print, hlist]
  exact ⟨c, _, rfl, hne '!' rfl, hne '?' rfl⟩

/-- Where an element begins, nothing else does. -/
theorem reads_item_element {n : String} {fs : List (String × String)} {children : List Node}
    {depth : Nat} {found : Node} (hn : isName n = true)
    (h : Reads (element depth) (Node.element n fs children).print found) :
    Reads (item (element depth)) (Node.element n fs children).print [found] := by
  obtain ⟨c, more, hprint, hbang, hquery⟩ := print_element hn fs children
  have hread := h.bind_pure fun node => [node]
  rw [hprint] at hread ⊢
  exact Reads.orElse_right (fun rest => bind_eq_none (comment_eq_none hbang _))
    (Reads.orElse_right (fun rest => bind_eq_none (instruction_eq_none hquery _))
      (Reads.orElse_right (fun rest => bind_eq_none (verbatim_eq_none hbang _))
        (Reads.orElse_left hread)))

theorem length_print_lt (n : String) (fs : List (String × String)) {children : List Node}
    {child : Node} (h : child ∈ children) :
    child.print.length < (Node.element n fs children).print.length := by
  obtain ⟨before, after, rfl⟩ := List.append_of_mem h
  simp [Node.print, Node.printAll_eq]
  omega

/-- Elements may be as deep as the text is long. -/
theorem reads_element_of_le {n : String} {fs : List (String × String)} {children : List Node}
    {depth : Nat} (hn : isName n = true) (hnames : ∀ f ∈ fs, isName f.1 = true)
    (hdistinct : (fs.map Prod.fst).Nodup)
    (h : ∀ child ∈ children, ∀ depth, child.print.length ≤ depth →
      Reads (item (element depth)) child.print [child.mapValues flat])
    (hdepth : (Node.element n fs children).print.length ≤ depth) :
    Reads (element depth) (Node.element n fs children).print
      ((Node.element n fs children).mapValues flat) := by
  cases depth with
  | zero => exact absurd (List.length_eq_zero_iff.mp (Nat.le_zero.mp hdepth)) (print_ne_nil _)
  | succ depth =>
    refine reads_element hn hnames hdistinct fun child hchild => h child hchild depth ?_
    have hshorter := length_print_lt n fs hchild
    omega

/-- What is printed is found among what an element contains. -/
theorem reads_print {node : Node} (h : node.IsWritable) :
    ∀ depth, node.print.length ≤ depth →
      Reads (item (element depth)) node.print [node.mapValues flat] := by
  induction h with
  | lineFeed =>
    intro depth _ rest
    cases depth <;> rfl
  | element hn hnames hdistinct _ ih =>
    exact fun depth hdepth =>
      reads_item_element hn (reads_element_of_le hn hnames hdistinct ih hdepth)

/-! ## Documents -/

def declarationText : String :=
  "<?xml version=\"1.0\" encoding=\"UTF-8\"?>"

def documentText (root : Node) : List Char :=
  declarationText.toList ++ ('\n' :: (root.print ++ ['\n']))

theorem reads_declaration : Reads declaration declarationText.toList () := fun _ => rfl

theorem around_print {root : Node} (h : root.IsWritable) (helement : root.isElement = true)
    (rest : List Char) : around (root.print ++ rest) = none := by
  cases h with
  | lineFeed => cases helement
  | @element n fs children hn =>
    obtain ⟨c, more, hprint, hbang, hquery⟩ := print_element hn fs children
    rw [hprint]
    exact orElse_eq_none (comment_eq_none hbang _)
      (orElse_eq_none (instruction_eq_none hquery _) rfl)

/-- One line feed stands around the root. -/
theorem many_around {rest : List Char} (hstop : around rest = none) :
    many around ('\n' :: rest) = some ([()], rest) := by
  have hline : Reads around ['\n'] () := fun _ => rfl
  show many around ([()].flatMap (fun _ => ['\n']) ++ rest) = _
  exact many_flatMap (fun _ _ => hline) (fun _ _ => List.cons_ne_nil _ _) hstop

theorem element_print {root : Node} (h : root.IsWritable) (helement : root.isElement = true)
    (rest : List Char) :
    element (root.print ++ rest).length (root.print ++ rest) =
      some (root.mapValues flat, rest) := by
  cases h with
  | lineFeed => cases helement
  | element hn hnames hdistinct hchildren =>
    exact reads_element_of_le hn hnames hdistinct
      (fun child hchild => reads_print (hchildren child hchild)) (by simp) rest

theorem document_documentText {root : Node} (h : root.IsWritable)
    (helement : root.isElement = true) :
    document (documentText root) = some (root.mapValues flat, []) := by
  have hdeclaration : (declaration <|> pure ()) (documentText root) =
      some ((), '\n' :: (root.print ++ ['\n'])) := reads_declaration.orElse_left _
  have hbefore := many_around (around_print h helement ['\n'])
  have hroot := element_print h helement ['\n']
  have hafter : many around ['\n'] = some ([()], []) := many_around rfl
  -- each part of the document takes its part of the text; the third only looks how much is left
  calc document (documentText root)
    _ = _ := bind_eq_of_eq_some hdeclaration
    _ = _ := bind_eq_of_eq_some hbefore
    _ = _ := bind_eq_of_eq_some rfl
    _ = _ := bind_eq_of_eq_some hroot
    _ = _ := bind_eq_of_eq_some hafter

theorem unifies_documentText {root : Node} (h : root.IsWritable) :
    Text.unifyLineEnds (documentText root) = documentText (root.mapValues unified) := by
  have hdeclaration : Unifies declarationText.toList declarationText.toList :=
    .of_not_mem (by decide)
  have hline : Unifies ['\n'] ['\n'] := .of_not_mem (by decide)
  have hunifies := hdeclaration.append (hline.append ((unifies_print h).append hline)) []
  simpa [documentText, Text.unifyLineEnds] using hunifies

theorem all_isChar_documentText {root : Node} (h : root.IsWritable) :
    (documentText root).all isChar = (root.values fun _ => true).all isLegal := by
  have hdeclaration : declarationText.toList.all isChar = true := by decide
  have hline : isChar '\n' = true := rfl
  simp only [documentText, List.all_append, List.all_cons, List.all_nil, all_isChar_print h,
    hdeclaration, hline, Bool.true_and, Bool.and_true]

/-- The value of an attribute as a reader finds it: line ends have become line feeds, and then white
space spaces. -/
def normalized (s : String) : String :=
  flat (unified s)

/-- What is printed is a document if XML has all characters of its values. A reader finds it with
the values normalized. -/
theorem read?_documentText {root : Node} (h : root.IsWritable) (helement : root.isElement = true) :
    read? (String.ofList (documentText root)) =
      if (root.values fun _ => true).all isLegal then some (root.mapValues normalized)
      else none := by
  have hdocument : document (documentText (root.mapValues unified)) =
      some (root.mapValues normalized, []) := by
    rw [document_documentText (h.mapValues unified) (by rwa [Node.isElement_mapValues]),
      Node.mapValues_mapValues]
    rfl
  rw [read?, String.toList_ofList, all_isChar_documentText h, unifies_documentText h, hdocument]

/-! ## Values that are found unchanged -/

theorem isSpace_flatChar {c : Char} (h : isSpace (flatChar c) = true) : flatChar c = ' ' := by
  unfold flatChar at *
  split at h
  · exact if_pos ‹_›
  · contradiction

/-- A character that is white space but no space is not left as it is. -/
theorem flatChar_eq_self_iff {c : Char} : flatChar c = c ↔ isSpace c = true → c = ' ' := by
  unfold flatChar
  by_cases h : isSpace c = true
  · simp [h, eq_comm]
  · simp [h]

theorem eq_of_isSpace {c : Char} (h : isSpace c = true) :
    c = '\t' ∨ c = '\n' ∨ c = '\r' ∨ c = ' ' := by
  have hnumber : c.toNat = 9 ∨ c.toNat = 10 ∨ c.toNat = 13 ∨ c.toNat = 32 := by
    simp only [isSpace, isIn, List.any_cons, List.any_nil, Bool.or_eq_true, Bool.and_eq_true,
      decide_eq_true_eq, Bool.or_false] at h
    omega
  rw [← Char.ofNat_toNat c]
  rcases hnumber with hn | hn | hn | hn <;> rw [hn] <;> decide

/-- A value is found as it is unless there is white space in it other than spaces. -/
theorem normalized_eq_self_iff {s : String} :
    normalized s = s ↔ '\t' ∉ s.toList ∧ '\n' ∉ s.toList ∧ '\r' ∉ s.toList := by
  constructor
  · intro h
    have hspace : ∀ c ∈ s.toList, isSpace c = true → c = ' ' := by
      rw [← h]
      simp only [normalized, flat, String.toList_ofList, List.forall_mem_map]
      exact fun c _ hc => isSpace_flatChar hc
    have hnot : ∀ c, isSpace c = true → c ≠ ' ' → c ∉ s.toList := fun c hc hne hmem =>
      hne (hspace c hmem hc)
    exact ⟨hnot '\t' rfl (by decide), hnot '\n' rfl (by decide), hnot '\r' rfl (by decide)⟩
  · rintro ⟨htab, hlf, hcr⟩
    have hunified : unified s = s := by
      have hs := Unifies.of_not_mem hcr []
      rw [List.append_nil, Text.unifyLineEnds, List.append_nil] at hs
      rw [unified, hs, String.ofList_toList]
    have hflat : s.toList.map flatChar = s.toList := by
      refine (List.map_congr_left fun c hc => ?_).trans (List.map_id _)
      refine flatChar_eq_self_iff.mpr fun hspace => ?_
      rcases eq_of_isSpace hspace with rfl | rfl | rfl | rfl
      · exact absurd hc htab
      · exact absurd hc hlf
      · exact absurd hc hcr
      · rfl
    rw [normalized, hunified, flat, hflat, String.ofList_toList]

end ProgramTags.Xml
