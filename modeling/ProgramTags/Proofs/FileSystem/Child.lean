import ProgramTags.Proofs.FileSystem.Growth

/-!
# Paths with one more name

A directory that resolves and one more name resolve to the location of the directory and the name,
whatever links, double dots and missing names the path of the directory has (`resolve_child`). Only
a link under the name itself can lead elsewhere.
-/

namespace ProgramTags

/-- The path has no empty name and no single dot. -/
def Path.IsProper (p : Path) : Prop :=
  ∀ name ∈ p.names, ¬Path.isIdle name

theorem Path.ofText_isProper (s : String) : (Path.ofText s).IsProper := by
  intro name hname
  simpa using (List.mem_filter.mp hname).2

namespace FileSystem

/-- The location is that of a link, or leads to one by its names. These may be names of links
themselves: behind a link that is left as it is, a path is resolved by its names alone. -/
def IsLinked (fs : FileSystem) (loc : Location) : Prop :=
  (∃ target, fs.get? loc = some (.link target)) ∨
    ∃ l target, fs.find (.ofLocation loc) .entry = .ok (.entry l (.link target))

variable {fs : FileSystem} {loc : Location} {name : String} {pieces : List String}

theorem not_isLinked {e : FileError} (hget : fs.get? loc = none)
    (hfind : fs.find (.ofLocation loc) .entry = .error e) : ¬fs.IsLinked loc := by
  rintro (⟨target, h⟩ | ⟨l, target, h⟩)
  · rw [hget] at h
    cases h
  · rw [hfind] at h
    cases h

/-! ## Resolving -/

theorem goOn_eq (hpieces : ∀ piece ∈ pieces, ¬Path.isIdle piece) :
    goOn loc pieces = goLexically loc pieces := by
  unfold goOn
  split
  · exact absurd (by decide) (hpieces "" List.mem_cons_self)
  · rfl

theorem goOn_concat (hpieces : ∀ piece ∈ pieces, ¬Path.isIdle piece) (hidle : ¬Path.isIdle name)
    (hup : name ≠ "..") : goOn loc (pieces ++ [name]) = goOn loc pieces ++ [name] := by
  have hall : ∀ piece ∈ pieces ++ [name], ¬Path.isIdle piece := by
    intro piece hpiece
    rcases List.mem_append.mp hpiece with hpiece | hpiece
    · exact hpieces piece hpiece
    · rwa [List.mem_singleton.mp hpiece]
  rw [goOn_eq hall, goOn_eq hpieces]
  simp [goLexically, hidle, hup]

/-- One more name is resolved where the pieces before it lead to. -/
theorem resolvePieces_concat {opened : List Location}
    {onLink : List Location → Location → List String → Resolved}
    (hpieces : ∀ piece ∈ pieces, ¬Path.isIdle piece) (hidle : ¬Path.isIdle name)
    (hup : name ≠ "..")
    (hlink : ∀ target, fs.get? ((fs.resolvePieces opened onLink loc pieces).loc ++ [name]) ≠
      some (.link target)) :
    fs.resolvePieces opened onLink loc (pieces ++ [name]) =
      ⟨(fs.resolvePieces opened onLink loc pieces).loc ++ [name],
        (fs.resolvePieces opened onLink loc pieces).whole⟩ := by
  induction pieces generalizing loc with
  | nil => exact resolvePieces_plain hidle hup hlink
  | cons piece rest ih =>
    obtain ⟨hpiece, hrest⟩ := List.forall_mem_cons.mp hpieces
    rw [List.cons_append]
    by_cases hdots : piece = ".."
    · subst hdots
      rw [resolvePieces_up] at hlink ⊢
      rw [resolvePieces_up]
      exact ih hrest hlink
    by_cases hto : ∃ target, fs.get? (loc ++ [piece]) = some (.link target)
    · obtain ⟨target, hto⟩ := hto
      rw [resolvePieces_link hpiece hdots hto] at hlink ⊢
      rw [resolvePieces_link hpiece hdots hto]
      by_cases hopened : loc ++ [piece] ∈ opened
      · simp only [hopened, if_true, goOn_concat hrest hidle hup]
      · simp only [hopened, if_false] at hlink ⊢
        generalize onLink ((loc ++ [piece]) :: opened) (targetStart loc target)
          (Path.piecesOf target) = r at hlink ⊢
        cases hwhole : r.whole with
        | true =>
          simp only [hwhole, if_true] at hlink ⊢
          exact ih hrest hlink
        | false => simp [goOn_concat hrest hidle hup]
    · have hplain : ∀ target, fs.get? (loc ++ [piece]) ≠ some (.link target) :=
        fun target ht => hto ⟨target, ht⟩
      rw [resolvePieces_plain hpiece hdots hplain] at hlink ⊢
      rw [resolvePieces_plain hpiece hdots hplain]
      exact ih hrest hlink

/-! ## Finding -/

/-- If pieces and one more name lead through too many links, the pieces alone do, or there is a link
under the name. `onEntry` and `onBefore` go on from a link as `onVisit` does, the latter without the
name. -/
theorem findPieces_concat_loop {onVisit onEntry onBefore : Location → List String →
      Except Refusal Found}
    (hl : ∀ loc pieces, onVisit loc (pieces ++ [name]) = .error .tooManyLinks →
      onBefore loc pieces = .error .tooManyLinks ∨
        ∃ l target, onEntry loc (pieces ++ [name]) = .ok (.entry l (.link target)))
    (h : fs.findPieces .visit onVisit loc (pieces ++ [name]) = .error .tooManyLinks) :
    fs.findPieces .visit onBefore loc pieces = .error .tooManyLinks ∨
      ∃ l target, fs.findPieces .entry onEntry loc (pieces ++ [name]) =
        .ok (.entry l (.link target)) := by
  induction pieces generalizing loc with
  | nil =>
    right
    rw [List.nil_append] at h ⊢
    unfold findPieces at h ⊢
    by_cases hidle : Path.isIdle name
    · simp [hidle, findPieces] at h
    by_cases hup : name = ".."
    · simp [hup, isIdle_dots, findPieces] at h
    by_cases hlong : nameLimit < name.utf8ByteSize
    · simp [hidle, hup, hlong] at h
    cases hget : fs.get? (loc ++ [name]) with
    | none => simp [hidle, hup, hlong, hget] at h
    | some e =>
      cases e with
      | directory => simp [hidle, hup, hlong, hget, findPieces] at h
      | file bytes => simp [hidle, hup, hlong, hget] at h
      | link target => exact ⟨loc ++ [name], target, by simp [hidle, hup, hlong, hget]⟩
  | cons piece rest ih =>
    rw [List.cons_append] at h ⊢
    unfold findPieces at h ⊢
    by_cases hidle : Path.isIdle piece
    · simp only [hidle, if_true] at h ⊢
      exact ih h
    by_cases hup : piece = ".."
    · simp only [hup, isIdle_dots, Bool.false_eq_true, if_false, if_true] at h ⊢
      exact ih h
    by_cases hlong : nameLimit < piece.utf8ByteSize
    · simp [hidle, hup, hlong] at h
    cases hget : fs.get? (loc ++ [piece]) with
    | none => simp [hidle, hup, hlong, hget] at h
    | some e =>
      cases e with
      | directory =>
        simp [hidle, hup, hlong, hget] at h ⊢
        exact ih h
      | file bytes => simp [hidle, hup, hlong, hget] at h
      | link target =>
        simp [hidle, hup, hlong, hget] at h ⊢
        rw [← List.append_assoc] at h ⊢
        exact hl _ _ h

theorem findWithin_concat_loop {links : Nat}
    (h : fs.findWithin .visit links loc (pieces ++ [name]) = .error .tooManyLinks) :
    fs.findWithin .visit links loc pieces = .error .tooManyLinks ∨
      ∃ l target, fs.findWithin .entry links loc (pieces ++ [name]) =
        .ok (.entry l (.link target)) := by
  induction links generalizing loc pieces with
  | zero => exact findPieces_concat_loop (fun _ _ _ => .inl rfl) h
  | succ links ih => exact findPieces_concat_loop (fun _ _ => ih) h

theorem hasNull_child (p : Path) (name : String) :
    hasNull (p.child name) = (hasNull p || name.toList.contains '\x00') := by
  rw [hasNull, Path.child, List.any_append, List.any_cons, List.any_nil, Bool.or_false]
  rfl

/-- The path of a location is no longer without the last name. -/
theorem utf8ByteSize_ofLocation_le (loc : Location) (name : String) :
    (Path.ofLocation loc).text.utf8ByteSize ≤
      (Path.ofLocation (loc ++ [name])).text.utf8ByteSize := by
  by_cases hloc : loc = []
  · simp [hloc, Path.ofLocation, Path.text]
  · have hname := String.intercalate_append_of_ne_nil (s := "/") hloc (List.cons_ne_nil name [])
    simp [Path.ofLocation, Path.text, hname]
    omega

/-- A location that leads through too many links does so by the names before the last one, or is
linked. -/
theorem find_concat_loop {path : String}
    (h : fs.find (.ofLocation (loc ++ [name])) = .error (.refused .tooManyLinks path)) :
    (∃ path', fs.find (.ofLocation loc) = .error (.refused .tooManyLinks path')) ∨
      fs.IsLinked (loc ++ [name]) := by
  obtain ⟨hnull, hlong, -, h⟩ := find_eq_tooManyLinks.mp h
  rcases findWithin_concat_loop h with h | ⟨l, target, h⟩
  · have hnull' : hasNull (.ofLocation loc) = false :=
      (Bool.or_eq_false_iff.mp ((hasNull_child (.ofLocation loc) name).symm.trans hnull)).1
    have hlong' := Nat.lt_of_le_of_lt (utf8ByteSize_ofLocation_le loc name) hlong
    exact .inl ⟨_, find_eq_tooManyLinks.mpr ⟨hnull', hlong', rfl, h⟩⟩
  · exact .inr (.inr ⟨l, target, find_eq_ok.mpr ⟨hnull, hlong, h⟩⟩)

/-! ## Resolving a path with one more name -/

theorem resolve_child {p : Path} (hp : p.IsProper) (hresolve : fs.resolve p = .ok loc)
    (hidle : ¬Path.isIdle name) (hup : name ≠ "..") (hnull : '\x00' ∉ name.toList)
    (hlink : ¬fs.IsLinked (loc ++ [name])) : fs.resolve (p.child name) = .ok (loc ++ [name]) := by
  obtain ⟨hnull', hloc, hloop⟩ := resolve_eq_ok.mp hresolve
  rw [resolveWithin_eq] at hloc
  have hplain : ∀ target, fs.get? (loc ++ [name]) ≠ some (.link target) :=
    fun target ht => hlink (.inl ⟨target, ht⟩)
  refine resolve_eq_ok.mpr ⟨?_, ?_, ?_⟩
  · rw [hasNull_child, hnull']
    simpa using hnull
  · have hconcat : fs.resolvePieces [] (fs.follow fs.entries.length) (fs.start p.root)
        (p.names ++ [name]) = ⟨_, _⟩ := resolvePieces_concat hp hidle hup (by rwa [hloc])
    rw [resolveWithin_eq]
    exact (congrArg Resolved.loc hconcat).trans (by rw [hloc])
  · intro path hfind
    rcases find_concat_loop hfind with ⟨path', h⟩ | h
    · exact hloop path' h
    · exact hlink h

end FileSystem

end ProgramTags
