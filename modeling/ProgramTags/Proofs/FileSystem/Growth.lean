import Mathlib.Data.List.Perm.Subperm
import Mathlib.Order.Defs.Unbundled
import ProgramTags.Proofs.FileSystem.Find

/-!
# File systems that grow

`Grows fs gs` says that nothing of `fs` is lost in `gs`: directories and links stay, files stay
files, whatever they hold, and what is new is no link. A path that leads somewhere in `fs` leads to
the same place in `gs`, and a path that resolves in `gs` resolves in `fs` to the same location.
-/

namespace ProgramTags.FileSystem

theorem get?_put_of_ne {loc loc' : Location} (fs : FileSystem) (e : Entry) (h : loc' ≠ loc) :
    (fs.put loc e).get? loc' = fs.get? loc' := by
  simp [get?, put, lookup_putEntry, h]

/-- `gs` has all that `fs` has, though files may hold something else, and no other links. -/
structure Grows (fs gs : FileSystem) : Prop where
  workdir : gs.workdir = fs.workdir
  directory : ∀ {loc}, fs.get? loc = some .directory → gs.get? loc = some .directory
  file : ∀ {loc bytes}, fs.get? loc = some (.file bytes) →
    ∃ bytes', gs.get? loc = some (.file bytes')
  link : ∀ {loc target}, gs.get? loc = some (.link target) ↔ fs.get? loc = some (.link target)

namespace Grows

theorem refl (fs : FileSystem) : Grows fs fs := ⟨rfl, id, fun h => ⟨_, h⟩, Iff.rfl⟩

theorem trans {fs gs hs : FileSystem} (h₁ : Grows fs gs) (h₂ : Grows gs hs) : Grows fs hs where
  workdir := h₂.workdir.trans h₁.workdir
  directory h := h₂.directory (h₁.directory h)
  file h := by
    obtain ⟨bytes, h⟩ := h₁.file h
    exact h₂.file h
  link := h₂.link.trans h₁.link

theorem start_eq {fs gs : FileSystem} (h : Grows fs gs) (root : PathRoot) :
    gs.start root = fs.start root := by
  rw [start, start, h.workdir]

/-- Where there is nothing now, there has been nothing. -/
theorem nothing_before {fs gs : FileSystem} {loc : Location} (h : Grows fs gs)
    (hloc : gs.get? loc = none) : fs.get? loc = none := by
  cases hget : fs.get? loc with
  | none => rfl
  | some e =>
    cases e with
    | directory => rw [h.directory hget] at hloc; cases hloc
    | file bytes =>
      obtain ⟨bytes', hget'⟩ := h.file hget
      rw [hget'] at hloc
      cases hloc
    | link target => rw [h.link.mpr hget] at hloc; cases hloc

/-- Where there is a file now, there has been a file or nothing. -/
theorem file_before {fs gs : FileSystem} {loc : Location} (h : Grows fs gs)
    (hloc : ∃ bytes, gs.get? loc = some (.file bytes)) :
    fs.get? loc = none ∨ ∃ bytes, fs.get? loc = some (.file bytes) := by
  obtain ⟨bytes, hloc⟩ := hloc
  cases hget : fs.get? loc with
  | none => exact .inl rfl
  | some e =>
    cases e with
    | directory => rw [h.directory hget] at hloc; cases hloc
    | file old => exact .inr ⟨old, rfl⟩
    | link target => rw [h.link.mpr hget] at hloc; cases hloc

/-- A directory may be put where there is nothing. -/
theorem put_directory {fs : FileSystem} {loc : Location} (hloc : fs.get? loc = none) :
    Grows fs (fs.put loc .directory) := by
  have hne : loc ≠ [] := by
    rintro rfl
    cases hloc
  refine ⟨rfl, ?_, ?_, ?_⟩ <;> intro l <;> by_cases hl : l = loc <;>
    simp_all [get?_put fs hne]

end Grows

instance : IsPreorder FileSystem Grows where
  refl := Grows.refl
  trans _ _ _ := Grows.trans

/-! ## Finding -/

/-- What is found after the file system has become `fs`. -/
def Found.now (fs : FileSystem) : Found → Found
  | .entry loc (.file bytes) => .entry loc ((fs.get? loc).getD (.file bytes))
  | .missing loc =>
    match fs.get? loc with
    | some e => .entry loc e
    | none => .missing loc
  | found => found

/-- What the second result is if the first was there before: the same refusal, unless it was that
there was no entry, or the same place. -/
def Stays (fs : FileSystem) : Except Refusal Found → Except Refusal Found → Prop
  | .ok found, after => after = .ok (found.now fs)
  | .error .noEntry, _ => True
  | .error why, after => after = .error why

variable {fs gs : FileSystem}

theorem findPieces_grows {purpose : Purpose}
    {onLink onLink' : Location → List String → Except Refusal Found} (h : Grows fs gs)
    (hl : ∀ loc pieces, Stays gs (onLink loc pieces) (onLink' loc pieces)) (loc : Location)
    (pieces : List String) :
    Stays gs (fs.findPieces purpose onLink loc pieces)
      (gs.findPieces purpose onLink' loc pieces) := by
  induction pieces generalizing loc with
  | nil => rfl
  | cons name rest ih =>
    unfold findPieces
    by_cases hidle : Path.isIdle name
    · simpa only [hidle, if_true] using ih loc
    by_cases hup : name = ".."
    · subst hup
      exact ih loc.dropLast
    by_cases hslash : purpose = .write ∧ isSlashed rest
    · simp only [hidle, hup, hslash, Bool.false_eq_true, if_true, if_false, and_self]
      rfl
    by_cases hlong : nameLimit < name.utf8ByteSize
    · simp only [hidle, hup, hslash, hlong, Bool.false_eq_true, if_true, if_false]
      rfl
    simp only [hidle, hup, hslash, hlong, Bool.false_eq_true, if_false]
    cases hget : fs.get? (loc ++ [name]) with
    | none =>
      by_cases hrest : rest.isEmpty
      · rw [List.isEmpty_iff] at hrest
        subst hrest
        cases hget' : gs.get? (loc ++ [name]) with
        | none => simp [Stays, Found.now, hget']
        | some e =>
          cases e with
          | directory => simp [Stays, Found.now, hget', findPieces]
          | file bytes => simp [Stays, Found.now, hget']
          | link target => rw [h.link, hget] at hget'; cases hget'
      · simp [Stays, hrest]
    | some e =>
      cases e with
      | directory => simpa only [h.directory hget] using ih (loc ++ [name])
      | file bytes =>
        obtain ⟨bytes', hget'⟩ := h.file hget
        by_cases hrest : rest.isEmpty <;> simp [Stays, Found.now, hget', hrest]
      | link target =>
        simp only [h.link.mpr hget]
        by_cases hentry : rest.isEmpty ∧ purpose = .entry
        · simp only [hentry, if_true, and_self]
          rfl
        · simpa only [hentry, if_false] using hl _ _

theorem findWithin_grows (h : Grows fs gs) (purpose : Purpose) (links : Nat) (loc : Location)
    (pieces : List String) :
    Stays gs (fs.findWithin purpose links loc pieces) (gs.findWithin purpose links loc pieces) := by
  induction links generalizing loc pieces with
  | zero =>
    have hend : Stays gs (.error .tooManyLinks) (.error .tooManyLinks) := rfl
    exact findPieces_grows h (fun _ _ => hend) loc pieces
  | succ links ih => exact findPieces_grows h ih loc pieces

/-- A path still leads to the place that it has led to. -/
theorem find_grows {p : Path} {purpose : Purpose} {found : Found} (h : Grows fs gs)
    (hf : fs.find p purpose = .ok found) : gs.find p purpose = .ok (found.now gs) := by
  obtain ⟨hnull, hlong, hf⟩ := find_eq_ok.mp hf
  have hstay := findWithin_grows h purpose linkLimit (fs.start p.root) p.names
  rw [hf] at hstay
  rw [find_eq_ok, h.start_eq]
  exact ⟨hnull, hlong, hstay⟩

/-- A path that leads through too many links still does. -/
theorem find_grows_tooManyLinks {p : Path} {purpose : Purpose} {path : String} (h : Grows fs gs)
    (hf : fs.find p purpose = .error (.refused .tooManyLinks path)) :
    gs.find p purpose = .error (.refused .tooManyLinks path) := by
  obtain ⟨hnull, hlong, hpath, hf⟩ := find_eq_tooManyLinks.mp hf
  have hstay := findWithin_grows h purpose linkLimit (fs.start p.root) p.names
  rw [hf] at hstay
  rw [find_eq_tooManyLinks, h.start_eq]
  exact ⟨hnull, hlong, hpath, hstay⟩

/-! ## Resolving -/

/-- `opened` are links, each once, and there is room to follow all others within them. -/
structure Following (fs : FileSystem) (depth : Nat) (opened : List Location) : Prop where
  nodup : opened.Nodup
  link : ∀ loc ∈ opened, ∃ target, fs.get? loc = some (.link target)
  room : fs.entries.length ≤ opened.length + depth

theorem Following.start (fs : FileSystem) : Following fs fs.entries.length [] :=
  ⟨List.nodup_nil, by simp, by simp⟩

theorem mem_entries_of_get? {loc : Location} {target : String}
    (h : fs.get? loc = some (.link target)) : loc ∈ fs.entries.map Prod.fst := by
  unfold get? at h
  split at h
  · cases h
  · obtain ⟨before, after, hentries, -⟩ := List.lookup_eq_some_iff.mp h
    rw [hentries]
    simp

/-- One more link can be followed. -/
theorem Following.next {depth : Nat} {opened : List Location} (h : Following fs depth opened)
    {loc : Location} {target : String} (hloc : fs.get? loc = some (.link target))
    (hnew : loc ∉ opened) : ∃ d, depth = d + 1 ∧ Following fs d (loc :: opened) := by
  have hnodup : (loc :: opened).Nodup := List.nodup_cons.mpr ⟨hnew, h.nodup⟩
  have hlink : ∀ l ∈ loc :: opened, ∃ target, fs.get? l = some (.link target) := by
    intro l hl
    rcases List.mem_cons.mp hl with rfl | hl
    · exact ⟨target, hloc⟩
    · exact h.link l hl
  have hsub : loc :: opened ⊆ fs.entries.map Prod.fst := by
    intro l hl
    obtain ⟨target, hl⟩ := hlink l hl
    exact mem_entries_of_get? hl
  have hlen := (hnodup.subperm hsub).length_le
  have hroom := h.room
  rw [List.length_map, List.length_cons] at hlen
  refine ⟨depth - 1, by omega, hnodup, hlink, ?_⟩
  rw [List.length_cons]
  omega

/-- How a link is followed when links may nest `depth` deep. -/
def follow (fs : FileSystem) : Nat → List Location → Location → List String → Resolved
  | 0 => fun _ loc pieces => ⟨goLexically loc pieces, false⟩
  | depth + 1 => fs.resolveWithin depth

theorem resolveWithin_eq (fs : FileSystem) (depth : Nat) (opened : List Location) (loc : Location)
    (pieces : List String) : fs.resolveWithin depth opened loc pieces =
      fs.resolvePieces opened (fs.follow depth) loc pieces := by
  cases depth <;> rfl

section

variable {opened : List Location} {onLink : List Location → Location → List String → Resolved}
  {loc : Location} {name : String} {rest : List String}

theorem resolvePieces_idle (hidle : Path.isIdle name) :
    fs.resolvePieces opened onLink loc (name :: rest) =
      fs.resolvePieces opened onLink loc rest := by
  simp [resolvePieces, hidle]

theorem resolvePieces_up : fs.resolvePieces opened onLink loc (".." :: rest) =
    fs.resolvePieces opened onLink loc.dropLast rest := by
  simp [resolvePieces, isIdle_dots]

theorem resolvePieces_plain (hidle : ¬Path.isIdle name) (hup : name ≠ "..")
    (hlink : ∀ target, fs.get? (loc ++ [name]) ≠ some (.link target)) :
    fs.resolvePieces opened onLink loc (name :: rest) =
      fs.resolvePieces opened onLink (loc ++ [name]) rest := by
  rw [resolvePieces, if_neg hidle, if_neg hup]
  split
  · rename_i target htarget
    exact absurd htarget (hlink target)
  · rfl

theorem resolvePieces_link {target : String} (hidle : ¬Path.isIdle name) (hup : name ≠ "..")
    (hlink : fs.get? (loc ++ [name]) = some (.link target)) :
    fs.resolvePieces opened onLink loc (name :: rest) =
      if loc ++ [name] ∈ opened then ⟨goOn (loc ++ [name]) rest, false⟩
      else
        let r := onLink ((loc ++ [name]) :: opened) (targetStart loc target) (Path.piecesOf target)
        if r.whole then fs.resolvePieces opened onLink r.loc rest
        else ⟨goOn r.loc rest, false⟩ := by
  rw [resolvePieces]
  simp only [hidle, hup, hlink, Bool.false_eq_true, if_false]

end

theorem resolvePieces_grows {opened : List Location}
    {onLink onLink' : List Location → Location → List String → Resolved} (h : Grows fs gs)
    (hl : ∀ next target, fs.get? next = some (.link target) → next ∉ opened → ∀ loc pieces,
      onLink (next :: opened) loc pieces = onLink' (next :: opened) loc pieces)
    (loc : Location) (pieces : List String) :
    fs.resolvePieces opened onLink loc pieces = gs.resolvePieces opened onLink' loc pieces := by
  induction pieces generalizing loc with
  | nil => rfl
  | cons name rest ih =>
    by_cases hidle : Path.isIdle name
    · rw [resolvePieces_idle hidle, resolvePieces_idle hidle, ih]
    by_cases hup : name = ".."
    · rw [hup, resolvePieces_up, resolvePieces_up, ih]
    by_cases hlink : ∃ target, fs.get? (loc ++ [name]) = some (.link target)
    · obtain ⟨target, hlink⟩ := hlink
      rw [resolvePieces_link hidle hup hlink, resolvePieces_link hidle hup (h.link.mpr hlink)]
      by_cases hmem : loc ++ [name] ∈ opened
      · rw [if_pos hmem, if_pos hmem]
      · simp only [hmem, if_false, hl _ _ hlink hmem, ih]
    · have hplain : ∀ target, fs.get? (loc ++ [name]) ≠ some (.link target) :=
        fun target ht => hlink ⟨target, ht⟩
      rw [resolvePieces_plain hidle hup hplain, ih,
        resolvePieces_plain hidle hup fun target ht => hplain target (h.link.mp ht)]

/-- Where pieces lead depends on the links alone. -/
theorem resolveWithin_grows (h : Grows fs gs) {depth depth' : Nat} {opened : List Location}
    (hd : Following fs depth opened) (hd' : Following gs depth' opened) (loc : Location)
    (pieces : List String) :
    fs.resolveWithin depth opened loc pieces = gs.resolveWithin depth' opened loc pieces := by
  rw [resolveWithin_eq, resolveWithin_eq]
  refine resolvePieces_grows h ?_ loc pieces
  intro next target hlink hnew loc pieces
  obtain ⟨d, hdepth, hnext⟩ := hd.next hlink hnew
  obtain ⟨d', hdepth', hnext'⟩ := hd'.next (h.link.mpr hlink) hnew
  rw [hdepth, hdepth']
  exact resolveWithin_grows h hnext hnext' loc pieces
termination_by depth

/-- A path that resolves has resolved to the same location before. -/
theorem resolve_of_grows {p : Path} {loc : Location} (h : Grows fs gs)
    (hr : gs.resolve p = .ok loc) : fs.resolve p = .ok loc := by
  obtain ⟨hnull, hloc, hloop⟩ := resolve_eq_ok.mp hr
  rw [h.start_eq, ← resolveWithin_grows h (.start fs) (.start gs)] at hloc
  refine resolve_eq_ok.mpr ⟨hnull, hloc, fun path hpath => ?_⟩
  exact hloop path (find_grows_tooManyLinks h hpath)

end ProgramTags.FileSystem
