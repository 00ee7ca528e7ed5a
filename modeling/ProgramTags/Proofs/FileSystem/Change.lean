import ProgramTags.Proofs.Ends
import ProgramTags.Proofs.FileSystem.Walk

/-!
# Contained changes

`Rewrites loc fs gs`: only the file at `loc` is made or changed. `Change directory writable fs gs
loc` lists what may become of a location where files may be written at some locations and
`directory` may be made, and `Contained` says that nothing else has happened anywhere. Contained
changes in a row are contained.
-/

namespace ProgramTags

/-- The path is `p` or one above it. -/
def Path.IsOnWayTo (q p : Path) : Prop :=
  q.root = p.root ∧ q.names <+: p.names

theorem Path.isOnWayTo_self (p : Path) : p.IsOnWayTo p := ⟨rfl, List.prefix_rfl⟩

theorem Path.IsOnWayTo.parent {q p : Path} (h : q.IsOnWayTo p) : q.parent.IsOnWayTo p :=
  ⟨h.1, (List.dropLast_prefix q.names).trans h.2⟩

namespace FileSystem

/-- Only the file at `loc` is made or changed. -/
structure Rewrites (loc : Location) (fs gs : FileSystem) : Prop where
  workdir : gs.workdir = fs.workdir
  before : fs.get? loc = none ∨ ∃ bytes, fs.get? loc = some (.file bytes)
  after : ∃ bytes, gs.get? loc = some (.file bytes)
  elsewhere : ∀ l, l ≠ loc → gs.get? l = fs.get? l

namespace Rewrites

variable {loc : Location} {fs gs hs : FileSystem}

theorem ne_nil (h : Rewrites loc fs gs) : loc ≠ [] := by
  rintro rfl
  obtain ⟨bytes, hafter⟩ := h.after
  cases hafter

theorem put {bytes : List UInt8}
    (h : fs.get? loc = none ∨ ∃ bytes, fs.get? loc = some (.file bytes)) :
    Rewrites loc fs (fs.put loc (.file bytes)) := by
  have hne : loc ≠ [] := by
    rintro rfl
    rcases h with h | ⟨bytes, h⟩ <;> cases h
  refine ⟨rfl, h, ⟨bytes, ?_⟩, fun l hl => ?_⟩
  · rw [get?_put fs hne, if_pos rfl]
  · rw [get?_put fs hne, if_neg hl]

theorem refl {bytes : List UInt8} (h : fs.get? loc = some (.file bytes)) : Rewrites loc fs fs :=
  ⟨rfl, .inr ⟨bytes, h⟩, ⟨bytes, h⟩, fun _ _ => rfl⟩

theorem trans (h : Rewrites loc fs gs) (h' : Rewrites loc gs hs) : Rewrites loc fs hs :=
  ⟨h'.workdir.trans h.workdir, h.before, h'.after,
    fun l hl => (h'.elsewhere l hl).trans (h.elsewhere l hl)⟩

theorem grows (h : Rewrites loc fs gs) : Grows fs gs := by
  obtain ⟨hworkdir, hbefore, ⟨bytes, hafter⟩, helse⟩ := h
  refine ⟨hworkdir, ?_, ?_, ?_⟩ <;> intro l
  · by_cases hl : l = loc
    · subst hl
      intro hd
      rcases hbefore with hb | ⟨old, hb⟩ <;> rw [hb] at hd <;> cases hd
    · rw [helse l hl]
      exact id
  · by_cases hl : l = loc
    · subst hl
      exact fun _ => ⟨bytes, hafter⟩
    · rw [helse l hl]
      exact fun hf => ⟨_, hf⟩
  · by_cases hl : l = loc
    · subst hl
      rcases hbefore with hb | ⟨old, hb⟩ <;> simp [hb, hafter]
    · rw [helse l hl]

end Rewrites

/-- What may become of a location: nothing, a file that may be written, or a directory that was
missing on the way to `directory`. -/
inductive Change (directory : Path) (writable : Location → Prop) (fs gs : FileSystem)
    (loc : Location) : Prop
  | same (h : gs.get? loc = fs.get? loc)
  | file (hw : writable loc)
      (before : fs.get? loc = none ∨ ∃ bytes, fs.get? loc = some (.file bytes))
      (after : ∃ bytes, gs.get? loc = some (.file bytes))
  | directory (q : Path) (hq : q.IsOnWayTo directory) (before : fs.get? loc = none)
      (after : gs.get? loc = some .directory) (hfind : gs.find q = .ok (.entry loc .directory))

/-- Nothing but what `Change` allows has happened. -/
structure Contained (directory : Path) (writable : Location → Prop) (fs gs : FileSystem) :
    Prop where
  grows : Grows fs gs
  change : ∀ loc, Change directory writable fs gs loc

namespace Contained

variable {directory : Path} {writable : Location → Prop} {fs gs hs : FileSystem} {loc : Location}

theorem refl (directory : Path) (writable : Location → Prop) (fs : FileSystem) :
    Contained directory writable fs fs :=
  ⟨.refl fs, fun _ => .same rfl⟩

theorem trans (h : Contained directory writable fs gs) (h' : Contained directory writable gs hs) :
    Contained directory writable fs hs := by
  refine ⟨h.grows.trans h'.grows, fun loc => ?_⟩
  cases h'.change loc with
  | same hsame =>
    cases h.change loc with
    | same hsame' => exact .same (hsame.trans hsame')
    | file hw before after => exact .file hw before (by rwa [hsame])
    | directory q hq before after hfind =>
      exact .directory q hq before (by rwa [hsame]) (find_grows h'.grows hfind)
  | file hw before after =>
    exact .file hw ((h.grows.trans h'.grows).file_before after) after
  | directory q hq before after hfind =>
    exact .directory q hq (h.grows.nothing_before before) after hfind

instance : IsPreorder FileSystem (Contained directory writable) where
  refl := Contained.refl directory writable
  trans _ _ _ := Contained.trans

theorem mono {writable' : Location → Prop} (h : Contained directory writable fs gs)
    (hw : ∀ loc, writable loc → writable' loc) : Contained directory writable' fs gs := by
  refine ⟨h.grows, fun loc => ?_⟩
  cases h.change loc with
  | same hsame => exact .same hsame
  | file hloc before after => exact .file (hw loc hloc) before after
  | directory q hq before after hfind => exact .directory q hq before after hfind

/-- A file that may not be written holds what it held. -/
theorem file_stays {bytes : List UInt8} (h : Contained directory writable fs gs)
    (hloc : fs.get? loc = some (.file bytes)) (hw : ¬writable loc) :
    gs.get? loc = some (.file bytes) := by
  cases h.change loc with
  | same hsame => rwa [hsame]
  | file hw' => exact absurd hw' hw
  | directory _ _ before => rw [hloc] at before; cases before

/-- A file that may be written is written. -/
theorem of_rewrites (h : Rewrites loc fs gs) (hw : writable loc) :
    Contained directory writable fs gs := by
  refine ⟨h.grows, fun l => ?_⟩
  by_cases hl : l = loc
  · subst hl
    exact .file hw h.before h.after
  · exact .same (h.elsewhere l hl)

/-- A directory that is missing is made. -/
theorem of_directory {q : Path} {purpose : Purpose} (hq : q.IsOnWayTo directory)
    (hfind : fs.find q purpose = .ok (.missing loc)) :
    Contained directory writable fs (fs.put loc .directory) := by
  have hnone : fs.get? loc = none := find_isAt hfind
  have hne : loc ≠ [] := by
    rintro rfl
    cases hnone
  have hgrows := Grows.put_directory hnone
  refine ⟨hgrows, fun l => ?_⟩
  by_cases hl : l = loc
  · subst hl
    have hnow : (fs.put l .directory).get? l = some .directory := by
      rw [get?_put fs hne, if_pos rfl]
    refine .directory q hq hnone hnow ?_
    rw [find_grows hgrows (find_visit (.missing l) hfind)]
    simp only [Found.now, hnow]
  · exact .same (get?_put_of_ne fs _ hl)

end Contained

end FileSystem

/-! ## Steps -/

namespace Files

open FileSystem

variable {α : Type} {fs : FileSystem}

/-- Looking changes nothing. -/
theorem look_ends (f : FileSystem → Except FileError α) (fs : FileSystem) :
    Ends (look f) fs (fun a gs => gs = fs ∧ f fs = .ok a)
      fun e gs => gs = fs ∧ f fs = .error e := by
  refine Ends.bind (Ends.get ?_)
  cases f fs with
  | ok a => exact Ends.pure ⟨rfl, rfl⟩
  | error e => exact Ends.throw ⟨rfl, rfl⟩

theorem look_moves {R : FileSystem → FileSystem → Prop} [IsPreorder FileSystem R]
    (f : FileSystem → Except FileError α) : Moves R (look f) := by
  intro fs
  refine (look_ends f fs).mono ?_ ?_
  · rintro a gs ⟨rfl, -⟩
    exact refl gs
  · rintro e gs ⟨rfl, -⟩
    exact refl gs

variable {directory : Path} {writable : Location → Prop}

theorem makeDirectory_contained {q : Path} (hq : q.IsOnWayTo directory) :
    Moves (Contained directory writable) (makeDirectory q) := by
  intro fs
  refine Ends.bind ((look_ends _ fs).mono ?_ ?_)
  · rintro found gs ⟨rfl, hfind⟩
    cases found with
    | missing loc => exact Ends.modify (.of_directory hq hfind)
    | entry loc e => exact Ends.throw (.refl directory writable gs)
  · rintro e gs ⟨rfl, -⟩
    exact .refl directory writable gs

theorem ensureDirectory_contained {q : Path} (hq : q.IsOnWayTo directory) :
    Moves (Contained directory writable) (ensureDirectory q) := by
  refine (makeDirectory_contained hq).tryCatch fun e => ?_
  split
  · exact Moves.throw _
  · refine (look_moves _).bind fun there => ?_
    split
    · exact Moves.pure ()
    · exact Moves.throw _
  · exact Moves.throw _

theorem ensureDirectoriesUpTo_contained {q : Path} (hq : q.IsOnWayTo directory) (depth : Nat) :
    Moves (Contained directory writable) (ensureDirectoriesUpTo q depth) := by
  induction depth generalizing q with
  | zero => exact ensureDirectory_contained hq
  | succ depth ih =>
    refine (ensureDirectory_contained hq).tryCatch fun e => ?_
    split
    · split
      · exact Moves.throw _
      · exact (ih hq.parent).bind fun _ => ensureDirectory_contained hq
    · exact Moves.throw _

/-- Making the directory changes nothing but what is on the way to it. -/
theorem ensureDirectories_contained (directory : Path) (writable : Location → Prop) :
    Moves (Contained directory writable) (ensureDirectories directory) :=
  ensureDirectoriesUpTo_contained directory.isOnWayTo_self _

/-- The path leads to a file, or to where one can be made. -/
def Opens (fs : FileSystem) (p : Path) (loc : Location) : Prop :=
  fs.find p .write = .ok (.missing loc) ∨
    ∃ bytes, fs.find p .write = .ok (.entry loc (.file bytes))

theorem Opens.found {p : Path} {loc : Location} (h : Opens fs p loc) :
    ∃ found, fs.find p .write = .ok found ∧ found.Arrived ∧ found.loc = loc := by
  rcases h with h | ⟨bytes, h⟩
  · exact ⟨_, h, .missing loc, rfl⟩
  · exact ⟨_, h, .file loc bytes, rfl⟩

/-- A file is opened where the path has resolved to. -/
theorem Opens.eq_of_resolve {gs : FileSystem} {p : Path} {loc l : Location} (h : Opens gs p loc)
    (hg : Grows fs gs) (hr : fs.resolve p = .ok l) : loc = l := by
  obtain ⟨found, hfind, ha, rfl⟩ := h.found
  exact resolve_eq_of_find hg hr hfind ha

/-- The path leads to the file that is there now. -/
theorem Opens.find_eq {gs : FileSystem} {p : Path} {loc : Location} {bytes : List UInt8}
    (h : Opens fs p loc) (hg : Grows fs gs) (hloc : gs.get? loc = some (.file bytes)) :
    gs.find p = .ok (.entry loc (.file bytes)) := by
  obtain ⟨found, hfind, ha, hfl⟩ := h.found
  rw [find_grows hg (find_visit ha hfind)]
  rcases h with h | ⟨old, h⟩ <;> rw [hfind] at h <;> cases h <;> simp [Found.now, hloc]

/-- A file is opened where the path leads. -/
theorem openFile_ends (p : Path) (fs : FileSystem) :
    Ends (openFile p) fs (fun loc gs => Opens fs p loc ∧ Rewrites loc fs gs)
      fun _ gs => gs = fs := by
  refine Ends.bind ((look_ends _ fs).mono ?_ ?_)
  · rintro found gs ⟨rfl, hfind⟩
    cases found with
    | missing loc =>
      refine Ends.bind (Ends.modify (Ends.pure ⟨.inl hfind, .put (.inl ?_)⟩))
      exact find_isAt hfind
    | entry loc e =>
      cases e with
      | file bytes => exact Ends.pure ⟨.inr ⟨bytes, hfind⟩, .refl (find_isAt hfind)⟩
      | directory => exact Ends.throw rfl
      | link target => exact Ends.throw rfl
  · rintro e gs ⟨rfl, -⟩
    rfl

end Files

end ProgramTags
