import ProgramTags.Proofs.FileSystem.Change
import ProgramTags.Proofs.Parallel

/-!
# File systems that are alike

`Alike loose fs gs`: there are files at the `loose` locations of both, whatever these hold, and
everything else is the same. What a loose file holds has no influence on where paths lead, so steps
on the file system run in parallel from file systems that are alike, and leave them so.
-/

namespace ProgramTags

namespace FileSystem

/-- The same file system but for what the files at `loose` locations hold. -/
structure Alike (loose : Location → Prop) (fs gs : FileSystem) : Prop where
  workdir : gs.workdir = fs.workdir
  elsewhere : ∀ loc, ¬loose loc → gs.get? loc = fs.get? loc
  file : ∀ loc, loose loc →
    (∃ bytes, fs.get? loc = some (.file bytes)) ∧ ∃ bytes, gs.get? loc = some (.file bytes)

variable {loose : Location → Prop} {fs gs hs : FileSystem}

namespace Alike

theorem symm (h : Alike loose fs gs) : Alike loose gs fs :=
  ⟨h.workdir.symm, fun loc hloc => (h.elsewhere loc hloc).symm,
    fun loc hloc => (h.file loc hloc).symm⟩

theorem trans (h : Alike loose fs gs) (h' : Alike loose gs hs) : Alike loose fs hs :=
  ⟨h'.workdir.trans h.workdir, fun loc hloc => (h'.elsewhere loc hloc).trans (h.elsewhere loc hloc),
    fun loc hloc => ⟨(h.file loc hloc).1, (h'.file loc hloc).2⟩⟩

/-- What is alike is the same, or two files. -/
theorem get?_cases (h : Alike loose fs gs) (loc : Location) :
    gs.get? loc = fs.get? loc ∨ loose loc ∧ (∃ bytes, fs.get? loc = some (.file bytes)) ∧
      ∃ bytes, gs.get? loc = some (.file bytes) := by
  by_cases hloc : loose loc
  · exact .inr ⟨hloc, h.file loc hloc⟩
  · exact .inl (h.elsewhere loc hloc)

theorem grows (h : Alike loose fs gs) : Grows fs gs := by
  refine ⟨h.workdir, ?_, ?_, ?_⟩ <;> intro loc <;>
    rcases h.get?_cases loc with heq | ⟨-, ⟨old, hfs⟩, ⟨new, hgs⟩⟩ <;> simp_all

/-- What is missing in one is missing in the other. -/
theorem get?_eq_none (h : Alike loose fs gs) {loc : Location} (hloc : fs.get? loc = none) :
    ¬loose loc ∧ gs.get? loc = none := by
  rcases h.get?_cases loc with heq | ⟨-, ⟨old, hfs⟩, -⟩
  · refine ⟨fun hl => ?_, heq.trans hloc⟩
    obtain ⟨⟨bytes, hfile⟩, -⟩ := h.file loc hl
    rw [hloc] at hfile
    cases hfile
  · rw [hloc] at hfs
    cases hfs

/-- The same may be put into both where nothing else than files is needed. -/
theorem put (h : Alike loose fs gs) {loc : Location} {e : Entry}
    (he : loose loc → ∃ bytes, e = .file bytes) :
    Alike loose (fs.put loc e) (gs.put loc e) := by
  by_cases hroot : loc = []
  · subst hroot
    have hsame : ∀ (fs : FileSystem) l, (fs.put [] e).get? l = fs.get? l := by
      intro fs l
      by_cases hl : l = []
      · simp [get?, hl]
      · exact get?_put_of_ne fs e hl
    refine ⟨h.workdir, fun l hl => ?_, fun l hl => ?_⟩
    · rw [hsame, hsame, h.elsewhere l hl]
    · rw [hsame, hsame]
      exact h.file l hl
  · refine ⟨h.workdir, fun l hl => ?_, fun l hl => ?_⟩
    · rw [get?_put fs hroot, get?_put gs hroot, h.elsewhere l hl]
    · rw [get?_put fs hroot, get?_put gs hroot]
      by_cases heq : l = loc
      · subst heq
        obtain ⟨bytes, rfl⟩ := he hl
        simp
      · rw [if_neg heq, if_neg heq]
        exact h.file l hl

/-! ## Where paths lead -/

theorem findWithin_eq (h : Alike loose fs gs) (purpose : Purpose) (links : Nat) (loc : Location)
    (pieces : List String) :
    gs.findWithin purpose links loc pieces =
      (fs.findWithin purpose links loc pieces).map (Found.now gs) := by
  have hthere := findWithin_grows h.grows purpose links loc pieces
  have hback := findWithin_grows h.symm.grows purpose links loc pieces
  cases hfs : fs.findWithin purpose links loc pieces with
  | ok found =>
    rw [hfs] at hthere
    exact hthere
  | error why =>
    rw [hfs] at hthere hback
    -- growth says nothing of a path without an entry, but it could not have lost one either
    cases hgs : gs.findWithin purpose links loc pieces with
    | ok found =>
      rw [hgs] at hback
      cases hback
    | error why' =>
      rw [hgs] at hthere hback
      cases why with
      | noEntry =>
        cases why' with
        | noEntry => rfl
        | _ => cases hback
      | _ => exact hthere

/-- A path leads to the same place in both, and for the same reason nowhere. -/
theorem find_eq (h : Alike loose fs gs) (p : Path) (purpose : Purpose) :
    gs.find p purpose = (fs.find p purpose).map (Found.now gs) := by
  unfold find
  by_cases hnull : hasNull p
  · simp [hnull, Except.map]
  by_cases hlong : pathLimit ≤ p.text.utf8ByteSize
  · simp [hnull, hlong, Except.map]
  simp only [hnull, hlong, Bool.false_eq_true, if_false, h.grows.start_eq, h.findWithin_eq]
  cases fs.findWithin purpose linkLimit (fs.start p.root) p.names <;> rfl

theorem isDirectory_eq (h : Alike loose fs gs) (p : Path) :
    gs.isDirectory p = fs.isDirectory p := by
  unfold isDirectory test
  rw [h.find_eq]
  cases hfind : fs.find p with
  | error e => cases e <;> rfl
  | ok found =>
    have hat := find_isAt hfind
    cases found with
    | missing loc =>
      simp only [Except.map, Found.now, (h.get?_eq_none hat).2]
    | entry loc e =>
      cases e with
      | directory => rfl
      | link target => rfl
      | file bytes =>
        obtain ⟨bytes', hgs⟩ := h.grows.file hat
        simp [Except.map, Found.now, hgs]

theorem resolve_eq (h : Alike loose fs gs) (p : Path) : gs.resolve p = fs.resolve p := by
  unfold resolve
  rw [h.grows.start_eq, ← resolveWithin_grows h.grows (.start fs) (.start gs)]
  simp only [h.find_eq]
  generalize (fs.resolveWithin fs.entries.length [] (fs.start p.root) p.names).loc = loc
  cases fs.find (Path.ofLocation loc) with
  | ok found => rfl
  | error e => rfl

end Alike

end FileSystem

/-! ## Steps -/

namespace Files

open FileSystem

variable {loose : Location → Prop}

theorem look_eq {α : Type} (f : FileSystem → Except FileError α) (fs : FileSystem) :
    look f fs = match f fs with
      | .ok a => .ok a fs
      | .error e => .error e fs := by
  refine Ends.bind_ok rfl ?_
  cases f fs <;> rfl

/-- Looking for what is the same in both ends the same. -/
theorem look_parallel {α : Type} {f : FileSystem → Except FileError α}
    (hf : ∀ fs gs, Alike loose fs gs → f gs = f fs) :
    Parallel (Alike loose) (look f) (look f) := by
  intro fs gs h
  rw [look_eq, look_eq, hf fs gs h]
  cases f fs with
  | ok a => exact .ok h
  | error e => exact .error h

/-- A step that goes on from where a path leads runs in parallel if it does not depend on what a
loose file holds. -/
theorem find_bind_parallel {β : Type} {p : Path} {purpose : Purpose} {k : Found → Files β}
    (hk : ∀ found fs gs, Alike loose fs gs → found.IsAt fs →
      SameEnd (Alike loose) (k found fs) (k (found.now gs) gs)) :
    Parallel (Alike loose) (look (·.find p purpose) >>= k) (look (·.find p purpose) >>= k) := by
  intro fs gs h
  show SameEnd _ (EStateM.bind _ k fs) (EStateM.bind _ k gs)
  unfold EStateM.bind
  rw [look_eq, look_eq, h.find_eq]
  cases hfind : fs.find p purpose with
  | ok found => exact hk found fs gs h (find_isAt hfind)
  | error e => exact .error h

theorem makeDirectory_parallel (p : Path) :
    Parallel (Alike loose) (makeDirectory p) (makeDirectory p) := by
  refine find_bind_parallel fun found fs gs h hat => ?_
  cases found with
  | missing loc =>
    obtain ⟨hloc, hgs⟩ := h.get?_eq_none hat
    simp only [Found.now, hgs]
    exact .ok (h.put fun hl => absurd hl hloc)
  | entry loc e => cases e <;> exact .error h

theorem ensureDirectory_parallel (p : Path) :
    Parallel (Alike loose) (ensureDirectory p) (ensureDirectory p) := by
  refine (makeDirectory_parallel p).tryCatch fun e => ?_
  split
  · exact Parallel.throw _
  · refine (look_parallel fun fs gs h => h.isDirectory_eq p).bind fun there => ?_
    split
    · exact Parallel.pure ()
    · exact Parallel.throw _
  · exact Parallel.throw _

theorem ensureDirectoriesUpTo_parallel (p : Path) (depth : Nat) :
    Parallel (Alike loose) (ensureDirectoriesUpTo p depth) (ensureDirectoriesUpTo p depth) := by
  induction depth generalizing p with
  | zero => exact ensureDirectory_parallel p
  | succ depth ih =>
    refine (ensureDirectory_parallel p).tryCatch fun e => ?_
    split
    · split
      · exact Parallel.throw _
      · exact (ih p.parent).bind fun _ => ensureDirectory_parallel p
    · exact Parallel.throw _

theorem ensureDirectories_parallel (p : Path) :
    Parallel (Alike loose) (ensureDirectories p) (ensureDirectories p) :=
  ensureDirectoriesUpTo_parallel p _

theorem openFile_parallel (p : Path) : Parallel (Alike loose) (openFile p) (openFile p) := by
  refine find_bind_parallel fun found fs gs h hat => ?_
  cases found with
  | missing loc =>
    obtain ⟨hloc, hgs⟩ := h.get?_eq_none hat
    simp only [Found.now, hgs]
    exact .ok (h.put fun hl => absurd hl hloc)
  | entry loc e =>
    cases e with
    | file bytes =>
      obtain ⟨bytes', hgs⟩ := h.grows.file hat
      simp only [Found.now, hgs]
      exact .ok h
    | _ => exact .error h

theorem writeAt_parallel (loc : Location) (bytes : List UInt8) :
    Parallel (Alike loose) (writeAt loc bytes) (writeAt loc bytes) :=
  Parallel.modify fun _ _ h => h.put fun _ => ⟨bytes, rfl⟩

end Files

end ProgramTags
