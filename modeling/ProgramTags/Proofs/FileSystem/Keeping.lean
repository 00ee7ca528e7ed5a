import ProgramTags.Proofs.FileSystem.Change

/-!
# Files that are kept

`FileSystem.Keeps fs gs` says that files hold what they held and that new ones are empty. Making
directories and opening files keep files so, and opening a log file does no more than that
(`Files.openLog_keeps`). What can be read of a file can be read of it later, too.
-/

namespace ProgramTags

namespace FileSystem

/-- `gs` has all that `fs` has, with the files as they are, and new files are empty. -/
structure Keeps (fs gs : FileSystem) : Prop extends Grows fs gs where
  content : ∀ {loc bytes}, fs.get? loc = some (.file bytes) → gs.get? loc = some (.file bytes)
  bytesAt_eq : ∀ loc, gs.bytesAt loc = fs.bytesAt loc

variable {fs gs hs : FileSystem} {p : Path}

namespace Keeps

theorem refl (fs : FileSystem) : Keeps fs fs := ⟨.refl fs, id, fun _ => rfl⟩

theorem trans (h : Keeps fs gs) (h' : Keeps gs hs) : Keeps fs hs :=
  ⟨h.toGrows.trans h'.toGrows, fun hloc => h'.content (h.content hloc),
    fun loc => (h'.bytesAt_eq loc).trans (h.bytesAt_eq loc)⟩

/-- Where no file may be written, all are kept. -/
theorem of_contained {directory : Path} (h : Contained directory (fun _ => False) fs gs) :
    Keeps fs gs := by
  refine ⟨h.grows, fun hloc => h.file_stays hloc id, fun loc => ?_⟩
  cases h.change loc with
  | same hsame => rw [bytesAt, bytesAt, hsame]
  | file hw => exact hw.elim
  | directory q hq before after => rw [bytesAt, bytesAt, before, after]

/-- A new file leaves the others as they are. -/
theorem put_file {loc : Location} (h : fs.get? loc = none) : Keeps fs (fs.put loc (.file [])) := by
  have hne : loc ≠ [] := ne_nil_of_get? (e := .file []) (.inl h) nofun
  refine ⟨(Rewrites.put (.inl h)).grows, fun {l bytes} hl => ?_, fun l => ?_⟩
  · have hother : l ≠ loc := by
      rintro rfl
      rw [h] at hl
      cases hl
    rwa [get?_put_of_ne fs _ hother]
  · by_cases hl : l = loc
    · subst hl
      simp only [bytesAt, get?_put fs hne, h, if_true]
    · rw [bytesAt, bytesAt, get?_put_of_ne fs _ hl]

/-- A file that can be read holds the same. -/
theorem read_eq {bytes : List UInt8} (h : Keeps fs gs) (hread : fs.read p = .ok bytes) :
    gs.read p = .ok bytes := by
  unfold read at hread
  split at hread
  · rename_i loc held hfind
    cases hread
    have hheld : gs.get? loc = some (.file bytes) := h.content (find_isAt hfind)
    rw [read, find_grows h.toGrows hfind]
    simp only [Found.now, hheld, Option.getD_some]
  all_goals cases hread

theorem readText_eq {text : List Char} (h : Keeps fs gs) (htext : fs.readText p = .ok text) :
    gs.readText p = .ok text := by
  unfold readText at htext ⊢
  cases hread : fs.read p with
  | error e =>
    rw [hread] at htext
    cases htext
  | ok bytes =>
    rw [hread] at htext
    rw [h.read_eq hread]
    exact htext

end Keeps

instance : IsPreorder FileSystem Keeps where
  refl := Keeps.refl
  trans _ _ _ := Keeps.trans

theorem absolute_of_grows (h : Grows fs gs) (p : Path) : gs.absolute p = fs.absolute p := by
  rw [absolute, absolute, h.start_eq]

end FileSystem

namespace Files

open FileSystem

theorem ensureDirectories_keeps (p : Path) : Moves Keeps (ensureDirectories p) :=
  (ensureDirectories_contained p fun _ => False).mono fun _ _ => .of_contained

theorem openFile_keeps (p : Path) : Moves Keeps (openFile p) := by
  intro fs
  refine Ends.bind ((look_ends _ fs).mono ?_ ?_)
  · rintro found gs ⟨rfl, hfind⟩
    cases found with
    | missing loc => exact Ends.bind (Ends.modify (Ends.pure (.put_file (find_isAt hfind))))
    | entry loc e =>
      cases e with
      | file bytes => exact Ends.pure (.refl gs)
      | directory => exact Ends.throw (.refl gs)
      | link target => exact Ends.throw (.refl gs)
  · rintro e gs ⟨rfl, -⟩
    exact .refl gs

theorem encodable_ends (surrogates : Text.Surrogates) (p : Path) (fs : FileSystem) :
    Ends (encodable surrogates p) fs (fun q gs => q = p ∧ gs = fs) fun _ gs => gs = fs := by
  refine (look_ends _ fs).mono (fun q gs ⟨hgs, hq⟩ => ⟨?_, hgs⟩) fun e gs h => h.1
  unfold FileSystem.encodable at hq
  split at hq
  · exact (Except.ok.inj hq).symm
  · cases hq

/-! ## Log files -/

theorem openLog_keeps (p : Path) (surrogates : Text.Surrogates) :
    Moves Keeps (openLog p surrogates) :=
  Moves.get_bind fun _ => (look_moves _).bind fun _ => (ensureDirectories_keeps _).bind fun _ =>
    (look_moves _).bind fun _ => openFile_keeps _

/-- Opening a log file makes directories on the way to it, and the file, which is there then. -/
theorem openLog_ends (p : Path) (surrogates : Text.Surrogates) (fs : FileSystem) :
    Ends (openLog p surrogates) fs
      (fun loc gs => Contained p.parent (· = loc) fs gs ∧
        ∃ bytes, gs.find (gs.absolute p) = .ok (.entry loc (.file bytes)))
      fun _ _ => True := by
  refine Ends.bind (Ends.get (Ends.bind ((encodable_ends _ _ fs).mono ?_ fun _ _ _ => trivial)))
  rintro _ fs ⟨rfl, rfl⟩
  have hmake := ensureDirectories_contained p.parent (fun _ => False) fs
  refine Ends.bind (hmake.mono (fun _ gs hmade => ?_) fun _ _ _ => trivial)
  refine Ends.bind ((encodable_ends _ _ gs).mono ?_ fun _ _ _ => trivial)
  rintro _ gs ⟨rfl, rfl⟩
  refine (openFile_ends _ gs).mono ?_ fun _ _ _ => trivial
  rintro loc hs ⟨hopens, hrewrites⟩
  obtain ⟨bytes, hbytes⟩ := hrewrites.after
  have hcontained : Contained p.parent (· = loc) fs hs :=
    (hmade.mono fun _ => False.elim).trans (.of_rewrites hrewrites rfl)
  refine ⟨hcontained, bytes, ?_⟩
  rw [absolute_of_grows hcontained.grows]
  exact hopens.find_eq hrewrites.grows hbytes

end Files

end ProgramTags
