import ProgramTags.Proofs.FileSystem.Growth

/-!
# Paths with detours

A detour goes into a directory and out of it again, any number of times. It makes a path longer
(`Path.utf8ByteSize_detour`) and leads to the same place (`resolve_detour`), and so does the system,
as long as the path is not too long for it (`find_detour`).
-/

namespace ProgramTags

/-- The path with a detour through the directory of the name before its names. -/
def Path.detour (name : String) (count : Nat) (p : Path) : Path :=
  ⟨p.root, (List.replicate count [name, ".."]).flatten ++ p.names⟩

theorem Path.detour_succ (name : String) (count : Nat) (p : Path) :
    p.detour name (count + 1) = ⟨p.root, name :: ".." :: (p.detour name count).names⟩ := by
  simp [detour, List.replicate_succ]

theorem Path.detour_child (name last : String) (count : Nat) (p : Path) :
    (p.detour name count).child last = (p.child last).detour name count := by
  simp [detour, child]

/-- Each time adds the name, two dots and two slashes. -/
theorem Path.utf8ByteSize_detour (name : String) (count : Nat) {p : Path} (hp : p.names ≠ []) :
    (p.detour name count).text.utf8ByteSize =
      count * (name.utf8ByteSize + 4) + p.text.utf8ByteSize := by
  have hsize : ∀ n, ("/".intercalate (p.detour name n).names).utf8ByteSize =
      n * (name.utf8ByteSize + 4) + ("/".intercalate p.names).utf8ByteSize := by
    intro n
    induction n with
    | zero => simp [detour]
    | succ n ih =>
      have hne : (p.detour name n).names ≠ [] := by simp [detour, hp]
      have htwice := String.intercalate_append_of_ne_nil (s := "/")
        (List.cons_ne_nil name [".."]) hne
      have honce := String.intercalate_append_of_ne_nil (s := "/")
        (List.cons_ne_nil name []) (List.cons_ne_nil ".." [])
      simp only [List.cons_append, List.nil_append, String.intercalate_singleton] at htwice honce
      rw [detour_succ, htwice, honce]
      simp only [String.utf8ByteSize_append, ih]
      have hslash : "/".utf8ByteSize = 1 := by decide
      have hdots : "..".utf8ByteSize = 2 := by decide
      rw [hslash, hdots, Nat.succ_mul]
      omega
  have hne : (p.detour name count).names ≠ [] := by simp [detour, hp]
  have hroot : (p.detour name count).root = p.root := rfl
  simp only [text, hne, hp, and_false, if_false, String.utf8ByteSize_append, hsize, hroot]
  omega

namespace FileSystem

variable {fs : FileSystem} {name : String} {loc : Location}

theorem hasNull_detour {count : Nat} {p : Path} (hname : '\x00' ∉ name.toList) :
    hasNull (p.detour name count) = hasNull p := by
  induction count with
  | zero => rfl
  | succ count ih =>
    rw [← ih, Path.detour_succ]
    simp [hasNull, hname]

theorem resolvePieces_detour {opened : List Location}
    {onLink : List Location → Location → List String → Resolved} (hidle : ¬Path.isIdle name)
    (hup : name ≠ "..") (hdir : fs.get? (loc ++ [name]) = some .directory) (count : Nat)
    (p : Path) : fs.resolvePieces opened onLink loc (p.detour name count).names =
      fs.resolvePieces opened onLink loc p.names := by
  have hplain : ∀ target, fs.get? (loc ++ [name]) ≠ some (.link target) := by
    intro target hlink
    rw [hdir] at hlink
    cases hlink
  induction count with
  | zero => rfl
  | succ count ih =>
    rw [Path.detour_succ, resolvePieces_plain hidle hup hplain, resolvePieces_up,
      List.dropLast_concat, ih]

theorem findPieces_detour {onLink : Location → List String → Except Refusal Found}
    (hidle : ¬Path.isIdle name) (hup : name ≠ "..") (hshort : name.utf8ByteSize ≤ nameLimit)
    (hdir : fs.get? (loc ++ [name]) = some .directory) (count : Nat) (p : Path) :
    fs.findPieces .visit onLink loc (p.detour name count).names =
      fs.findPieces .visit onLink loc p.names := by
  have hin : ∀ rest, fs.findPieces .visit onLink loc (name :: rest) =
      fs.findPieces .visit onLink (loc ++ [name]) rest := by
    intro rest
    rw [findPieces]
    simp [hidle, hup, Nat.not_lt.mpr hshort, hdir]
  have hout : ∀ l rest, fs.findPieces .visit onLink l (".." :: rest) =
      fs.findPieces .visit onLink l.dropLast rest := by
    intro l rest
    rw [findPieces]
    simp [isIdle_dots]
  induction count with
  | zero => rfl
  | succ count ih => rw [Path.detour_succ, hin, hout, List.dropLast_concat, ih]

/-- What is resolved is the same. -/
theorem resolve_detour {p : Path} (hidle : ¬Path.isIdle name) (hup : name ≠ "..")
    (hname : '\x00' ∉ name.toList)
    (hdir : fs.get? (fs.start p.root ++ [name]) = some .directory) (count : Nat) :
    fs.resolve (p.detour name count) = fs.resolve p := by
  unfold resolve
  rw [hasNull_detour hname, resolveWithin_eq, resolveWithin_eq]
  have hroot : (p.detour name count).root = p.root := rfl
  rw [hroot, resolvePieces_detour hidle hup hdir]

/-- What the system finds is the same, if the path is short enough. -/
theorem find_detour {p : Path} {found : Found} (hidle : ¬Path.isIdle name) (hup : name ≠ "..")
    (hname : '\x00' ∉ name.toList) (hshort : name.utf8ByteSize ≤ nameLimit)
    (hdir : fs.get? (fs.start p.root ++ [name]) = some .directory) {count : Nat}
    (hsize : (p.detour name count).text.utf8ByteSize < pathLimit) (h : fs.find p = .ok found) :
    fs.find (p.detour name count) = .ok found := by
  obtain ⟨hnull, -, hfind⟩ := find_eq_ok.mp h
  refine find_eq_ok.mpr ⟨by rwa [hasNull_detour hname], hsize, ?_⟩
  have hroot : (p.detour name count).root = p.root := rfl
  rw [← hfind, hroot]
  exact findPieces_detour hidle hup hshort hdir count p

end FileSystem

end ProgramTags
