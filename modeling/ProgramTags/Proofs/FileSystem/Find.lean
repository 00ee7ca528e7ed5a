import ProgramTags.FileSystem
import ProgramTags.Proofs.Reports

/-!
# What paths lead to

`find_eq_ok` says when a path is found and `resolve_eq_ok` when one resolves, `findPieces_cons_ok`
how one of its names leads on. What is found is what the file system has at the location, whatever
the path is followed for.
-/

namespace ProgramTags.FileSystem

def Found.loc : Found → Location
  | .entry loc _ => loc
  | .missing loc => loc

/-- The path has been followed to its end: what is found is no link. -/
def Found.Arrived (found : Found) : Prop :=
  ∀ loc target, found ≠ .entry loc (.link target)

theorem Found.Arrived.missing (loc : Location) : (Found.missing loc).Arrived := nofun

theorem Found.Arrived.file (loc : Location) (bytes : List UInt8) :
    (Found.entry loc (.file bytes)).Arrived := nofun

variable {fs : FileSystem} {purpose : Purpose} {p : Path} {found : Found} {loc : Location}

theorem isIdle_dots : Path.isIdle ".." = false := by decide

/-- A path leads somewhere if its pieces do and it is a path that the system takes. -/
theorem find_eq_ok :
    fs.find p purpose = .ok found ↔ hasNull p = false ∧ p.text.utf8ByteSize < pathLimit ∧
      fs.findWithin purpose linkLimit (fs.start p.root) p.names = .ok found := by
  unfold find
  by_cases hnull : hasNull p
  · simp [hnull]
  by_cases hlong : pathLimit ≤ p.text.utf8ByteSize
  · simp [hnull, hlong, Nat.not_lt_of_le]
  cases fs.findWithin purpose linkLimit (fs.start p.root) p.names <;>
    simp [hnull, hlong, Nat.lt_of_not_le]

theorem find_eq_tooManyLinks {path : String} :
    fs.find p purpose = .error (.refused .tooManyLinks path) ↔
      hasNull p = false ∧ p.text.utf8ByteSize < pathLimit ∧ p.text = path ∧
      fs.findWithin purpose linkLimit (fs.start p.root) p.names = .error .tooManyLinks := by
  unfold find
  by_cases hnull : hasNull p
  · simp [hnull]
  by_cases hlong : pathLimit ≤ p.text.utf8ByteSize
  · simp [hnull, hlong, Nat.not_lt_of_le]
  cases fs.findWithin purpose linkLimit (fs.start p.root) p.names <;>
    simp [hnull, hlong, Nat.lt_of_not_le, and_comm]

/-- A path resolves to where its names lead if that is not through too many links. -/
theorem resolve_eq_ok :
    fs.resolve p = .ok loc ↔ hasNull p = false ∧
      (fs.resolveWithin fs.entries.length [] (fs.start p.root) p.names).loc = loc ∧
      ∀ path, fs.find (.ofLocation loc) ≠ .error (.refused .tooManyLinks path) := by
  unfold resolve
  by_cases hnull : hasNull p
  · simp [hnull]
  generalize (fs.resolveWithin fs.entries.length [] (fs.start p.root) p.names).loc = l
  simp only [hnull, Bool.false_eq_true, if_false]
  split
  · rename_i path hloop
    simp only [reduceCtorEq, true_and, false_iff, not_and, not_forall, not_not]
    rintro rfl
    exact ⟨path, hloop⟩
  · rename_i hloop
    constructor
    · rintro ⟨⟩
      exact ⟨trivial, rfl, hloop⟩
    · rintro ⟨-, rfl, -⟩
      rfl

section

variable {name : String} {rest pieces : List String}
  {onLink onLink' : Location → List String → Except Refusal Found}

/-- How one name of a path leads on. -/
theorem findPieces_cons_ok
    (h : fs.findPieces purpose onLink loc (name :: rest) = .ok found) :
    (Path.isIdle name ∧ fs.findPieces purpose onLink loc rest = .ok found) ∨
    (name = ".." ∧ fs.findPieces purpose onLink loc.dropLast rest = .ok found) ∨
    (¬Path.isIdle name ∧ name ≠ ".." ∧ ¬nameLimit < name.utf8ByteSize ∧
      ((fs.get? (loc ++ [name]) = none ∧ rest = [] ∧ found = .missing (loc ++ [name])) ∨
      (fs.get? (loc ++ [name]) = some .directory ∧
        fs.findPieces purpose onLink (loc ++ [name]) rest = .ok found) ∨
      (∃ bytes, fs.get? (loc ++ [name]) = some (.file bytes) ∧ rest = [] ∧
        found = .entry (loc ++ [name]) (.file bytes)) ∨
      (∃ target, fs.get? (loc ++ [name]) = some (.link target) ∧
        (found = .entry (loc ++ [name]) (.link target) ∨
        onLink (targetStart loc target) (Path.piecesOf target ++ rest) = .ok found)))) := by
  unfold findPieces at h
  by_cases hidle : Path.isIdle name
  · left
    simpa only [hidle, if_true, true_and] using h
  by_cases hup : name = ".."
  · subst hup
    exact .inr (.inl ⟨rfl, h⟩)
  right; right
  refine ⟨hidle, hup, ?_⟩
  simp only [hidle, hup, Bool.false_eq_true, if_false] at h
  split at h
  · cases h
  split at h
  · cases h
  rename_i hlong
  refine ⟨hlong, ?_⟩
  cases hget : fs.get? (loc ++ [name]) with
  | none =>
    simp only [hget] at h
    split at h
    · rename_i hrest
      cases h
      exact .inl ⟨rfl, by simpa using hrest, rfl⟩
    · cases h
  | some e =>
    cases e with
    | directory =>
      simp only [hget] at h
      exact .inr (.inl ⟨rfl, h⟩)
    | file bytes =>
      simp only [hget] at h
      split at h
      · rename_i hrest
        cases h
        exact .inr (.inr (.inl ⟨bytes, rfl, by simpa using hrest, rfl⟩))
      · cases h
    | link target =>
      simp only [hget] at h
      refine .inr (.inr (.inr ⟨target, rfl, ?_⟩))
      split at h
      · cases h
        exact .inl rfl
      · exact .inr h

theorem findPieces_visit
    (hl : ∀ loc pieces, onLink loc pieces = .ok found → onLink' loc pieces = .ok found)
    (ha : found.Arrived) (h : fs.findPieces purpose onLink loc pieces = .ok found) :
    fs.findPieces .visit onLink' loc pieces = .ok found := by
  induction pieces generalizing loc with
  | nil => exact h
  | cons name rest ih =>
    unfold findPieces
    rcases findPieces_cons_ok h with ⟨hidle, h⟩ | ⟨rfl, h⟩ | ⟨hidle, hup, hlong, h⟩
    · simpa [hidle] using ih h
    · simpa [isIdle_dots] using ih h
    · rcases h with ⟨hget, rfl, rfl⟩ | ⟨hget, h⟩ | ⟨bytes, hget, rfl, rfl⟩ | ⟨target, hget, h⟩
      · simp [hidle, hup, hlong, hget]
      · simpa [hidle, hup, hlong, hget] using ih h
      · simp [hidle, hup, hlong, hget]
      · rcases h with rfl | h
        · exact absurd rfl (ha _ _)
        · simpa [hidle, hup, hlong, hget] using hl _ _ h

theorem findWithin_visit {links : Nat} (ha : found.Arrived)
    (h : fs.findWithin purpose links loc pieces = .ok found) :
    fs.findWithin .visit links loc pieces = .ok found := by
  induction links generalizing loc pieces with
  | zero => exact findPieces_visit (fun _ _ h => by cases h) ha h
  | succ links ih => exact findPieces_visit (fun _ _ => ih) ha h

/-- The file system has what is found where it is found. -/
def Found.IsAt (fs : FileSystem) : Found → Prop
  | .missing loc => fs.get? loc = none
  | .entry loc (.file bytes) => fs.get? loc = some (.file bytes)
  | .entry loc (.link target) => fs.get? loc = some (.link target)
  | .entry _ .directory => True

theorem findPieces_isAt (hl : ∀ loc pieces, onLink loc pieces = .ok found → found.IsAt fs)
    (h : fs.findPieces purpose onLink loc pieces = .ok found) : found.IsAt fs := by
  induction pieces generalizing loc with
  | nil =>
    cases h
    trivial
  | cons name rest ih =>
    rcases findPieces_cons_ok h with ⟨-, h⟩ | ⟨-, h⟩ | ⟨-, -, -, h⟩
    · exact ih h
    · exact ih h
    · rcases h with ⟨hget, -, rfl⟩ | ⟨-, h⟩ | ⟨bytes, hget, -, rfl⟩ | ⟨target, hget, rfl | h⟩
      · exact hget
      · exact ih h
      · exact hget
      · exact hget
      · exact hl _ _ h

theorem findWithin_isAt {links : Nat}
    (h : fs.findWithin purpose links loc pieces = .ok found) : found.IsAt fs := by
  induction links generalizing loc pieces with
  | zero => exact findPieces_isAt (fun _ _ h => by cases h) h
  | succ links ih => exact findPieces_isAt (fun _ _ => ih) h

end

/-- A path leads there for whatever it is followed. -/
theorem find_visit (ha : found.Arrived) (h : fs.find p purpose = .ok found) :
    fs.find p = .ok found := by
  obtain ⟨hnull, hlong, h⟩ := find_eq_ok.mp h
  exact find_eq_ok.mpr ⟨hnull, hlong, findWithin_visit ha h⟩

theorem find_isAt (h : fs.find p purpose = .ok found) : found.IsAt fs :=
  findWithin_isAt (find_eq_ok.mp h).2.2

theorem ne_nil_of_get? {e : Entry} (h : fs.get? loc = none ∨ fs.get? loc = some e)
    (he : e ≠ .directory) : loc ≠ [] := by
  rintro rfl
  rcases h with h | h <;> cases h
  exact he rfl

/-- What has a text is there. -/
theorem doesExist_of_readText {text : List Char} (h : fs.readText p = .ok text) :
    fs.doesExist p = .ok true := by
  unfold readText at h
  cases hread : fs.read p with
  | error e =>
    rw [hread] at h
    cases h
  | ok bytes =>
    unfold read at hread
    split at hread
    · rename_i loc held hfind
      rw [doesExist, test, hfind]
    all_goals cases hread

end ProgramTags.FileSystem
