import ProgramTags.Proofs.FileSystem.Growth

/-!
# Walks

`Walks fs n loc pieces l`: the pieces lead from `loc` to `l`, every link on the way followed, and
links nest `n` deep. Each path that is found is walked, each walk is unique, and resolving arrives
where a walk does: no link on a walk is met again within itself, for its walk would have to be
deeper than itself.
-/

namespace ProgramTags.FileSystem

inductive Walks (fs : FileSystem) : Nat → Location → List String → Location → Prop
  | done (loc : Location) : Walks fs 0 loc [] loc
  | idle {n : Nat} {loc l : Location} {name : String} {rest : List String}
      (hidle : Path.isIdle name) (h : Walks fs n loc rest l) : Walks fs n loc (name :: rest) l
  | up {n : Nat} {loc l : Location} {rest : List String} (h : Walks fs n loc.dropLast rest l) :
      Walks fs n loc (".." :: rest) l
  | plain {n : Nat} {loc l : Location} {name : String} {rest : List String}
      (hidle : ¬Path.isIdle name) (hup : name ≠ "..")
      (hplain : ∀ target, fs.get? (loc ++ [name]) ≠ some (.link target))
      (h : Walks fs n (loc ++ [name]) rest l) : Walks fs n loc (name :: rest) l
  | link {m n : Nat} {loc mid l : Location} {name target : String} {rest : List String}
      (hidle : ¬Path.isIdle name) (hup : name ≠ "..")
      (hlink : fs.get? (loc ++ [name]) = some (.link target))
      (hinto : Walks fs m (targetStart loc target) (Path.piecesOf target) mid)
      (h : Walks fs n mid rest l) : Walks fs (max (m + 1) n) loc (name :: rest) l

namespace Walks

variable {fs gs : FileSystem} {m n : Nat} {loc l : Location} {pieces : List String}

theorem unique {l' : Location} (h : Walks fs n loc pieces l) (h' : Walks fs m loc pieces l') :
    n = m ∧ l = l' := by
  induction h generalizing m l' with
  | done => cases h'; exact ⟨rfl, rfl⟩
  | idle hidle _ ih =>
    cases h' with
    | idle _ h' => exact ih h'
    | up => cases hidle
    | plain hidle' => exact absurd hidle hidle'
    | link hidle' => exact absurd hidle hidle'
  | up _ ih =>
    cases h' with
    | idle hidle' => cases hidle'
    | up h' => exact ih h'
    | plain _ hup' => exact absurd rfl hup'
    | link _ hup' => exact absurd rfl hup'
  | plain hidle hup hplain _ ih =>
    cases h' with
    | idle hidle' => exact absurd hidle' hidle
    | up => exact absurd rfl hup
    | plain _ _ _ h' => exact ih h'
    | link _ _ hlink' => exact absurd hlink' (hplain _)
  | link hidle hup hlink _ _ ihinto ih =>
    cases h' with
    | idle hidle' => exact absurd hidle' hidle
    | up => exact absurd rfl hup
    | plain _ _ hplain' => exact absurd hlink (hplain' _)
    | link _ _ hlink' hinto' h' =>
      rw [hlink] at hlink'
      cases hlink'
      obtain ⟨rfl, rfl⟩ := ihinto hinto'
      obtain ⟨rfl, rfl⟩ := ih h'
      exact ⟨rfl, rfl⟩

/-- A walk along two rows of pieces is a walk along the first and then one along the second. -/
theorem of_append {rest : List String} (h : Walks fs n loc (pieces ++ rest) l) :
    ∃ n₁ n₂ mid, Walks fs n₁ loc pieces mid ∧ Walks fs n₂ mid rest l := by
  induction pieces generalizing n loc with
  | nil => exact ⟨0, n, loc, .done loc, h⟩
  | cons name pieces ih =>
    cases h with
    | idle hidle h =>
      obtain ⟨n₁, n₂, mid, h₁, h₂⟩ := ih h
      exact ⟨n₁, n₂, mid, .idle hidle h₁, h₂⟩
    | up h =>
      obtain ⟨n₁, n₂, mid, h₁, h₂⟩ := ih h
      exact ⟨n₁, n₂, mid, .up h₁, h₂⟩
    | plain hidle hup hplain h =>
      obtain ⟨n₁, n₂, mid, h₁, h₂⟩ := ih h
      exact ⟨n₁, n₂, mid, .plain hidle hup hplain h₁, h₂⟩
    | link hidle hup hlink hinto h =>
      obtain ⟨n₁, n₂, mid, h₁, h₂⟩ := ih h
      exact ⟨_, n₂, mid, .link hidle hup hlink hinto h₁, h₂⟩

/-- Walks depend on the links alone. -/
theorem of_grows (hg : Grows fs gs) (h : Walks gs n loc pieces l) : Walks fs n loc pieces l := by
  induction h with
  | done loc => exact .done loc
  | idle hidle _ ih => exact .idle hidle ih
  | up _ ih => exact .up ih
  | plain hidle hup hplain _ ih =>
    exact .plain hidle hup (fun target ht => hplain target (hg.link.mpr ht)) ih
  | link hidle hup hlink _ _ ihinto ih => exact .link hidle hup (hg.link.mp hlink) ihinto ih

/-! ## Resolving -/

/-- Behind the link at `o` is a walk in which links nest at least `n` deep. -/
def Beyond (fs : FileSystem) (n : Nat) (o : Location) : Prop :=
  ∃ target m l, fs.get? o = some (.link target) ∧
    Walks fs m (targetStart o.dropLast target) (Path.piecesOf target) l ∧ n ≤ m

theorem Beyond.mono {o : Location} (h : Beyond fs n o) (hm : m ≤ n) : Beyond fs m o := by
  obtain ⟨target, k, l, hlink, hinto, hn⟩ := h
  exact ⟨target, k, l, hlink, hinto, Nat.le_trans hm hn⟩

/-- Resolving arrives where the walk does if the links that are being followed lie beyond it. -/
theorem resolveWithin_eq {depth : Nat} {opened : List Location} (h : Walks fs n loc pieces l)
    (hd : Following fs depth opened) (hb : ∀ o ∈ opened, Beyond fs n o) :
    fs.resolveWithin depth opened loc pieces = ⟨l, true⟩ := by
  induction h generalizing depth opened with
  | done loc =>
    rw [FileSystem.resolveWithin_eq]
    rfl
  | idle hidle _ ih =>
    rw [FileSystem.resolveWithin_eq, resolvePieces_idle hidle, ← FileSystem.resolveWithin_eq]
    exact ih hd hb
  | up _ ih =>
    rw [FileSystem.resolveWithin_eq, resolvePieces_up, ← FileSystem.resolveWithin_eq]
    exact ih hd hb
  | plain hidle hup hplain _ ih =>
    rw [FileSystem.resolveWithin_eq, resolvePieces_plain hidle hup hplain,
      ← FileSystem.resolveWithin_eq]
    exact ih hd hb
  | @link m n loc mid l name target rest hidle hup hlink hinto _ ihinto ih =>
    have hnew : loc ++ [name] ∉ opened := by
      intro hmem
      obtain ⟨target', m', l', hlink', hinto', hle⟩ := hb _ hmem
      rw [hlink] at hlink'
      cases hlink'
      rw [List.dropLast_concat] at hinto'
      obtain ⟨rfl, -⟩ := hinto.unique hinto'
      omega
    obtain ⟨d, rfl, hnext⟩ := hd.next hlink hnew
    have hbeyond : ∀ o ∈ (loc ++ [name]) :: opened, Beyond fs m o := by
      intro o ho
      rcases List.mem_cons.mp ho with rfl | ho
      · exact ⟨target, m, mid, hlink, by rwa [List.dropLast_concat], Nat.le_refl m⟩
      · exact (hb o ho).mono (by omega)
    rw [FileSystem.resolveWithin_eq, resolvePieces_link hidle hup hlink, if_neg hnew]
    simp only [follow, ihinto hnext hbeyond, if_true]
    exact ih hd fun o ho => (hb o ho).mono (by omega)

/-- A path that resolves does so to where its walk leads. -/
theorem resolve_eq {p : Path} {loc : Location} (h : Walks fs n (fs.start p.root) p.names l)
    (hr : fs.resolve p = .ok loc) : loc = l := by
  obtain ⟨-, hloc, -⟩ := resolve_eq_ok.mp hr
  rw [h.resolveWithin_eq (.start fs) (by simp)] at hloc
  exact hloc.symm

end Walks

/-! ## Finding -/

section

variable {fs : FileSystem} {purpose : Purpose} {loc : Location} {pieces : List String}
  {found : Found} {onLink : Location → List String → Except Refusal Found}

/-- What is found by pieces is where they walk to. -/
theorem findPieces_walks (ha : found.Arrived)
    (hl : ∀ loc pieces, onLink loc pieces = .ok found → ∃ n, Walks fs n loc pieces found.loc)
    (h : fs.findPieces purpose onLink loc pieces = .ok found) :
    ∃ n, Walks fs n loc pieces found.loc := by
  induction pieces generalizing loc with
  | nil =>
    cases h
    exact ⟨0, .done loc⟩
  | cons name rest ih =>
    rcases findPieces_cons_ok h with ⟨hidle, h⟩ | ⟨rfl, h⟩ | ⟨hidle, hup, -, h⟩
    · obtain ⟨n, h⟩ := ih h
      exact ⟨n, .idle hidle h⟩
    · obtain ⟨n, h⟩ := ih h
      exact ⟨n, .up h⟩
    · rcases h with ⟨hget, rfl, rfl⟩ | ⟨hget, h⟩ | ⟨bytes, hget, rfl, rfl⟩ | ⟨target, hget, h⟩
      · exact ⟨0, .plain hidle hup (by simp [hget]) (.done _)⟩
      · obtain ⟨n, h⟩ := ih h
        exact ⟨n, .plain hidle hup (by simp [hget]) h⟩
      · exact ⟨0, .plain hidle hup (by simp [hget]) (.done _)⟩
      · rcases h with rfl | h
        · exact absurd rfl (ha _ _)
        · obtain ⟨n, h⟩ := hl _ _ h
          obtain ⟨n₁, n₂, mid, h₁, h₂⟩ := h.of_append
          exact ⟨_, .link hidle hup hget h₁ h₂⟩

theorem findWithin_walks {links : Nat} (ha : found.Arrived)
    (h : fs.findWithin purpose links loc pieces = .ok found) :
    ∃ n, Walks fs n loc pieces found.loc := by
  induction links generalizing loc pieces with
  | zero => exact findPieces_walks ha (fun _ _ h => by cases h) h
  | succ links ih => exact findPieces_walks ha (fun _ _ => ih) h

end

/-- A path that resolved before the file system grew resolved to where it leads now. -/
theorem resolve_eq_of_find {fs gs : FileSystem} {p : Path} {purpose : Purpose} {found : Found}
    {loc : Location} (hg : Grows fs gs) (hr : fs.resolve p = .ok loc)
    (hf : gs.find p purpose = .ok found) (ha : found.Arrived) : found.loc = loc := by
  obtain ⟨-, -, hf⟩ := find_eq_ok.mp hf
  obtain ⟨n, h⟩ := findWithin_walks ha hf
  rw [hg.start_eq] at h
  exact ((h.of_grows hg).resolve_eq hr).symm

end ProgramTags.FileSystem
