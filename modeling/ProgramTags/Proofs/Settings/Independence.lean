import ProgramTags.Proofs.FileSystem.Detours
import ProgramTags.Proofs.Settings.Meaning

/-!
# Settings do not depend on each other

A settings file that holds a mapping gives settings, each by the value in its own place
(`load_determined`). Whether a path means the file itself or the directory that it is in makes no
difference, as far as the system can tell that there is no directory in place of the file. It cannot
if the path with the name of the file is too long for it, and a tilde stands for another directory
than one of that name (`load_child_differs`).
-/

namespace ProgramTags

/-- The path begins with a tilde. -/
def Path.HasTilde (p : Path) : Prop :=
  p.root = .relative ∧ ∃ name rest, p.names = name :: rest ∧ name.toList.head? = some '~'

namespace FileSystem

variable {fs : FileSystem}

theorem isDirectory_of_entry {p : Path} {loc : Location} {e : Entry}
    (h : fs.find p = .ok (.entry loc e)) : fs.isDirectory p = .ok (e = .directory) := by
  rw [isDirectory, test, h]

theorem isDirectory_of_nameTooLong {p : Path} {path : String}
    (h : fs.find p = .error (.refused .nameTooLong path)) :
    fs.isDirectory p = .error (.refused .nameTooLong path) := by
  rw [isDirectory, test, h]

theorem expandHome_of_not_hasTilde {p : Path} (h : ¬p.HasTilde) : fs.expandHome p = .ok p := by
  unfold expandHome
  split
  · rename_i person rest hroot hnames
    refine absurd ⟨hroot, ?_⟩ h
    obtain ⟨name, names, hp, hname, -⟩ := List.map_eq_cons_iff.mp hnames
    exact ⟨name, names, hp, by rw [hname]; rfl⟩
  · rfl

theorem expandHome_tilde {name : String} {person : List Char} (rest : List String)
    (h : name.toList = '~' :: person) : fs.expandHome ⟨.relative, name :: rest⟩ =
      (fs.homeOf? (String.ofList person)).elim (.error .noHome) fun home =>
        .ok ((Path.ofText home).join ⟨.relative, rest⟩) := by
  unfold expandHome
  simp only [List.map_cons, h, List.tail_cons]
  cases fs.homeOf? (String.ofList person) <;> rfl

/-- One more name does not change what a tilde stands for. -/
theorem expandHome_child {d e : Path} {name : String} (hname : name.toList.head? ≠ some '~')
    (h : fs.expandHome d = .ok e) : fs.expandHome (d.child name) = .ok (e.child name) := by
  by_cases htilde : d.HasTilde
  · obtain ⟨root, names⟩ := d
    obtain ⟨rfl, first, rest, rfl, hfirst⟩ := htilde
    obtain ⟨person, hperson⟩ := List.head?_eq_some_iff.mp hfirst
    rw [Path.child, List.cons_append, expandHome_tilde _ hperson]
    rw [expandHome_tilde _ hperson] at h
    cases hhome : fs.homeOf? (String.ofList person) with
    | none =>
      rw [hhome] at h
      cases h
    | some home =>
      rw [hhome] at h
      cases h
      simp [Path.join, Path.child]
  · rw [expandHome_of_not_hasTilde htilde] at h
    cases h
    refine expandHome_of_not_hasTilde ?_
    rintro ⟨hroot, first, rest, hnames, hfirst⟩
    cases hd : d.names with
    | nil =>
      simp only [Path.child, hd, List.nil_append, List.cons.injEq] at hnames
      rw [hnames.1] at hname
      exact hname hfirst
    | cons other others =>
      simp only [Path.child, hd, List.cons_append, List.cons.injEq] at hnames
      exact htilde ⟨hroot, other, others, hd, by rwa [hnames.1]⟩

end FileSystem

namespace Settings

open Setting (Determines)

variable {fs : FileSystem}

/-! ## The file and its directory -/

theorem locate_of_isDirectory {d e : Path} {b : Bool} (h : fs.expandHome d = .ok e)
    (hdir : fs.isDirectory e = .ok b) :
    locate fs d = fs.resolve (if b then e.child fileName else e) := by
  rw [locate, h, Except.ok_bind, FileSystem.encodable_none, Except.ok_bind, hdir, Except.ok_bind]

/-- A directory means the file in it, unless there is a directory in its place. -/
theorem load_child_eq {d e : Path} (h : fs.expandHome d = .ok e)
    (hdir : fs.isDirectory e = .ok true) (hfile : fs.isDirectory (e.child fileName) = .ok false) :
    load fs d = load fs (d.child fileName) := by
  have hchild : fs.expandHome (d.child fileName) = .ok (e.child fileName) :=
    FileSystem.expandHome_child (by decide) h
  rw [load, load, locate_of_isDirectory h hdir, locate_of_isDirectory hchild hfile]
  rfl

/-- Where it cannot be told what is in the place of the file, there are no settings. -/
theorem load_child_eq_error {d e : Path} {why : FileError} (h : fs.expandHome d = .ok e)
    (hfile : fs.isDirectory (e.child fileName) = .error why) :
    load fs (d.child fileName) = .error (.unknown why) := by
  have hchild : fs.expandHome (d.child fileName) = .ok (e.child fileName) :=
    FileSystem.expandHome_child (by decide) h
  rw [load, locate, hchild, Except.ok_bind, FileSystem.encodable_none, Except.ok_bind, hfile]
  rfl

/-- A system with a directory under a plain name and one under a tilde. There is no home. -/
def cramped : FileSystem where
  entries := [(["work"], .directory), (["work", "a"], .directory), (["work", "~"], .directory)]
  workdir := ["work"]
  home := "/home"

/-- A path to a directory that is just short enough for the system. -/
def far : Path :=
  Path.detour "a" 816 ⟨.relative, ["a"]⟩

theorem far_not_hasTilde : ¬far.HasTilde := by
  rintro ⟨-, name, rest, hnames, htilde⟩
  rw [far, Path.detour_succ, List.cons.injEq] at hnames
  rw [← hnames.1] at htilde
  exact absurd htilde (by decide)

theorem find_far : cramped.find far = .ok (.entry ["work", "a"] .directory) := by
  refine FileSystem.find_detour (by decide) (by decide) (by decide) (by decide) rfl ?_ rfl
  rw [Path.utf8ByteSize_detour _ _ (List.cons_ne_nil _ _)]
  decide

theorem find_far_child : cramped.find (far.child fileName) =
    .error (.refused .nameTooLong (far.child fileName).text) := by
  have hnull : FileSystem.hasNull (far.child fileName) = false := by
    rw [far, Path.detour_child, FileSystem.hasNull_detour (by decide)]
    decide
  have hlong : FileSystem.pathLimit ≤ (far.child fileName).text.utf8ByteSize := by
    rw [far, Path.detour_child, Path.utf8ByteSize_detour _ _ (List.cons_ne_nil _ _)]
    decide
  simp only [FileSystem.find, hnull, hlong, Bool.false_eq_true, if_true, if_false,
    Except.mapError_error]

/-- There is a directory with no entry of the name of the file where the path of the directory gives
settings and that of the file does not, since it is too long. There is one under a tilde where both
give settings, but not the same: the tilde stands for the home in both, and as there is none, the
first path is taken for that of a file. -/
theorem load_child_differs :
    (cramped.isDirectory far = .ok true ∧ cramped.resolve far = .ok ["work", "a"] ∧
      cramped.get? ["work", "a", fileName] = none ∧
      load cramped far = .ok (.standard (.ofLocation ["work", "a"])) ∧
      load cramped (far.child fileName) =
        .error (.unknown (.refused .nameTooLong (far.child fileName).text))) ∧
    let tilde : Path := ⟨.relative, ["~"]⟩
    cramped.isDirectory tilde = .ok true ∧ cramped.resolve tilde = .ok ["work", "~"] ∧
      cramped.get? ["work", "~", fileName] = none ∧
      load cramped tilde = .ok (.standard (.ofLocation [])) ∧
      load cramped (tilde.child fileName) = .ok (.standard (.ofLocation ["home"])) := by
  have hhome : cramped.expandHome far = .ok far :=
    FileSystem.expandHome_of_not_hasTilde far_not_hasTilde
  have hdir : cramped.isDirectory far = .ok true := FileSystem.isDirectory_of_entry find_far
  have hresolve : ∀ p : Path, p.root = .relative →
      cramped.resolve (p.detour "a" 816) = cramped.resolve p := fun p hp =>
    FileSystem.resolve_detour (by decide) (by decide) (by decide) (by rw [hp]; rfl) 816
  have hplace : locate cramped far = .ok ["work", "a", fileName] := by
    rw [locate_of_isDirectory hhome hdir, if_pos rfl, far, Path.detour_child, hresolve _ rfl]
    rfl
  have hchild : cramped.isDirectory (far.child fileName) =
      .error (.refused .nameTooLong (far.child fileName).text) :=
    FileSystem.isDirectory_of_nameTooLong find_far_child
  refine ⟨⟨hdir, ?_, rfl, ?_, load_child_eq_error hhome hchild⟩, rfl, rfl, rfl, rfl, rfl⟩
  · rw [far, hresolve _ rfl]
    rfl
  · rw [load, hplace]
    rfl

/-! ## Each setting by itself -/

variable {p : Path} {loc : Location} {entries : List (Value × Value)}

/-- A file that holds a mapping without integers that are too long gives settings. Each setting is
what the value in its place says, or the standard if that says nothing; a path starts from the
directory that the file is in. Another file in that directory, of whatever system, gives the same
setting if it has the same value in its place, and so if it has been edited beside that place. A
directory means the file in it: both give the same if the system tells that there is no directory in
place of the file, and if it cannot tell, the path of the file gives no settings. -/
theorem load_determined (h : Holds fs p loc entries) (hfits : Fits entries) :
    (∃ settings, load fs p = .ok settings ∧ settings.root = (Path.ofLocation loc).parent ∧
      (∀ k, Determines settings.root k (k.valueIn entries) (k.chosen settings)) ∧
      ∀ gs q loc' entries' settings', Holds gs q loc' entries' → loc'.dropLast = loc.dropLast →
        load gs q = .ok settings' → ∀ k : Setting,
        k.valueIn entries' = k.valueIn entries ∨
          Relation.ReflTransGen (Beside k.place.1 k.place.2) entries entries' →
        k.chosen settings' = k.chosen settings) ∧
    ∀ gs d e, FileSystem.expandHome gs d = .ok e → gs.isDirectory e = .ok true →
      (gs.isDirectory (e.child fileName) = .ok false →
        load gs d = load gs (d.child fileName)) ∧
      ∀ why, gs.isDirectory (e.child fileName) = .error why →
        load gs (d.child fileName) = .error (.unknown why) := by
  refine ⟨?_, fun gs d e hhome hdir =>
    ⟨load_child_eq hhome hdir, fun why => load_child_eq_error hhome⟩⟩
  obtain ⟨settings, hload⟩ := h.exists_load hfits
  obtain ⟨hroot, hdetermines⟩ := h.determines hload
  refine ⟨settings, hload, hroot, hroot ▸ hdetermines, ?_⟩
  intro gs q loc' entries' settings' h' hparent hload' k hsame
  have hvalue : k.valueIn entries' = k.valueIn entries := hsame.elim id valueAt_eq_of_edits
  have hdetermines' := (h'.determines hload').2 k
  have hroots : (Path.ofLocation loc').parent = (Path.ofLocation loc).parent :=
    congrArg (Path.mk .slash) hparent
  rw [hvalue, hroots] at hdetermines'
  exact hdetermines'.unique (hdetermines k)

/-- A settings file with a word in capitals and white space, a section that is none, and a path from
the root. -/
def written : List Char :=
  "collect: \x7bkeys: ' No '\x7d\noutput: ~\nlogging: \x7bfile: /log\x7d\n".toList

def writtenEntries : List (Value × Value) :=
  [(.text "collect", .mapping [(.text "keys", .text " No ")]), (.text "output", .null),
    (.text "logging", .mapping [(.text "file", .text "/log")])]

def isWritten : Except LoadError Value → Bool
  | .ok (.mapping [(.text "collect", .mapping [(.text "keys", .text " No ")]),
      (.text "output", .null), (.text "logging", .mapping [(.text "file", .text "/log")])]) => true
  | _ => false

theorem eq_of_isWritten {r : Except LoadError Value} (h : isWritten r) :
    r = .ok (.mapping writtenEntries) := by
  unfold isWritten at h
  split at h
  · rfl
  · cases h

/-- A system with the settings file in its working directory. -/
def equipped : FileSystem where
  entries := [(["work"], .directory),
    (["work", ".tagcollect.yml"], .file (Text.Utf8.encode written))]
  workdir := ["work"]

theorem load_determined_equipped :
    let here : Path := ⟨.relative, []⟩
    Holds equipped here ["work", ".tagcollect.yml"] writtenEntries ∧ Fits writtenEntries ∧
      (∃ settings, load equipped here = .ok settings ∧ settings.collect.keys = false ∧
        settings.output.directory = .ofLocation ["work", "attributes"] ∧
        settings.journal.file = some (.ofLocation ["log"])) ∧
      load equipped here = load equipped (here.child fileName) := by
  intro here
  have hholds : Holds equipped here ["work", ".tagcollect.yml"] writtenEntries :=
    ⟨by decide +kernel, written, .mapping writtenEntries, by decide +kernel,
      eq_of_isWritten (by decide +kernel), .inl rfl⟩
  have hfits : Fits writtenEntries := by
    intro k n h
    cases k <;> cases h
  obtain ⟨⟨settings, hload, hroot, hdetermines, -⟩, hchild⟩ := load_determined hholds hfits
  have hspells : Text.Spells " No ".toList "no".toList :=
    ⟨[' '], ['N', 'o'], [' '], rfl, List.forall_mem_singleton.mpr rfl,
      List.forall_mem_singleton.mpr rfl, .cons (.inr rfl) (.cons (.inl rfl) .nil)⟩
  have hkeys := (hdetermines .keys).said (.flag false) (.word rfl (by decide) hspells)
  have hdirectory := (hdetermines .directory).unsaid fun c hmeans => by
    cases hmeans with
    | path _ hnames => cases hnames
  have hfile := (hdetermines .file).said _ (.path rfl (.text (s := "/log") (by decide)))
  rw [hroot] at hdirectory hfile
  refine ⟨hholds, hfits, ⟨settings, hload, ?_, ?_, ?_⟩, ?_⟩
  · exact Choice.flag.inj hkeys
  · exact Option.some.inj (Choice.path.inj hdirectory)
  · exact Choice.path.inj hfile
  · exact (hchild equipped here here rfl rfl).1 rfl

end Settings

end ProgramTags
