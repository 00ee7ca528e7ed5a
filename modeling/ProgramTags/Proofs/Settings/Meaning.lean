import Mathlib.Logic.Relation
import ProgramTags.Proofs.FileSystem.Find
import ProgramTags.Proofs.Settings.Loading
import ProgramTags.Proofs.Text.Words

/-!
# What settings files mean

Each setting has a place of its own, a section and a key, and `Says` lists what a value there says
for it. A file that holds a mapping gives settings, and each is what the value in its place says, or
the standard if that says nothing (`Holds.determines`). So nothing that happens to the file beside
that place has a say in it (`Beside.valueAt_eq`).
-/

namespace ProgramTags.Settings

/-- What can be chosen. -/
inductive Setting where
  | includeBodies
  | keys
  | directory
  | skipEmpty
  | verbose
  | file
  deriving DecidableEq, Repr

/-- What is chosen: yes or no, or a path if any. -/
inductive Choice where
  | flag (b : Bool)
  | path (p : Option Path)
  deriving DecidableEq, Repr

def words : Bool → List String
  | true => ["true", "yes", "1"]
  | false => ["false", "no", "0"]

/-- The text that a value gives where a path is wanted. -/
inductive Names : Value → String → Prop
  | text {s : String} (h : s ≠ "") : Names (.text s) s
  | int (n : Int) : Names (.int n) (toString n)
  | float (x : Float) : Names (.float x) (Decimal.floatText x)

namespace Setting

def place : Setting → String × String
  | .includeBodies => ("collect", "include_bodies")
  | .keys => ("collect", "keys")
  | .directory => ("output", "directory")
  | .skipEmpty => ("output", "skip_empty")
  | .verbose => ("logging", "verbose")
  | .file => ("logging", "file")

def isPath : Setting → Bool
  | .directory | .file => true
  | _ => false

def standard (root : Path) : Setting → Choice
  | .includeBodies | .keys | .skipEmpty => .flag true
  | .verbose => .flag false
  | .directory => .path (some (root.child "attributes"))
  | .file => .path none

def chosen (settings : Settings) : Setting → Choice
  | .includeBodies => .flag settings.collect.includeBodies
  | .keys => .flag settings.collect.keys
  | .directory => .path (some settings.output.directory)
  | .skipEmpty => .flag settings.output.skipEmpty
  | .verbose => .flag settings.journal.verbose
  | .file => .path settings.journal.file

def valueIn (entries : List (Value × Value)) (k : Setting) : Value :=
  valueAt entries k.place.1 k.place.2

/-- What a value in the place of the setting says, where paths start from the root: yes or no, as
such or as one of the words in any case and with white space around it, or a path. -/
inductive Says (root : Path) (k : Setting) : Value → Choice → Prop
  | bool (b : Bool) (hk : k.isPath = false) : Says root k (.bool b) (.flag b)
  | word {s word : String} {b : Bool} (hk : k.isPath = false) (hword : word ∈ words b)
      (hspells : Text.Spells s.toList word.toList) : Says root k (.text s) (.flag b)
  | path {v : Value} {text : String} (hk : k.isPath = true) (hnames : Names v text) :
      Says root k v (.path (some (root.join (.ofText text))))

/-- The choice is what the value says, or the standard if it says nothing. -/
structure Determines (root : Path) (k : Setting) (v : Value) (c : Choice) : Prop where
  said : ∀ c', Says root k v c' → c = c'
  unsaid : (∀ c', ¬Says root k v c') → c = k.standard root

end Setting

theorem Setting.Determines.unique {root : Path} {k : Setting} {v : Value} {c c' : Choice}
    (h : Determines root k v c) (h' : Determines root k v c') : c = c' := by
  by_cases hmeans : ∃ said, Says root k v said
  · obtain ⟨said, hmeans⟩ := hmeans
    exact (h.said said hmeans).trans (h'.said said hmeans).symm
  · rw [not_exists] at hmeans
    exact (h.unsaid hmeans).trans (h'.unsaid hmeans).symm

open Setting (Says Determines)

variable {root : Path} {entries entries' : List (Value × Value)} {k : Setting} {v : Value}

/-! ## Yes and no -/

theorem words_plain : ∀ b, ∀ word ∈ words b,
    word.toList ≠ [] ∧ ∀ d ∈ word.toList, d ∈ Text.plain := by
  have htable : ∀ b, ∀ word ∈ words b,
      word.toList ≠ [] ∧ word.toList.all (· ∈ Text.plain) = true := by decide +kernel
  intro b word hword
  exact (htable b word hword).imp_right List.all_iff_forall_prop.mp

theorem ofWord?_eq_some_iff {word : String} {b : Bool} :
    ofWord? word = some b ↔ word ∈ words b := by
  unfold ofWord?
  split
  · rename_i hyes
    cases b with
    | true => exact iff_of_true rfl hyes
    | false =>
      refine iff_of_false nofun fun hno => ?_
      simp only [words, List.mem_cons, List.not_mem_nil, or_false] at hyes hno
      rcases hyes with rfl | rfl | rfl <;> simp at hno
  · rename_i hyes
    split
    · rename_i hno
      cases b with
      | true => exact iff_of_false nofun hyes
      | false => exact iff_of_true rfl hno
    · rename_i hno
      cases b with
      | true => exact iff_of_false nofun hyes
      | false => exact iff_of_false nofun hno

/-- What is read as yes or no is what the value says. -/
theorem choice?_eq_some_iff {b : Bool} (hk : k.isPath = false) :
    choice? v = some b ↔ Says root k v (.flag b) := by
  constructor
  · intro h
    unfold choice? at h
    split at h
    · cases h
      exact .bool _ hk
    · rename_i s
      have hword := ofWord?_eq_some_iff.mp h
      obtain ⟨hne, hplain⟩ := words_plain b _ hword
      rw [String.toList_ofList] at hne hplain
      refine .word hk hword ?_
      rw [String.toList_ofList]
      exact (Text.lower_trimBlank_eq_iff hplain hne).mp rfl
    · cases h
  · rintro (⟨b, -⟩ | ⟨-, hword, hspells⟩)
    · rfl
    · rename_i s word
      obtain ⟨hne, hplain⟩ := words_plain b _ hword
      rw [choice?, (Text.lower_trimBlank_eq_iff hplain hne).mpr hspells, String.ofList_toList]
      exact ofWord?_eq_some_iff.mpr hword

theorem determines_flag {b : Bool} (hk : k.isPath = false) (hstandard : k.standard root = .flag b)
    (v : Value) : Determines root k v (.flag ((choice? v).getD b)) := by
  refine ⟨fun c' h => ?_, fun h => ?_⟩
  · cases h with
    | bool b' _ => rfl
    | @word s word b' _ hword hspells =>
      have hsaid : Says root k (.text s) (.flag b') := .word hk hword hspells
      rw [(choice?_eq_some_iff hk).mpr hsaid]
      rfl
    | path hpath _ =>
      rw [hk] at hpath
      cases hpath
  · cases hchoice : choice? v with
    | none => exact hstandard.symm
    | some b' => exact absurd ((choice?_eq_some_iff hk).mp hchoice) (h (.flag b'))

/-! ## Paths -/

/-- What is read as a path is what the value gives as a text. -/
theorem path?_eq_ok {p : Option Path} (h : path? v = .ok p) :
    (∃ text, Names v text ∧ p = some (.ofText text)) ∨ p = none ∧ ∀ text, ¬Names v text := by
  unfold path? at h
  split at h
  · rename_i s
    cases h
    by_cases hs : s = ""
    · subst hs
      refine .inr ⟨rfl, ?_⟩
      rintro text ⟨hne⟩
      exact hne rfl
    · exact .inl ⟨s, .text hs, by simp [hs]⟩
  · rename_i n
    refine .inl ⟨toString n, .int n, ?_⟩
    unfold Decimal.text at h
    split at h
    · cases h
    · cases h
      rfl
  · rename_i x
    cases h
    exact .inl ⟨_, .float x, rfl⟩
  · rename_i htext hint hfloat
    cases h
    refine .inr ⟨rfl, ?_⟩
    rintro text (_ | _ | _)
    · exact htext _ rfl
    · exact hint _ rfl
    · exact hfloat _ rfl

theorem Names.unique {text text' : String} (h : Names v text) (h' : Names v text') :
    text = text' := by
  cases h <;> cases h' <;> rfl

theorem determines_path {p : Option Path} (hk : k.isPath = true) {q : Option Path}
    (hstandard : k.standard root = .path q) (h : path? v = .ok p) :
    Determines root k v (.path ((p.map root.join).or q)) := by
  refine ⟨fun c' hmeans => ?_, fun hmeans => ?_⟩
  · cases hmeans with
    | bool b hk' => rw [hk] at hk'; cases hk'
    | word hk' _ _ => rw [hk] at hk'; cases hk'
    | @path _ text _ hnames =>
      rcases path?_eq_ok h with ⟨text', hnames', rfl⟩ | ⟨-, hnone⟩
      · rw [hnames.unique hnames']
        rfl
      · exact absurd hnames (hnone text)
  · rcases path?_eq_ok h with ⟨text, hnames, -⟩ | ⟨rfl, -⟩
    · exact absurd (.path hk hnames) (hmeans _)
    · exact hstandard.symm

/-! ## Files -/

theorem ofSections_determines {settings : Settings} (h : ofSections root entries = .ok settings) :
    settings.root = root ∧ ∀ k, Determines root k (k.valueIn entries) (k.chosen settings) := by
  obtain ⟨directory, hdirectory, h⟩ := Except.bind_eq_ok h
  obtain ⟨file, hfile, h⟩ := Except.bind_eq_ok h
  cases h
  refine ⟨rfl, fun k => ?_⟩
  cases k with
  | includeBodies | keys | skipEmpty | verbose => exact determines_flag rfl rfl _
  | directory =>
    have hdetermines : Determines root .directory (Setting.directory.valueIn entries)
        (.path ((directory.map root.join).or (some (root.child "attributes")))) :=
      determines_path rfl rfl hdirectory
    cases directory with
    | none => exact hdetermines
    | some p => exact hdetermines
  | file =>
    have hdetermines : Determines root .file (Setting.file.valueIn entries)
        (.path ((file.map root.join).or none)) := determines_path rfl rfl hfile
    rwa [Option.or_none] at hdetermines

/-- The file that the path means is at the location and holds a mapping with the entries, or
nothing, which counts as one without any. -/
structure Holds (fs : FileSystem) (p : Path) (loc : Location) (entries : List (Value × Value)) :
    Prop where
  place : locate fs p = .ok loc
  content : ∃ text v, fs.readText (.ofLocation loc) = .ok text ∧
    readValue (Path.ofLocation loc).name text = .ok v ∧
    (v.entries? = some entries ∨ v = .null ∧ entries = [])

/-- No integer in the place of a path has too many digits. -/
def Fits (entries : List (Value × Value)) : Prop :=
  ∀ k : Setting, ∀ n, k.valueIn entries = .int n → Decimal.isTooLong n = false

theorem Holds.load_eq {fs : FileSystem} {p : Path} {loc : Location} (h : Holds fs p loc entries) :
    load fs p = (ofSections (Path.ofLocation loc).parent entries).mapError .number := by
  obtain ⟨hplace, text, v, htext, hread, hentries⟩ := h
  unfold load
  simp only [hplace, FileSystem.doesExist_of_readText htext, htext, Except.mapError_ok,
    Except.ok_bind, Bool.not_true, Bool.false_eq_true, if_false, ofText, hread]
  rcases hentries with hentries | ⟨rfl, rfl⟩
  · have hnull : v.isNull = false := by
      cases v with
      | null => cases hentries
      | _ => rfl
    simp only [hnull, Bool.false_eq_true, if_false, hentries]
  · rfl

/-- Whatever settings the file gives, each is what the value in its place says, or the standard. -/
theorem Holds.determines {fs : FileSystem} {p : Path} {loc : Location} {settings : Settings}
    (h : Holds fs p loc entries) (hload : load fs p = .ok settings) :
    settings.root = (Path.ofLocation loc).parent ∧
      ∀ k, Determines (Path.ofLocation loc).parent k (k.valueIn entries) (k.chosen settings) := by
  rw [h.load_eq] at hload
  exact ofSections_determines (Except.mapError_eq_ok hload)

/-- A file that holds a mapping without integers that are too long gives settings. -/
theorem Holds.exists_load {fs : FileSystem} {p : Path} {loc : Location}
    (h : Holds fs p loc entries) (hfits : Fits entries) :
    ∃ settings, load fs p = .ok settings := by
  rcases ofSections_cases (Path.ofLocation loc).parent entries with
    ⟨settings, hsettings⟩ | ⟨section_, key, n, hknown, hvalue, hlong, -⟩
  · exact ⟨settings, by rw [h.load_eq, hsettings, Except.mapError_ok]⟩
  · have hfit : Decimal.isTooLong n = false := by
      simp only [pathKeys, List.mem_cons, List.not_mem_nil, or_false, Prod.mk.injEq] at hknown
      rcases hknown with ⟨rfl, rfl⟩ | ⟨rfl, rfl⟩
      · exact hfits .directory n hvalue
      · exact hfits .file n hvalue
    rw [hfit] at hlong
    cases hlong

/-! ## Edits beside a place -/

/-- The mapping is edited, and not in the place: entries that do not have the section as their key
take the place of others, or within the section, which stays a mapping, entries that do not have the
key. -/
inductive Beside (section_ key : String) :
    List (Value × Value) → List (Value × Value) → Prop
  | outside (before old new after : List (Value × Value))
      (hold : ∀ e ∈ old, e.1.isText section_ = false)
      (hnew : ∀ e ∈ new, e.1.isText section_ = false) :
      Beside section_ key (before ++ old ++ after) (before ++ new ++ after)
  | inside {before after inner old new outer : List (Value × Value)} {name v w : Value}
      (hv : v.entries? = some (inner ++ old ++ outer))
      (hw : w.entries? = some (inner ++ new ++ outer))
      (hold : ∀ e ∈ old, e.1.isText key = false) (hnew : ∀ e ∈ new, e.1.isText key = false) :
      Beside section_ key (before ++ (name, v) :: after) (before ++ (name, w) :: after)

theorem lookup_append_of_not_isText {key : String} (before after : List (Value × Value))
    {mid : List (Value × Value)} (h : ∀ e ∈ mid, e.1.isText key = false) :
    Value.lookup key (before ++ mid ++ after) = Value.lookup key (before ++ after) := by
  have hnone : mid.find? (fun e => e.1.isText key) = none := by
    rw [List.find?_eq_none]
    intro e he
    simp [h e he]
  simp only [Value.lookup, Value.lookup?, List.find?_append, hnone, Option.or_none]

/-- What is edited beside a place does not change the value there. -/
theorem Beside.valueAt_eq {section_ key : String} (h : Beside section_ key entries entries') :
    valueAt entries section_ key = valueAt entries' section_ key := by
  cases h with
  | outside before old new after hold hnew =>
    unfold valueAt
    rw [lookup_append_of_not_isText before after hold,
      lookup_append_of_not_isText before after hnew]
  | @inside before after inner old new outer name v w hv hw hold hnew =>
    have hinside : Value.lookup key (inner ++ old ++ outer) =
        Value.lookup key (inner ++ new ++ outer) := by
      rw [lookup_append_of_not_isText inner outer hold,
        lookup_append_of_not_isText inner outer hnew]
    unfold valueAt Value.lookup Value.lookup?
    rw [List.find?_append, List.find?_append]
    cases before.find? fun e => e.1.isText section_ with
    | some e => rfl
    | none =>
      rw [Option.none_or, Option.none_or, List.find?_cons, List.find?_cons]
      cases name.isText section_ with
      | false => rfl
      | true =>
        simp only [Option.map_some, Option.getD_some, hv, hw]
        exact hinside

/-- So any number of edits beside a place leaves the value there. -/
theorem valueAt_eq_of_edits {section_ key : String}
    (h : Relation.ReflTransGen (Beside section_ key) entries entries') :
    valueAt entries' section_ key = valueAt entries section_ key := by
  induction h with
  | refl => rfl
  | tail _ hedit ih => exact hedit.valueAt_eq.symm.trans ih

end ProgramTags.Settings
