import ProgramTags.Proofs.Reports
import ProgramTags.Settings.Load

/-!
# Faults of settings files

A path gives settings or a fault. A malformed text and one that holds no mapping are met with.
Everything else slips through, and `Overlooked` says what that is: a path that leads nowhere for
certain, a file that cannot be read, a text that uses up the stack, a scalar without a value, and an
integer for a path that has no decimal text.
-/

namespace ProgramTags.Settings

/-- Whoever reads settings is told of the fault as one of the file. -/
def LoadError.isReported : LoadError → Bool
  | .malformed .. | .notMapping => true
  | .exhausted _ | .unknown _ | .unreadable _ | .scalar _ | .number _ => false

/-- The settings that are paths, by section and key. -/
def pathKeys : List (String × String) :=
  [("output", "directory"), ("logging", "file")]

/-- A fault of a text that is not met with. -/
inductive Misread (text : List Char) (stack : Stack) (surrogates : Text.Surrogates) :
    LoadError → Prop where
  /-- The stack is used up. -/
  | exhausted {fault : String} (filled : text.all Text.isBlank = false)
    (full : stack text = some fault) : Misread text stack surrogates (.exhausted fault)
  /-- The text is well formed and has a scalar without a value. -/
  | scalar {e : Yaml.ScalarError} (filled : text.all Text.isBlank = false)
    (room : stack text = none) (read : Yaml.read text surrogates = .error (.scalar e)) :
    Misread text stack surrogates (.scalar e)
  /-- An integer without a decimal text stands where a path is wanted. -/
  | number {e : Decimal.TooLong} {data : Value} {entries : List (Value × Value)}
    {section_ key : String} {n : Int} (filled : text.all Text.isBlank = false)
    (room : stack text = none) (read : Yaml.read text surrogates = .ok data)
    (inside : data.entries? = some entries) (known : (section_, key) ∈ pathKeys)
    (value : valueAt entries section_ key = .int n) (long : Decimal.isTooLong n = true) :
    Misread text stack surrogates (.number e)

/-- A fault of a path that is not met with. -/
inductive Overlooked (fs : FileSystem) (p : Path) (stack : Stack) (surrogates : Text.Surrogates) :
    LoadError → Prop where
  /-- It cannot be found out which file is meant. -/
  | elusive {e : FileError} (place : locate fs p surrogates = .error e) :
    Overlooked fs p stack surrogates (.unknown e)
  /-- It cannot be found out whether there is a file. -/
  | unsure {loc : Location} {e : FileError} (place : locate fs p surrogates = .ok loc)
    (found : fs.doesExist (.ofLocation loc) = .error e) :
    Overlooked fs p stack surrogates (.unknown e)
  /-- There is something that has no text. -/
  | unreadable {loc : Location} {e : FileSystem.ReadError}
    (place : locate fs p surrogates = .ok loc)
    (found : fs.doesExist (.ofLocation loc) = .ok true)
    (content : fs.readText (.ofLocation loc) = .error e) :
    Overlooked fs p stack surrogates (.unreadable e)
  | misread {loc : Location} {text : List Char} {e : LoadError}
    (place : locate fs p surrogates = .ok loc)
    (found : fs.doesExist (.ofLocation loc) = .ok true)
    (content : fs.readText (.ofLocation loc) = .ok text)
    (fault : Misread text stack surrogates e) : Overlooked fs p stack surrogates e

variable {stack : Stack} {surrogates : Text.Surrogates}

theorem Overlooked.isReported {fs : FileSystem} {p : Path} {e : LoadError}
    (h : Overlooked fs p stack surrogates e) : e.isReported = false := by
  cases h with
  | misread place found content fault => cases fault <;> rfl
  | _ => rfl

/-! ## Texts -/

section

variable {root : Path} {name : String} {text : List Char} {entries : List (Value × Value)}
  {e : LoadError}

theorem path?_of_isTooLong {v : Value} {n : Int} (h : v = .int n)
    (hlong : Decimal.isTooLong n = true) : path? v = .error {} := by
  rw [h, path?, Decimal.text, hlong]
  rfl

/-- A value gives a path or nothing, unless it is an integer that is too long. -/
theorem path?_cases (v : Value) :
    (∃ path, path? v = .ok path) ∨ ∃ n, v = .int n ∧ Decimal.isTooLong n = true := by
  cases v with
  | int n =>
    cases hlong : Decimal.isTooLong n with
    | true => exact .inr ⟨n, rfl, hlong⟩
    | false =>
      refine .inl ⟨some (.ofText (toString n)), ?_⟩
      rw [path?, Decimal.text, hlong]
      rfl
  | _ => exact .inl ⟨_, rfl⟩

/-- Settings are read from sections unless a path among them is an integer that is too long. -/
theorem ofSections_cases (root : Path) (entries : List (Value × Value)) :
    (∃ settings, ofSections root entries = .ok settings) ∨
      ∃ section_ key n, (section_, key) ∈ pathKeys ∧ valueAt entries section_ key = .int n ∧
        Decimal.isTooLong n = true ∧ ofSections root entries = .error {} := by
  unfold ofSections
  rcases path?_cases (valueAt entries "output" "directory") with
    ⟨directory, hdirectory⟩ | ⟨n, hn, hlong⟩
  · rw [hdirectory]
    rcases path?_cases (valueAt entries "logging" "file") with ⟨file, hfile⟩ | ⟨n, hn, hlong⟩
    · rw [hfile]
      exact .inl ⟨_, rfl⟩
    · rw [path?_of_isTooLong hn hlong]
      exact .inr ⟨"logging", "file", n, by simp [pathKeys], hn, hlong, rfl⟩
  · rw [path?_of_isTooLong hn hlong]
    exact .inr ⟨"output", "directory", n, by simp [pathKeys], hn, hlong, rfl⟩

/-- An integer for a path that is too long keeps settings from being read. -/
theorem ofSections_eq_error {section_ key : String} {n : Int} (known : (section_, key) ∈ pathKeys)
    (value : valueAt entries section_ key = .int n) (long : Decimal.isTooLong n = true) :
    ofSections root entries = .error {} := by
  unfold ofSections
  simp only [pathKeys, List.mem_cons, List.not_mem_nil, or_false, Prod.mk.injEq] at known
  rcases known with ⟨rfl, rfl⟩ | ⟨rfl, rfl⟩
  · rw [path?_of_isTooLong value long]
    rfl
  · rw [path?_of_isTooLong value long]
    rcases path?_cases (valueAt entries "output" "directory") with
      ⟨directory, hdirectory⟩ | ⟨n, hn, hlong⟩
    · rw [hdirectory]
      rfl
    · rw [path?_of_isTooLong hn hlong]
      rfl

/-- A text gives a value, a fault that is reported, or one that is overlooked. -/
theorem readValue_cases (name : String) (text : List Char) (stack : Stack)
    (surrogates : Text.Surrogates) :
    (∃ v, readValue name text stack surrogates = .ok v ∧ (v = .null ∨
      text.all Text.isBlank = false ∧ stack text = none ∧ Yaml.read text surrogates = .ok v)) ∨
      ∃ e, readValue name text stack surrogates = .error e ∧
        (Misread text stack surrogates e ∨ e.isReported = true) := by
  unfold readValue
  split
  · exact .inl ⟨.null, rfl, .inl rfl⟩
  · rename_i hblank
    have hfilled := Bool.eq_false_iff.mpr hblank
    cases hstack : stack text with
    | some fault => exact .inr ⟨_, rfl, .inl (.exhausted hfilled hstack)⟩
    | none =>
      cases hread : Yaml.read text surrogates with
      | ok v => exact .inl ⟨v, rfl, .inr ⟨hfilled, rfl, rfl⟩⟩
      | error e =>
        cases e with
        | scalar e => exact .inr ⟨_, rfl, .inl (.scalar hfilled hstack hread)⟩
        | _ => exact .inr ⟨_, rfl, .inr rfl⟩

theorem ofText_cases (root : Path) (name : String) (text : List Char) (stack : Stack)
    (surrogates : Text.Surrogates) :
    (∃ settings, ofText root name text stack surrogates = .ok settings) ∨
      ∃ e, ofText root name text stack surrogates = .error e ∧
        (Misread text stack surrogates e ∨ e.isReported = true) := by
  unfold ofText
  rcases readValue_cases name text stack surrogates with ⟨v, hv, hread⟩ | ⟨e, he, hfault⟩
  · rw [hv, Except.ok_bind]
    dsimp only
    split
    · rename_i entries hentries
      rcases ofSections_cases root entries with
        ⟨settings, h⟩ | ⟨section_, key, n, hknown, hvalue, hlong, h⟩
      · rw [h]
        exact .inl ⟨settings, rfl⟩
      · rw [h]
        refine .inr ⟨_, rfl, .inl ?_⟩
        rcases hread with rfl | ⟨hfilled, hroom, hread⟩
        · cases hentries
          cases hvalue
        · cases hnull : v.isNull with
          | true =>
            rw [hnull] at hentries
            cases hentries
            cases hvalue
          | false =>
            rw [hnull] at hentries
            exact .number hfilled hroom hread hentries hknown hvalue hlong
    · exact .inr ⟨.notMapping, rfl, .inr rfl⟩
  · rw [he]
    exact .inr ⟨e, rfl, hfault⟩

/-- A fault that is overlooked in a text is that of the text. -/
theorem Misread.ofText_eq (h : Misread text stack surrogates e) :
    ofText root name text stack surrogates = .error e := by
  unfold ofText
  cases h with
  | exhausted filled full =>
    simp only [readValue, filled, Bool.false_eq_true, if_false, full]
    rfl
  | scalar filled room read =>
    simp only [readValue, filled, Bool.false_eq_true, if_false, room, read]
    rfl
  | @number long data entries section_ key n filled room read inside known value toolong =>
    have hnull : data.isNull = false := by
      cases data with
      | null => cases inside
      | _ => rfl
    simp only [readValue, filled, Bool.false_eq_true, if_false, room, read, Except.ok_bind, hnull,
      inside, ofSections_eq_error known value toolong]
    rfl

end

/-! ## Files -/

section

variable {fs : FileSystem} {p : Path} {e : LoadError}

/-- A path gives settings, a fault that is reported, or one that is overlooked. -/
theorem load_cases (fs : FileSystem) (p : Path) (stack : Stack) (surrogates : Text.Surrogates) :
    (∃ settings, load fs p stack surrogates = .ok settings) ∨
      ∃ e, load fs p stack surrogates = .error e ∧
        (Overlooked fs p stack surrogates e ∨ e.isReported = true) := by
  unfold load
  cases hplace : locate fs p surrogates with
  | error e => exact .inr ⟨.unknown e, rfl, .inl (.elusive hplace)⟩
  | ok loc =>
    rw [Except.mapError_ok, Except.ok_bind]
    dsimp only
    cases hfound : fs.doesExist (.ofLocation loc) with
    | error e => exact .inr ⟨.unknown e, rfl, .inl (.unsure hplace hfound)⟩
    | ok found =>
      rw [Except.mapError_ok, Except.ok_bind]
      cases found with
      | false => exact .inl ⟨_, rfl⟩
      | true =>
        simp only [Bool.not_true, Bool.false_eq_true, if_false]
        cases htext : fs.readText (.ofLocation loc) with
        | error e => exact .inr ⟨.unreadable e, rfl, .inl (.unreadable hplace hfound htext)⟩
        | ok text =>
          rw [Except.mapError_ok, Except.ok_bind]
          rcases ofText_cases (Path.ofLocation loc).parent (Path.ofLocation loc).name text stack
            surrogates with hsettings | ⟨e, he, hslip | hreported⟩
          · exact .inl hsettings
          · exact .inr ⟨e, he, .inl (.misread hplace hfound htext hslip)⟩
          · exact .inr ⟨e, he, .inr hreported⟩

/-- A fault that is overlooked is that of the path. -/
theorem Overlooked.load_eq (h : Overlooked fs p stack surrogates e) :
    load fs p stack surrogates = .error e := by
  unfold load
  cases h with
  | elusive place =>
    rw [place]
    rfl
  | unsure place found =>
    simp only [place, found, Except.mapError_ok, Except.ok_bind]
    rfl
  | unreadable place found content =>
    simp only [place, found, content, Except.mapError_ok, Except.ok_bind]
    rfl
  | misread place found content fault =>
    simp only [place, found, content, Except.mapError_ok, Except.ok_bind]
    exact fault.ofText_eq

end

end ProgramTags.Settings
