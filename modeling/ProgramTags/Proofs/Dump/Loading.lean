import ProgramTags.Dump.Load
import ProgramTags.Proofs.Dump.Located
import ProgramTags.Proofs.Json.Reading

/-!
# Faults of dump files

A file that is there gives a program or a fault. Most faults are met with: the file cannot be read,
its text is malformed, or its data break a rule of the format. Four slip through, and `Overlooked`
says which: a text uses up the stack, an integer of a JSON text is too long, a scalar of a YAML text
has no value, and an integer of a YAML text is wanted as a text and is too long for one.
`load_settles_iff` says that there are no others.
-/

namespace ProgramTags.Dump

/-- Whoever reads dumps is told of the fault as one of the file. -/
def LoadError.isReported : LoadError → Bool
  | .unreadable .. | .malformed .. | .dump .noRoot | .dump (.broken ..) => true
  | .notFound _ | .unknown _ | .exhausted _ | .number _ | .scalar _ | .dump (.number _) => false

/-- A fault of a text that is not met with. -/
inductive Overlooked (p : Path) (text : List Char) (stack : Stack)
    (surrogates : Text.Surrogates) : LoadError → Prop where
  /-- The stack is used up. -/
  | exhausted {fault : String} (full : stack text = some fault) :
    Overlooked p text stack surrogates (.exhausted fault)
  /-- A JSON text spells an integer with too many digits. -/
  | number {e : Decimal.LiteralTooLong} (room : stack text = none) (format : isJsonFile p = true)
    (read : Json.read text surrogates = .error (.number e))
    (long : Json.HasLongNumber text e.digits) : Overlooked p text stack surrogates (.number e)
  /-- A YAML text is well formed and has a scalar without a value. -/
  | scalar {e : Yaml.ScalarError} (room : stack text = none) (format : isJsonFile p = false)
    (read : Yaml.read text surrogates = .error (.scalar e)) :
    Overlooked p text stack surrogates (.scalar e)
  /-- In a YAML text an integer without a decimal text stands where a text is wanted. -/
  | shown {e : Decimal.TooLong} {data : Value} (room : stack text = none)
    (format : isJsonFile p = false) (read : Yaml.read text surrogates = .ok data)
    (long : data.numbersFit = false) (fault : program data = .error (.number e)) :
    Overlooked p text stack surrogates (.dump (.number e))

variable {p : Path} {text : List Char} {stack : Stack} {surrogates : Text.Surrogates}
  {data : Value} {e : LoadError}

theorem Overlooked.isReported (h : Overlooked p text stack surrogates e) :
    e.isReported = false := by
  cases h <;> rfl

/-- Only integers without a decimal text can be wanted as texts in vain. -/
theorem numbersFit_of_program_number {n : Decimal.TooLong}
    (h : program data = .error (.number n)) : data.numbersFit = false := by
  cases hfit : data.numbersFit with
  | false => rfl
  | true =>
    have hreports := program_reports hfit
    cases hfaults : violations data with
    | nil =>
      rw [hfaults] at hreports
      obtain ⟨program, hprogram⟩ := hreports
      rw [hprogram] at h
      cases h
    | cons fault rest =>
      rw [hfaults] at hreports
      cases hreports.eq_error.symm.trans h
      have hmem : Error.number n ∈ violations data := hfaults ▸ List.mem_cons_self
      rcases violations_located hfit _ hmem with ⟨hroot, -⟩ | ⟨loc, rule, v, hbroken, -⟩
      · cases hroot
      · cases hbroken

/-- What the reader of the format gives. -/
theorem readData_cases (p : Path) (surrogates : Text.Surrogates) (room : stack text = none) :
    (∃ data, readData p text surrogates = .ok data ∧
      (isJsonFile p = true ∧ Json.read text surrogates = .ok data ∨
        isJsonFile p = false ∧ Yaml.read text surrogates = .ok data)) ∨
      ∃ e, readData p text surrogates = .error e ∧
        (Overlooked p text stack surrogates e ∨ e.isReported = true) := by
  unfold readData
  split
  · rename_i hformat
    cases hread : Json.read text surrogates with
    | ok data => exact .inl ⟨data, rfl, .inl ⟨hformat, rfl⟩⟩
    | error e =>
      cases e with
      | number e =>
        exact .inr ⟨_, rfl, .inl (.number room hformat hread (Json.hasLongNumber_of_read hread))⟩
      | malformed fault index => exact .inr ⟨_, rfl, .inr rfl⟩
  · rename_i hformat
    have hformat := Bool.eq_false_iff.mpr hformat
    cases hread : Yaml.read text surrogates with
    | ok data => exact .inl ⟨data, rfl, .inr ⟨hformat, rfl⟩⟩
    | error e =>
      cases e with
      | scalar e => exact .inr ⟨_, rfl, .inl (.scalar room hformat hread)⟩
      | _ => exact .inr ⟨_, rfl, .inr rfl⟩

/-- A text gives a program, a fault that is reported, or one that is overlooked. -/
theorem ofText_cases (p : Path) (text : List Char) (stack : Stack)
    (surrogates : Text.Surrogates) :
    (∃ found, ofText p text stack surrogates = .ok found) ∨
      ∃ e, ofText p text stack surrogates = .error e ∧
        (Overlooked p text stack surrogates e ∨ e.isReported = true) := by
  unfold ofText
  cases room : stack text with
  | some fault => exact .inr ⟨_, rfl, .inl (.exhausted room)⟩
  | none =>
    rcases readData_cases p surrogates room with ⟨data, hread, hformat⟩ | ⟨e, hread, he⟩
    · rw [hread, Except.ok_bind]
      cases hnull : data.isNull with
      | true => exact .inl ⟨_, rfl⟩
      | false =>
        simp only [Bool.false_eq_true, if_false]
        cases hprogram : program data with
        | ok found => exact .inl ⟨found, rfl⟩
        | error e =>
          refine .inr ⟨.dump e, rfl, ?_⟩
          cases e with
          | noRoot => exact .inr rfl
          | broken loc rule => exact .inr rfl
          | number n =>
            have hlong := numbersFit_of_program_number hprogram
            rcases hformat with ⟨hjson, hread⟩ | ⟨hyaml, hread⟩
            · have hfit := Json.numbersFit_of_isData data (Json.isData_of_read hread)
              rw [hlong] at hfit
              cases hfit
            · exact .inl (.shown room hyaml hread hlong hprogram)
    · rw [hread]
      exact .inr ⟨e, rfl, he⟩

/-- A fault that is overlooked is that of the text. -/
theorem Overlooked.ofText_eq (h : Overlooked p text stack surrogates e) :
    ofText p text stack surrogates = .error e := by
  cases h with
  | exhausted full => simp only [ofText, full]
  | number room format read long =>
    simp only [ofText, readData, room, format, if_true, read]
    rfl
  | scalar room format read =>
    simp only [ofText, readData, room, format, Bool.false_eq_true, if_false, read]
    rfl
  | @shown n data room format read long fault =>
    have hnull : data.isNull = false := by
      cases data with
      | null => cases fault
      | _ => rfl
    simp only [ofText, readData, room, format, Bool.false_eq_true, if_false, read, Except.ok_bind,
      hnull, fault]
    rfl

/-! ## Files -/

variable {fs : FileSystem}

theorem load_of_doesExist (hp : fs.doesExist p = .ok true) :
    load fs p stack surrogates = (fs.readText p).mapError (.unreadable p.name) >>= fun text =>
      ofText p text stack surrogates := by
  unfold load
  rw [hp]
  rfl

theorem Overlooked.load_eq (h : Overlooked p text stack surrogates e)
    (hp : fs.doesExist p = .ok true) (htext : fs.readText p = .ok text) :
    load fs p stack surrogates = .error e := by
  rw [load_of_doesExist hp, htext, Except.mapError_ok, Except.ok_bind]
  exact h.ofText_eq

/-- What a path gives, by whether there is something. -/
theorem load_cases (fs : FileSystem) (p : Path) (stack : Stack) (surrogates : Text.Surrogates) :
    match fs.doesExist p with
    | .error e => load fs p stack surrogates = .error (.unknown e)
    | .ok false => load fs p stack surrogates = .error (.notFound p.text)
    | .ok true => (∃ found, load fs p stack surrogates = .ok found) ∨
        ∃ e, load fs p stack surrogates = .error e ∧
          ((∃ text, fs.readText p = .ok text ∧ Overlooked p text stack surrogates e) ∨
            e.isReported = true) := by
  cases hp : fs.doesExist p with
  | error e =>
    unfold load
    rw [hp]
    rfl
  | ok isThere =>
    cases isThere with
    | false =>
      unfold load
      rw [hp]
      rfl
    | true =>
      dsimp only
      rw [load_of_doesExist hp]
      cases htext : fs.readText p with
      | error fault => exact .inr ⟨.unreadable p.name fault, rfl, .inr rfl⟩
      | ok text =>
        rw [Except.mapError_ok, Except.ok_bind]
        rcases ofText_cases p text stack surrogates with
          hfound | ⟨e, he, hslip | hreported⟩
        · exact .inl hfound
        · exact .inr ⟨e, he, .inl ⟨text, rfl, hslip⟩⟩
        · exact .inr ⟨e, he, .inr hreported⟩

/-- A file that is there gives a program or a fault that is reported, unless its text has a fault
that is overlooked: then it gives that. -/
theorem load_settles_iff (hp : fs.doesExist p = .ok true) :
    ((∃ found, load fs p stack surrogates = .ok found) ∨
        (∃ e, load fs p stack surrogates = .error e ∧ e.isReported = true) ↔
        ∀ text e, fs.readText p = .ok text → ¬Overlooked p text stack surrogates e) ∧
      ∀ text e, fs.readText p = .ok text → Overlooked p text stack surrogates e →
        load fs p stack surrogates = .error e := by
  refine ⟨⟨fun h text e htext hslip => ?_, fun h => ?_⟩, fun text e htext hslip =>
    hslip.load_eq hp htext⟩
  · have hfails := hslip.load_eq hp htext
    rcases h with ⟨found, hfound⟩ | ⟨e', he', hreported⟩
    · rw [hfails] at hfound
      cases hfound
    · rw [hfails] at he'
      cases he'
      rw [hslip.isReported] at hreported
      cases hreported
  · have hcases := load_cases fs p stack surrogates
    rw [hp] at hcases
    rcases hcases with hfound | ⟨e, he, ⟨text, htext, hslip⟩ | hreported⟩
    · exact .inl hfound
    · exact absurd hslip (h text e htext)
    · exact .inr ⟨e, he, hreported⟩

/-- A dump with a day of a month that there is not. -/
def dayless : FileSystem :=
  { entries := [(["work"], .directory),
      (["work", "p.yml"], .file (Text.Utf8.encode "classes: 2020-13-45\n".toList))]
    workdir := ["work"] }

theorem load_settles_iff_dayless :
    let p := Path.ofText "p.yml"
    dayless.doesExist p = .ok true ∧
      load dayless p = .error (.scalar (.calendar .month)) ∧
      ¬((∃ found, load dayless p = .ok found) ∨
        ∃ e, load dayless p = .error e ∧ e.isReported = true) := by
  intro p
  have hp : dayless.doesExist p = .ok true := by decide +kernel
  have htext : dayless.readText p = .ok "classes: 2020-13-45\n".toList := by decide +kernel
  have hread : Yaml.read "classes: 2020-13-45\n".toList = .error (.scalar (.calendar .month)) := by
    have hfault : (match Yaml.read "classes: 2020-13-45\n".toList with
        | .ok _ => none
        | .error e => some e) = some (.scalar (.calendar .month)) := by
      decide +kernel
    split at hfault
    · cases hfault
    · rename_i he
      rw [he, Option.some.inj hfault]
  have hslip : Overlooked p "classes: 2020-13-45\n".toList .unbounded .none
      (.scalar (.calendar .month)) :=
    .scalar rfl (by decide +kernel) hread
  obtain ⟨hsettles, hfails⟩ := load_settles_iff hp
  exact ⟨hp, hfails _ _ htext hslip, fun h => hsettles.mp h _ _ htext hslip⟩

end ProgramTags.Dump
