import ProgramTags.Json.Printer
import ProgramTags.Proofs.Value.Numbers

/-!
# The data of JSON

`isData v`: nothing in `v` is foreign to JSON, and its integers have a text. `floats v` are the
floating-point numbers in such a value. JSON can spell all of them but infinities and what is no
number at all, so a value is printed exactly if its floating-point numbers are finite
(`print_isSome_iff`).
-/

namespace ProgramTags.Json

mutual

/-- The value has nothing that JSON has not, and all its integers have a decimal text. -/
def isData : Value → Bool
  | .null | .bool _ | .float _ | .text _ => true
  | .int n => !Decimal.isTooLong n
  | .list items => itemsAreData items
  | .mapping entries => entriesAreData entries
  | _ => false

def itemsAreData : List Value → Bool
  | [] => true
  | v :: rest => isData v && itemsAreData rest

/-- The values of the entries are data, and their keys are texts. -/
def entriesAreData : List (Value × Value) → Bool
  | [] => true
  | (.text _, v) :: rest => isData v && entriesAreData rest
  | _ :: _ => false

end

mutual

def floats : Value → List Float
  | .float x => [x]
  | .list items => itemFloats items
  | .mapping entries => entryFloats entries
  | _ => []

def itemFloats : List Value → List Float
  | [] => []
  | v :: rest => floats v ++ itemFloats rest

def entryFloats : List (Value × Value) → List Float
  | [] => []
  | (_, v) :: rest => floats v ++ entryFloats rest

end

/-! ## What data consists of -/

theorem itemsAreData_iff {items : List Value} :
    itemsAreData items = true ↔ ∀ v ∈ items, isData v = true := by
  induction items with
  | nil => simp [itemsAreData]
  | cons v rest ih => simp [itemsAreData, ih]

/-- An entry of data: its key is a text, and its value is data. -/
def IsEntry (e : Value × Value) : Prop :=
  (∃ name, e.1 = .text name) ∧ isData e.2 = true

theorem entriesAreData_iff {entries : List (Value × Value)} :
    entriesAreData entries = true ↔ ∀ e ∈ entries, IsEntry e := by
  induction entries with
  | nil => simp [entriesAreData]
  | cons e rest ih =>
    obtain ⟨k, v⟩ := e
    rw [List.forall_mem_cons, ← ih]
    cases k with
    | text name => simp [entriesAreData, IsEntry]
    | _ => simp [entriesAreData, IsEntry]

/-- Data has no anchors, so its entries are those that are written in it. -/
theorem isData_entries {v : Value} (h : isData v = true) {entries : List (Value × Value)}
    (hentries : v.entries? = some entries) : v = .mapping entries := by
  cases v with
  | mapping entries' =>
    cases hentries
    rfl
  | anchored id v =>
    rw [isData] at h
    · cases h
    all_goals exact nofun
  | _ => cases hentries

mutual

theorem numbersFit_of_isData : ∀ v : Value, isData v = true → v.numbersFit = true
  | .null | .bool _ | .float _ | .text _ => by
    intro _
    rfl
  | .int n => by
    intro h
    rwa [isData] at h
  | .list items => by
    intro h
    rw [isData] at h
    rw [Value.numbersFit]
    exact itemsFit_of_areData items h
  | .mapping entries => by
    intro h
    rw [isData] at h
    rw [Value.numbersFit]
    exact entriesFit_of_areData entries h
  | .bytes _ | .date _ | .dateTime _ | .pair .. | .set _ | .anchored .. | .again _ => by
    intro h
    rw [isData] at h
    · cases h
    all_goals exact nofun

theorem itemsFit_of_areData :
    ∀ items : List Value, itemsAreData items = true → Value.itemsFit items = true
  | [] => by
    intro _
    rfl
  | v :: rest => by
    intro h
    rw [itemsAreData, Bool.and_eq_true] at h
    rw [Value.itemsFit, numbersFit_of_isData v h.1, itemsFit_of_areData rest h.2]
    rfl

theorem entriesFit_of_areData :
    ∀ entries : List (Value × Value), entriesAreData entries = true →
      Value.entriesFit entries = true
  | [] => by
    intro _
    rfl
  | (k, v) :: rest => by
    intro h
    obtain ⟨⟨⟨name, hk⟩, hv⟩, hrest⟩ := List.forall_mem_cons.mp (entriesAreData_iff.mp h)
    cases hk
    rw [Value.entriesFit, numbersFit_of_isData v hv,
      entriesFit_of_areData rest (entriesAreData_iff.mpr hrest)]
    rfl

end

/-! ## Printing -/

mutual

/-- Only numbers that are not finite keep data from being printed. -/
theorem print_isSome_iff :
    ∀ v : Value, isData v = true →
      ((print v).isSome = true ↔ ∀ x ∈ floats v, x.isFinite = true)
  | .null | .bool _ | .int _ | .text _ => by
    intro _
    simp [print, floats]
  | .float x => by
    intro _
    rw [print]
    split <;> simp_all [floats]
  | .list items => by
    intro h
    rw [isData] at h
    rw [print, floats, ← printItems_isSome_iff items h]
    cases printItems items <;> simp
  | .mapping entries => by
    intro h
    rw [isData] at h
    rw [print, floats, ← printEntries_isSome_iff entries h]
    cases printEntries entries <;> simp
  | .bytes _ | .date _ | .dateTime _ | .pair .. | .set _ | .anchored .. | .again _ => by
    intro h
    rw [isData] at h
    · cases h
    all_goals exact nofun

theorem printItems_isSome_iff :
    ∀ items : List Value, itemsAreData items = true →
      ((printItems items).isSome = true ↔ ∀ x ∈ itemFloats items, x.isFinite = true)
  | [] => by
    intro _
    simp [printItems, itemFloats]
  | v :: rest => by
    intro h
    rw [itemsAreData, Bool.and_eq_true] at h
    rw [printItems, itemFloats, List.forall_mem_append, ← print_isSome_iff v h.1,
      ← printItems_isSome_iff rest h.2]
    cases print v <;> cases printItems rest <;> simp

theorem printEntries_isSome_iff :
    ∀ entries : List (Value × Value), entriesAreData entries = true →
      ((printEntries entries).isSome = true ↔ ∀ x ∈ entryFloats entries, x.isFinite = true)
  | [] => by
    intro _
    simp [printEntries, entryFloats]
  | (k, v) :: rest => by
    intro h
    obtain ⟨⟨⟨name, hk⟩, hv⟩, hrest⟩ := List.forall_mem_cons.mp (entriesAreData_iff.mp h)
    cases hk
    rw [printEntries, entryFloats, List.forall_mem_append, ← print_isSome_iff v hv,
      ← printEntries_isSome_iff rest (entriesAreData_iff.mpr hrest)]
    cases print v <;> cases printEntries rest <;> simp

end

end ProgramTags.Json
