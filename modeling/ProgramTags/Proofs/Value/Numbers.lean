import Mathlib.Algebra.Group.Int.Defs
import ProgramTags.Value.Display

/-!
# Numbers that have a text

`numbersFit v`: every integer in `v` is short enough to be written in decimal. Then `v` has a text
(`toText_eq_ok`). What a value contains is reached through `items?` and `entries?`, which take
anchors off; `Hereditary P` says that `P` passes on that way, and `hereditary_numbersFit` that
`numbersFit` does.
-/

namespace ProgramTags

theorem Decimal.isTooLong_limit : isTooLong (10 ^ digitLimit) = true := by
  unfold isTooLong
  generalize digitLimit = limit
  exact decide_eq_true (by rw [Int.natAbs_pow]; exact Nat.le_refl _)

theorem Decimal.text_eq_ok {n : Int} (h : isTooLong n = false) : text n = .ok (toString n) := by
  rw [text, h]
  rfl

namespace Value

mutual

def numbersFit : Value → Bool
  | .int n => !Decimal.isTooLong n
  | .list items => itemsFit items
  | .pair first second => numbersFit first && numbersFit second
  | .mapping entries => entriesFit entries
  | .set items => itemsFit items
  | .anchored _ v => numbersFit v
  | _ => true

def itemsFit : List Value → Bool
  | [] => true
  | v :: rest => numbersFit v && itemsFit rest

def entriesFit : List (Value × Value) → Bool
  | [] => true
  | (k, v) :: rest => numbersFit k && numbersFit v && entriesFit rest

end

theorem numbersFit_int {n : Int} : (int n).numbersFit = true ↔ Decimal.isTooLong n = false := by
  rw [numbersFit, Bool.not_eq_true']

theorem itemsFit_iff {items : List Value} :
    itemsFit items = true ↔ ∀ v ∈ items, v.numbersFit = true := by
  induction items with
  | nil => simp [itemsFit]
  | cons v rest ih => simp [itemsFit, ih]

theorem entriesFit_iff {entries : List (Value × Value)} :
    entriesFit entries = true ↔
      ∀ e ∈ entries, e.1.numbersFit = true ∧ e.2.numbersFit = true := by
  induction entries with
  | nil => simp [entriesFit]
  | cons e rest ih => simp [entriesFit, ih]

/-! ## Texts -/

mutual

theorem quoted_eq_ok (around : List (Nat × String)) :
    ∀ v : Value, v.numbersFit = true → ∃ s, quoted around v = .ok s
  | .null | .bool _ | .float _ | .text _ | .bytes _ | .date _ | .dateTime _ | .again _ => by
    intro _
    rw [quoted]
    exact ⟨_, rfl⟩
  | .int n => by
    intro h
    rw [quoted, Decimal.text_eq_ok (numbersFit_int.mp h)]
    exact ⟨_, rfl⟩
  | .list items => by
    intro h
    rw [numbersFit] at h
    obtain ⟨ss, hss⟩ := quotedItems_eq_ok around items h
    rw [quoted, hss]
    exact ⟨_, rfl⟩
  | .pair first second => by
    intro h
    rw [numbersFit, Bool.and_eq_true] at h
    obtain ⟨s, hs⟩ := quoted_eq_ok around first h.1
    obtain ⟨t, ht⟩ := quoted_eq_ok around second h.2
    rw [quoted, hs, ht]
    exact ⟨_, rfl⟩
  | .mapping entries => by
    intro h
    rw [numbersFit] at h
    obtain ⟨ss, hss⟩ := quotedEntries_eq_ok around entries h
    rw [quoted, hss]
    exact ⟨_, rfl⟩
  | .set items => by
    intro h
    rw [numbersFit] at h
    obtain ⟨ss, hss⟩ := quotedItems_eq_ok around items h
    rw [quoted, hss]
    split <;> exact ⟨_, rfl⟩
  | .anchored id v => by
    intro h
    rw [numbersFit] at h
    rw [quoted]
    split
    · exact ⟨_, rfl⟩
    · exact quoted_eq_ok _ v h

theorem quotedItems_eq_ok (around : List (Nat × String)) :
    ∀ items : List Value, itemsFit items = true → ∃ ss, quotedItems around items = .ok ss
  | [] => by
    intro _
    rw [quotedItems]
    exact ⟨_, rfl⟩
  | v :: rest => by
    intro h
    rw [itemsFit, Bool.and_eq_true] at h
    obtain ⟨s, hs⟩ := quoted_eq_ok around v h.1
    obtain ⟨ss, hss⟩ := quotedItems_eq_ok around rest h.2
    rw [quotedItems, hs, hss]
    exact ⟨_, rfl⟩

theorem quotedEntries_eq_ok (around : List (Nat × String)) :
    ∀ entries : List (Value × Value), entriesFit entries = true →
      ∃ ss, quotedEntries around entries = .ok ss
  | [] => by
    intro _
    rw [quotedEntries]
    exact ⟨_, rfl⟩
  | (k, v) :: rest => by
    intro h
    rw [entriesFit, Bool.and_eq_true, Bool.and_eq_true] at h
    obtain ⟨s, hs⟩ := quoted_eq_ok around k h.1.1
    obtain ⟨t, ht⟩ := quoted_eq_ok around v h.1.2
    obtain ⟨ss, hss⟩ := quotedEntries_eq_ok around rest h.2
    rw [quotedEntries, hs, ht, hss]
    exact ⟨_, rfl⟩

end

theorem toText_int_eq_error {n : Int} (h : Decimal.isTooLong n = true) :
    (int n).toText = .error {} := by
  simp only [toText, quoted, Decimal.text, h, if_true]

theorem toText_eq_ok {v : Value} (h : v.numbersFit = true) : ∃ s, v.toText = .ok s := by
  unfold toText
  split
  · exact ⟨_, rfl⟩
  · exact ⟨_, rfl⟩
  · exact ⟨_, rfl⟩
  · exact quoted_eq_ok [] v h

/-! ## Anchors -/

section

variable {id : Nat} {whole : Value}

-- What is put in for `again id` is the anchored value itself, so it need not be smaller than the
-- value it is put into: the recursion is on the latter alone.
mutual

theorem numbersFit_close (hw : whole.numbersFit = true) :
    ∀ v : Value, v.numbersFit = true → (close id whole v).numbersFit = true
  | .null | .bool _ | .int _ | .float _ | .text _ | .bytes _ | .date _ | .dateTime _ => by
    intro h
    rw [close]
    · exact h
    all_goals exact nofun
  | .list items => by
    intro h
    rw [numbersFit] at h
    rw [close, numbersFit]
    exact itemsFit_close hw items h
  | .pair first second => by
    intro h
    rw [numbersFit, Bool.and_eq_true] at h
    rw [close, numbersFit, numbersFit_close hw first h.1, numbersFit_close hw second h.2]
    rfl
  | .mapping entries => by
    intro h
    rw [numbersFit] at h
    rw [close, numbersFit]
    exact entriesFit_close hw entries h
  | .set items => by
    intro h
    rw [numbersFit] at h
    rw [close, numbersFit]
    exact itemsFit_close hw items h
  | .anchored other v => by
    intro h
    rw [numbersFit] at h
    rw [close]
    split
    · rw [numbersFit]
      exact h
    · rw [numbersFit]
      exact numbersFit_close hw v h
  | .again other => by
    intro h
    rw [close]
    split
    · exact hw
    · exact h

theorem itemsFit_close (hw : whole.numbersFit = true) :
    ∀ items : List Value, itemsFit items = true → itemsFit (closeItems id whole items) = true
  | [] => by
    intro h
    rw [closeItems]
    exact h
  | v :: rest => by
    intro h
    rw [itemsFit, Bool.and_eq_true] at h
    rw [closeItems, itemsFit, numbersFit_close hw v h.1, itemsFit_close hw rest h.2]
    rfl

theorem entriesFit_close (hw : whole.numbersFit = true) :
    ∀ entries : List (Value × Value), entriesFit entries = true →
      entriesFit (closeEntries id whole entries) = true
  | [] => by
    intro h
    rw [closeEntries]
    exact h
  | (k, v) :: rest => by
    intro h
    rw [entriesFit, Bool.and_eq_true, Bool.and_eq_true] at h
    rw [closeEntries, entriesFit, numbersFit_close hw k h.1.1, numbersFit_close hw v h.1.2,
      entriesFit_close hw rest h.2]
    rfl

end

end

theorem numbersFit_unfold {v : Value} (h : v.numbersFit = true) : v.unfold.numbersFit = true := by
  unfold unfold
  split
  · rename_i id v
    have hv : v.numbersFit = true := by rwa [numbersFit] at h
    exact numbersFit_close h v hv
  · exact h

/-! ## What passes on to the parts of a value -/

/-- What holds of a value holds of what it contains, and of null. -/
structure Hereditary (P : Value → Prop) : Prop where
  null : P .null
  item : ∀ {v : Value} {items : List Value}, P v → v.items? = some items → ∀ x ∈ items, P x
  entry : ∀ {v : Value} {entries : List (Value × Value)}, P v → v.entries? = some entries →
    ∀ e ∈ entries, P e.2

theorem lookup?_mem {key : String} {entries : List (Value × Value)} {v : Value}
    (h : lookup? key entries = some v) : ∃ e ∈ entries, e.2 = v := by
  obtain ⟨e, he, rfl⟩ := Option.map_eq_some_iff.mp h
  exact ⟨e, List.mem_of_find?_eq_some he, rfl⟩

namespace Hereditary

variable {P : Value → Prop} {v w : Value} {entries : List (Value × Value)} {key : String}

theorem lookup? (hP : Hereditary P) (hv : P v) (hentries : v.entries? = some entries)
    (h : Value.lookup? key entries = some w) : P w := by
  obtain ⟨e, hmem, rfl⟩ := lookup?_mem h
  exact hP.entry hv hentries e hmem

theorem lookup (hP : Hereditary P) (hv : P v) (hentries : v.entries? = some entries)
    (key : String) : P (Value.lookup key entries) := by
  unfold Value.lookup
  cases h : Value.lookup? key entries with
  | none => exact hP.null
  | some w => exact hP.lookup? hv hentries h

end Hereditary

theorem hereditary_true : Hereditary fun _ => True :=
  ⟨trivial, fun _ _ _ _ => trivial, fun _ _ _ _ => trivial⟩

theorem hereditary_numbersFit : Hereditary fun v => v.numbersFit = true where
  null := rfl
  item {v items} hv hitems := by
    have hfit := numbersFit_unfold hv
    unfold items? at hitems
    split at hitems
    · rename_i heq
      cases hitems
      rw [heq, numbersFit] at hfit
      exact itemsFit_iff.mp hfit
    · cases hitems
  entry {v entries} hv hentries := by
    have hfit := numbersFit_unfold hv
    unfold entries? at hentries
    split at hentries
    · rename_i heq
      cases hentries
      rw [heq, numbersFit] at hfit
      exact fun e he => (entriesFit_iff.mp hfit e he).2
    · cases hentries

end Value

end ProgramTags
